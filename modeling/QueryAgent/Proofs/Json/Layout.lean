import Mathlib.Data.List.Forall2
import Mathlib.Data.List.Pairwise
import Mathlib.Data.List.Perm.Basic
import QueryAgent.Proofs.Json.Grammar
import QueryAgent.Proofs.Json.Records

namespace QueryAgent.Json

/-!
# Layouts of objects

Two objects may differ in the order of their members, in the names by which they
give a field, and in members that name no field at all.  As a record they are
then decoded alike: both to one value, or neither to any.  What is wrong with an
object is left out of account here, since it depends on what comes first.
-/

/-- Two steps come to something when both do. -/
theorem toOption_bind
    (first : Except ε α)
    (second : α → Except ε β) :
    (first >>= second).toOption =
      first.toOption.bind fun value => (second value).toOption := by
  cases first <;>
    rfl

theorem toOption_map
    (first : Except ε α)
    (change : α → β) :
    (first.map change).toOption = first.toOption.map change := by
  cases first <;>
    rfl

/-! ## Fields apart -/

/-- Two fields under different names, of which neither disturbs the other. -/
structure Field.Apart
    (first second : Field σ) : Prop where
  names : ∀ name ∈ first.accepted, name ∉ second.accepted
  commute :
    ∀ depth part other state,
      ((first.fill depth part state).toOption.bind fun next =>
          (second.fill depth other next).toOption) =
        (second.fill depth other state).toOption.bind fun next =>
          (first.fill depth part next).toOption
  leaves :
    ∀ depth node before after,
      first.fill depth node before = .ok after →
        second.isGiven after = second.isGiven before
  left :
    ∀ depth node before after,
      second.fill depth node before = .ok after →
        first.isGiven after = first.isGiven before

instance Field.symm_apart : Std.Symm (Field.Apart (σ := σ)) where
  symm _ _ apart :=
    { names := fun name named other => apart.names name other named
      commute := fun depth part other state => (apart.commute depth other part state).symm
      leaves := apart.left
      left := apart.leaves }

/-- Fields that are filled in with decoded values are apart when the changes are. -/
theorem Field.apart_of_fill
    {first second : Field σ}
    {decode : Decoder α}
    {decodeOther : Decoder β}
    {change : α → σ → σ}
    {changeOther : β → σ → σ}
    (fill :
      first.fill = fun depth node before => do
        let value ← decode depth node
        .ok (change value before))
    (fillOther :
      second.fill = fun depth node before => do
        let value ← decodeOther depth node
        .ok (changeOther value before))
    (names : ∀ name ∈ first.accepted, name ∉ second.accepted)
    (commute :
      ∀ value other state,
        changeOther other (change value state) = change value (changeOther other state))
    (leaves : ∀ value state, second.isGiven (change value state) = second.isGiven state)
    (left : ∀ value state, first.isGiven (changeOther value state) = first.isGiven state) :
    first.Apart second where
  names := names
  commute := by
    intro depth part other state
    simp only [fill, fillOther, toOption_bind]
    cases (decode depth part).toOption <;>
      cases (decodeOther depth other).toOption <;>
        simp [Except.toOption, commute]
  leaves := by
    intro depth node before after filled
    rw [fill] at filled
    obtain ⟨value, _, rfl⟩ := filled_with filled
    exact leaves value before
  left := by
    intro depth node before after filled
    rw [fillOther] at filled
    obtain ⟨value, _, rfl⟩ := filled_with filled
    exact left value before

/-- Fields that are given once they are filled in, and apart from each other. -/
structure Record.Separate
    (record : Record σ) : Prop where
  apart : record.fields.Pairwise Field.Apart
  marks :
    ∀ field ∈ record.fields, ∀ depth node before after,
      field.fill depth node before = .ok after → field.isGiven after = true

/-! ## Members one by one -/

/-- A field filled in for the first time, nothing if that fails. -/
def Field.fillOnce?
    (field : Field σ)
    (depth : Nat)
    (part : Node)
    (state : σ) : Option σ :=
  if field.isGiven state then
    none
  else
    (field.fill depth part state).toOption

/-- What is filled in by one member, nothing if it is at fault. -/
def Record.fillMember?
    (record : Record σ)
    (depth : Nat)
    (member : TextLiteral × Node)
    (state : σ) : Option σ :=
  match member.1.content with
  | .error _ =>
      none
  | .ok name =>
      match record.fields.find? (fun field => field.accepted.contains name) with
      | none =>
          member.2.skip.toOption.map fun _ => state
      | some field =>
          field.fillOnce? depth member.2 state

/-- A member fails, is passed over, or fills in a field. -/
theorem Record.fillMember?_cases
    (record : Record σ)
    (depth : Nat)
    (member : TextLiteral × Node) :
    record.fillMember? depth member = (fun _ => none) ∨
      record.fillMember? depth member = some ∨
      ∃ field ∈ record.fields,
        record.fillMember? depth member = field.fillOnce? depth member.2 := by
  unfold Record.fillMember?
  cases member.1.content with
  | error cause =>
      exact .inl rfl
  | ok name =>
      dsimp only
      cases found : record.fields.find? (fun field => field.accepted.contains name) with
      | none =>
          cases member.2.skip with
          | error cause =>
              exact .inl rfl
          | ok done =>
              exact .inr (.inl rfl)
      | some field =>
          exact .inr (.inr ⟨field, List.mem_of_find?_eq_some found, rfl⟩)

/-- What is filled in by members, one after the other. -/
def Record.fillAll?
    (record : Record σ)
    (depth : Nat)
    (members : List (TextLiteral × Node))
    (filled : Option σ) : Option σ :=
  members.foldl (fun filled member => filled.bind (record.fillMember? depth member)) filled

section
variable (record : Record σ) (depth : Nat)

/-- Behind a fault nothing is filled in. -/
theorem Record.fillAll?_none
    (members : List (TextLiteral × Node)) :
    record.fillAll? depth members none = none := by
  induction members with
  | nil =>
      rfl
  | cons member rest inductionHypothesis =>
      exact inductionHypothesis

theorem Record.fillAll?_append
    (members others : List (TextLiteral × Node))
    (filled : Option σ) :
    record.fillAll? depth (members ++ others) filled =
      record.fillAll? depth others (record.fillAll? depth members filled) :=
  List.foldl_append

/-- Members are filled in from an object as they are one by one. -/
theorem Record.toOption_fillMembers
    (members : List (TextLiteral × Node))
    (state : σ) :
    (record.fillMembers depth members state).toOption =
      record.fillAll? depth members (some state) := by
  induction members generalizing state with
  | nil =>
      rfl
  | cons member rest inductionHypothesis =>
      obtain ⟨⟨content, skipping⟩, part⟩ := member
      have further (next : Option σ) :
          (next.bind fun state => (record.fillMembers depth rest state).toOption) =
            record.fillAll? depth rest next := by
        cases next with
        | none =>
            exact (record.fillAll?_none depth rest).symm
        | some state =>
            exact inductionHypothesis state
      rw [Record.fillMembers, Record.fillAll?, List.foldl_cons, ← Record.fillAll?, ← further,
        Option.bind_some, Record.fillMember?]
      cases content with
      | error cause =>
          rfl
      | ok name =>
          simp only [TextLiteral.read, bind, Except.bind]
          cases record.fields.find? (fun field => field.accepted.contains name) with
          | none =>
              cases part.skip <;>
                rfl
          | some field =>
              dsimp only
              unfold Field.fillOnce?
              split
              · rfl
              · cases field.fill depth part state <;>
                  rfl

end

/-- Two fields are filled in one after the other when neither has been given. -/
theorem Field.Apart.bind_fillOnce?
    {first second : Field σ}
    (apart : first.Apart second)
    (depth : Nat)
    (part other : Node)
    (state : σ) :
    (first.fillOnce? depth part state).bind (second.fillOnce? depth other) =
      if first.isGiven state || second.isGiven state then
        none
      else
        (first.fill depth part state).toOption.bind fun next =>
          (second.fill depth other next).toOption := by
  unfold Field.fillOnce?
  cases first.isGiven state with
  | true =>
      rfl
  | false =>
      cases filled : first.fill depth part state with
      | error cause =>
          cases second.isGiven state <;>
            rfl
      | ok next =>
          have kept := apart.leaves depth part state next filled
          cases given : second.isGiven state <;>
            simp [Except.toOption, kept, given]

/-- It makes no difference which of two fields is filled in first. -/
theorem Field.Apart.fillOnce?_comm
    {first second : Field σ}
    (apart : first.Apart second)
    (depth : Nat)
    (part other : Node)
    (state : σ) :
    (first.fillOnce? depth part state).bind (second.fillOnce? depth other) =
      (second.fillOnce? depth other state).bind (first.fillOnce? depth part) := by
  rw [apart.bind_fillOnce?, (symm apart).bind_fillOnce?, Bool.or_comm, apart.commute]

/-! ## Layouts -/

/-- Two members that are the same, or that give one field alike under any of its names. -/
inductive Record.MembersAlike
    (record : Record σ)
    (alike : Field σ → Node → Node → Prop) :
    TextLiteral × Node → TextLiteral × Node → Prop where
  | same
      (member : TextLiteral × Node) :
      MembersAlike record alike member member
  | given
      {field : Field σ}
      {literal other : TextLiteral}
      {name otherName : String}
      {part otherPart : Node}
      (inRecord : field ∈ record.fields)
      (spells : literal.content = .ok name)
      (accepted : name ∈ field.accepted)
      (spellsOther : other.content = .ok otherName)
      (acceptedOther : otherName ∈ field.accepted)
      (parts : alike field part otherPart) :
      MembersAlike record alike (literal, part) (other, otherPart)

/-- A member under a name that no field has, with any well-formed value. -/
inductive Record.Unknown
    (record : Record σ) : TextLiteral × Node → Prop where
  | named
      {literal : TextLiteral}
      {name : String}
      {part : Node}
      {text : List Char}
      (spells : literal.content = .ok name)
      (unknown : ∀ field ∈ record.fields, name ∉ field.accepted)
      (written : part.WrittenAs text) :
      Unknown record (literal, part)

/--
Two objects with members in any order that are alike one by one, but for
members of either object that no field is named in.
-/
inductive Record.Relaid
    (record : Record σ)
    (alike : Field σ → Node → Node → Prop) : Node → Node → Prop where
  | object
      {members others kept keptOthers extra extraOthers : List (TextLiteral × Node)}
      (placed : members.Perm (kept ++ extra))
      (placedOthers : others.Perm (keptOthers ++ extraOthers))
      (pairs : List.Forall₂ (record.MembersAlike alike) kept keptOthers)
      (unknown : ∀ member ∈ extra, record.Unknown member)
      (unknownOthers : ∀ member ∈ extraOthers, record.Unknown member) :
      Relaid record alike (.object members none) (.object others none)

/-- An unknown member is passed over. -/
theorem Record.Unknown.fillMember?
    {record : Record σ}
    {member : TextLiteral × Node}
    (unknown : record.Unknown member)
    (depth : Nat) :
    record.fillMember? depth member = some := by
  cases unknown with
  | @named literal name part text spells unknown written =>
      have noField :
          record.fields.find? (fun field => field.accepted.contains name) = none :=
        List.find?_eq_none.mpr fun field inRecord accepted =>
          unknown field inRecord (List.contains_iff_mem.mp accepted)
      funext state
      simp only [Record.fillMember?, spells, noField, written.skip]
      rfl

theorem Record.fillAll?_unknown
    {record : Record σ}
    {members : List (TextLiteral × Node)}
    (unknown : ∀ member ∈ members, record.Unknown member)
    (depth : Nat)
    (filled : Option σ) :
    record.fillAll? depth members filled = filled := by
  induction members with
  | nil =>
      rfl
  | cons member rest inductionHypothesis =>
      rw [Record.fillAll?, List.foldl_cons, (unknown member (by simp)).fillMember?,
        Option.bind_fun_some]
      exact inductionHypothesis fun other inRest => unknown other (by simp [inRest])

namespace Record.Separate

variable {record : Record σ} (separate : record.Separate)
include separate

/-- A name of a field leads to this field. -/
theorem find?_of_accepted
    {field : Field σ}
    (inRecord : field ∈ record.fields)
    {name : String}
    (accepted : name ∈ field.accepted) :
    record.fields.find? (fun other => other.accepted.contains name) = some field := by
  cases found : record.fields.find? (fun other => other.accepted.contains name) with
  | none =>
      have refused := List.find?_eq_none.mp found field inRecord
      exact absurd (List.contains_iff_mem.mpr accepted) refused
  | some other =>
      have named := List.find?_some found
      have acceptedToo : name ∈ other.accepted := List.contains_iff_mem.mp named
      have inRecordToo := List.mem_of_find?_eq_some found
      by_contra different
      exact
        (separate.apart.forall inRecord inRecordToo fun same => different (same ▸ rfl)).names
          name accepted acceptedToo

/-- A field is filled in only once. -/
theorem fillOnce?_twice
    {field : Field σ}
    (inRecord : field ∈ record.fields)
    (depth : Nat)
    (part other : Node)
    (state : σ) :
    (field.fillOnce? depth part state).bind (field.fillOnce? depth other) = none := by
  unfold Field.fillOnce?
  split
  · rfl
  · cases filled : field.fill depth part state with
    | error cause =>
        rfl
    | ok next =>
        exact if_pos (separate.marks field inRecord depth part state next filled)

/-- It makes no difference which of two members comes first. -/
theorem fillMember?_comm
    (depth : Nat)
    (member other : TextLiteral × Node)
    (state : σ) :
    (record.fillMember? depth member state).bind (record.fillMember? depth other) =
      (record.fillMember? depth other state).bind (record.fillMember? depth member) := by
  rcases record.fillMember?_cases depth member with fails | passes | ⟨field, inRecord, fills⟩
  · cases found : record.fillMember? depth other state <;>
      simp [fails]
  · cases found : record.fillMember? depth other state <;>
      simp [passes, found]
  · rcases record.fillMember?_cases depth other with
      fails | passes | ⟨another, inRecordToo, fillsOther⟩
    · cases found : record.fillMember? depth member state <;>
        simp [fails]
    · cases found : record.fillMember? depth member state <;>
        simp [passes, found]
    · rw [fills, fillsOther]
      by_cases same : field = another
      · rw [← same, separate.fillOnce?_twice inRecord, separate.fillOnce?_twice inRecord]
      · exact (separate.apart.forall inRecord inRecordToo same).fillOnce?_comm depth ..

/-- The order of members makes no difference. -/
theorem fillAll?_perm
    {members others : List (TextLiteral × Node)}
    (reordered : members.Perm others)
    (depth : Nat)
    (filled : Option σ) :
    record.fillAll? depth members filled = record.fillAll? depth others filled := by
  refine reordered.foldl_eq' (fun member _ other _ filled => ?_) filled
  cases filled with
  | none =>
      rfl
  | some state =>
      exact separate.fillMember?_comm depth member other state

section
variable {alike : Field σ → Node → Node → Prop} {depth : Nat}
  (fills :
    ∀ field ∈ record.fields, ∀ part other,
      alike field part other →
        ∀ state,
          (field.fill depth part state).toOption = (field.fill depth other state).toOption)
include fills

/-- Members that are alike fill in alike. -/
theorem fillMember?_alike
    {member other : TextLiteral × Node}
    (pair : record.MembersAlike alike member other) :
    record.fillMember? depth member = record.fillMember? depth other := by
  cases pair with
  | same =>
      rfl
  | given inRecord spells accepted spellsOther acceptedOther parts =>
      funext state
      simp only [Record.fillMember?, spells, spellsOther,
        separate.find?_of_accepted inRecord accepted,
        separate.find?_of_accepted inRecord acceptedOther, Field.fillOnce?,
        fills _ inRecord _ _ parts state]

theorem fillAll?_alike
    {members others : List (TextLiteral × Node)}
    (pairs : List.Forall₂ (record.MembersAlike alike) members others)
    (filled : Option σ) :
    record.fillAll? depth members filled = record.fillAll? depth others filled := by
  induction pairs generalizing filled with
  | nil =>
      rfl
  | cons pair _ inductionHypothesis =>
      rw [Record.fillAll?, List.foldl_cons, separate.fillMember?_alike fills pair]
      exact inductionHypothesis _

end

/-- Objects that differ in nothing but layout are decoded alike. -/
theorem decode_relaid
    {alike : Field σ → Node → Node → Prop}
    (fills :
      ∀ depth, ∀ field ∈ record.fields, ∀ part other,
        alike field part other →
          ∀ state,
            (field.fill depth part state).toOption = (field.fill depth other state).toOption)
    {node other : Node}
    (relaid : record.Relaid alike node other)
    (blank : σ)
    (finish : σ → Except DecodeError α)
    (depth : Nat) :
    (record.decode blank finish depth node).toOption =
      (record.decode blank finish depth other).toOption := by
  cases relaid with
  | @object members others kept keptOthers extra extraOthers placed placedOthers pairs
      unknown unknownOthers =>
      have filled (inner : Nat) :
          (record.fillMembers inner members blank).toOption =
            (record.fillMembers inner others blank).toOption := by
        calc
          (record.fillMembers inner members blank).toOption =
              record.fillAll? inner (kept ++ extra) (some blank) := by
            rw [Record.toOption_fillMembers, separate.fillAll?_perm placed]
          _ = record.fillAll? inner kept (some blank) := by
            rw [Record.fillAll?_append, Record.fillAll?_unknown unknown]
          _ = record.fillAll? inner keptOthers (some blank) :=
            separate.fillAll?_alike (fills inner) pairs _
          _ = record.fillAll? inner (keptOthers ++ extraOthers) (some blank) := by
            rw [Record.fillAll?_append, Record.fillAll?_unknown unknownOthers]
          _ = (record.fillMembers inner others blank).toOption := by
            rw [Record.toOption_fillMembers, separate.fillAll?_perm placedOthers]
      simp only [Record.decode, toOption_bind, filled]

end Record.Separate

/-! ## Lists -/

section
variable {decode : Decoder α} {depth : Nat}

/-- Items that are decoded alike one by one are so together. -/
theorem toOption_decodeItems
    {items others : List Node}
    (pairs :
      List.Forall₂
        (fun item other => (decode depth item).toOption = (decode depth other).toOption)
        items others) :
    (decodeItems decode depth items).toOption = (decodeItems decode depth others).toOption := by
  induction pairs with
  | nil =>
      rfl
  | cons pair _ inductionHypothesis =>
      simp only [decodeItems, toOption_bind, pair, inductionHypothesis]

/-- Lists of items that are decoded alike at any depth are decoded alike. -/
theorem toOption_decodeList
    {items others : List Node}
    (pairs :
      List.Forall₂
        (fun item other =>
          ∀ depth, (decode depth item).toOption = (decode depth other).toOption)
        items others) :
    (decodeList decode depth (.list items none)).toOption =
      (decodeList decode depth (.list others none)).toOption := by
  have filled (inner : Nat) :=
    toOption_decodeItems (pairs.imp fun _ _ alike => alike inner)
  simp only [decodeList, toOption_bind, filled]

end

end QueryAgent.Json
