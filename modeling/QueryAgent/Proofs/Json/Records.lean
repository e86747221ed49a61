import Mathlib.Data.List.Forall2
import QueryAgent.Json.Decode

namespace QueryAgent.Json

/-!
# Fields of records

A field is looked for in an object under its names and in a list at its place.
A record that has been decoded holds what was found there, and nothing where
nothing was found, whatever the other fields are given as.
-/

/-- The text spells one of some names. -/
def TextLiteral.spellsOne
    (names : List String)
    (literal : TextLiteral) : Bool :=
  match literal.content with
  | .ok name =>
      names.contains name
  | .error _ =>
      false

/-- What a document gives for the field of some names and of some place in its record. -/
def Node.field?
    (names : List String)
    (place : Nat) : Node → Option Node
  | .object members _ =>
      (members.find? (fun member => member.1.spellsOne names)).map (·.2)
  | .list items _ =>
      items[place]?
  | _ =>
      none

/-- What is held for a field: nothing for no part of a document, else the part decoded. -/
inductive DecodedFrom (decode : Decoder τ) (depth : Nat) : Option Node → Option τ → Prop where
  | absent :
      DecodedFrom decode depth none none
  | present
      {part : Node}
      {value : τ}
      (decodes : decode depth part = .ok value) :
      DecodedFrom decode depth (some part) (some value)

/-- What is held was decoded from what the document gives. -/
theorem DecodedFrom.exists_of_some
    {decode : Decoder τ}
    {depth : Nat}
    {part : Option Node}
    {value : τ}
    (source : DecodedFrom decode depth part (some value)) :
    ∃ node, part = some node ∧ decode depth node = .ok value := by
  cases source with
  | present decodes =>
      exact ⟨_, rfl, decodes⟩

/-- What the document gives is held, decoded. -/
theorem DecodedFrom.eq_some
    {decode : Decoder τ}
    {depth : Nat}
    {node : Node}
    {held : Option τ}
    {value : τ}
    (source : DecodedFrom decode depth (some node) held)
    (decodes : decode depth node = .ok value) :
    held = some value := by
  cases source with
  | present found =>
      rw [decodes] at found
      cases found
      rfl

/-- A field fills in nothing of what is held. -/
def Field.Keeps
    (field : Field σ)
    (held : σ → Option τ) : Prop :=
  ∀ depth node before after,
    field.fill depth node before = .ok after → held after = held before

/-- A field among the others of its record, with what is held for it. -/
structure Record.Slot
    (record : Record σ)
    (earlier : List (Field σ))
    (field : Field σ)
    (later : List (Field σ))
    (held : σ → Option τ)
    (decode : Decoder τ) : Prop where
  fields : record.fields = earlier ++ field :: later
  given : ∀ state, field.isGiven state = (held state).isSome
  fills :
    ∀ depth node before after,
      field.fill depth node before = .ok after →
        ∃ value, decode depth node = .ok value ∧ held after = some value
  keeps : ∀ other ∈ earlier ++ later, other.Keeps held
  apart :
    ∀ other ∈ earlier ++ later, ∀ name ∈ other.accepted, name ∉ field.accepted

/-! ## Steps that succeed -/

/-- Two steps succeed exactly when the first does and the second does with its result. -/
theorem bind_eq_ok
    {first : Except ε α}
    {second : α → Except ε β}
    {result : β} :
    first >>= second = .ok result ↔
      ∃ value, first = .ok value ∧ second value = .ok result := by
  cases first <;>
    simp [bind, Except.bind]

theorem eq_ok_of_toOption
    {result : Except ε α}
    {value : α}
    (same : result.toOption = some value) :
    result = .ok value := by
  cases result with
  | error cause =>
      cases same
  | ok found =>
      exact congrArg Except.ok (Option.some.inj same)

theorem exists_eq_ok_of_isSome
    {result : Except ε α}
    (succeeds : result.toOption.isSome = true) :
    ∃ value, result = .ok value :=
  (Option.isSome_iff_exists.mp succeeds).imp fun _ => eq_ok_of_toOption

/-- Two steps fail exactly when the first does, or the second with the result of the first. -/
theorem bind_eq_error
    {first : Except ε α}
    {second : α → Except ε β}
    {cause : ε} :
    first >>= second = .error cause ↔
      first = .error cause ∨ ∃ value, first = .ok value ∧ second value = .error cause := by
  cases first <;>
    simp [bind, Except.bind]

theorem map_eq_ok
    {first : Except ε α}
    {change : α → β}
    {result : β} :
    first.map change = .ok result ↔ ∃ value, first = .ok value ∧ change value = result := by
  cases first <;>
    simp [Except.map]

theorem TextLiteral.read_eq_ok
    {literal : TextLiteral}
    {name : String} :
    literal.read = .ok name ↔ literal.content = .ok name := by
  unfold TextLiteral.read
  cases literal.content <;>
    simp

theorem NumberLiteral.read_eq_ok
    {literal : NumberLiteral}
    {number : Json} :
    literal.read = .ok number ↔ literal.value = .ok number := by
  unfold NumberLiteral.read
  cases literal.value <;>
    simp

/-- A value that may be null is decoded from what is not null. -/
theorem decode_of_decodeOptional
    {decode : Decoder α}
    {depth : Nat}
    {node : Node}
    {value : Option α}
    (decoded : decodeOptional decode depth node = .ok value) :
    node = .null ∧ value = none ∨ ∃ found, value = some found ∧ decode depth node = .ok found := by
  unfold decodeOptional at decoded
  split at decoded
  · cases decoded
    exact .inl ⟨rfl, rfl⟩
  · obtain ⟨found, decodes, rfl⟩ := map_eq_ok.mp decoded
    exact .inr ⟨found, rfl, decodes⟩

/-- A text is decoded from a text literal as what it spells. -/
theorem decodeText_eq_ok
    {depth : Nat}
    {node : Node}
    {content : String} :
    decodeText depth node = .ok content ↔
      ∃ literal, node = .text literal ∧ literal.content = .ok content := by
  cases node with
  | text literal =>
      rw [decodeText, TextLiteral.read_eq_ok]
      constructor
      · intro spells
        exact ⟨literal, rfl, spells⟩
      · rintro ⟨_, same, spells⟩
        cases same
        exact spells
  | _ =>
      simp [decodeText]

theorem decodeBoolean_eq_ok
    {depth : Nat}
    {node : Node}
    {value : Bool} :
    decodeBoolean depth node = .ok value ↔ node = .boolean value := by
  cases node <;>
    simp [decodeBoolean]

/-- An integer within bounds is decoded from a literal with this value. -/
theorem exists_of_decodeInteger
    {expected : String}
    {least greatest : Int}
    {depth : Nat}
    {node : Node}
    {value : Int}
    (decoded : decodeInteger expected least greatest depth node = .ok value) :
    ∃ literal : NumberLiteral,
      node = .number literal ∧ literal.value = .ok (.integer value) ∧
        least ≤ value ∧ value ≤ greatest := by
  cases node with
  | number literal =>
      simp only [decodeInteger] at decoded
      split at decoded
      next found =>
          split at decoded
          next bounds =>
              cases decoded
              exact ⟨literal, rfl, found, bounds⟩
          next =>
              cases decoded
      next =>
          cases decoded
  | _ =>
      cases decoded

theorem exists_of_decodeNatural
    {expected : String}
    {bits depth : Nat}
    {node : Node}
    {number : Nat}
    (decoded : decodeNatural expected bits depth node = .ok number) :
    ∃ literal : NumberLiteral,
      node = .number literal ∧ literal.value = .ok (.integer number) := by
  obtain ⟨value, inBounds, rfl⟩ := map_eq_ok.mp decoded
  obtain ⟨literal, same, found, positive, _⟩ := exists_of_decodeInteger inBounds
  exact ⟨literal, same, by rw [found, Int.toNat_of_nonneg positive]⟩

theorem required_eq_ok
    {name : String}
    {given : Option α}
    {value : α} :
    required name given = .ok value ↔ given = some value := by
  cases given <;>
    simp [required]

theorem endsWell_eq_ok
    {ending : Option Fault}
    {done : Unit}
    (ends : endsWell ending = .ok done) :
    ending = none := by
  cases ending with
  | none =>
      rfl
  | some fault =>
      cases ends

/-- Decoded items stand for the items they are decoded from. -/
theorem forall₂_of_decodeItems
    {decode : Decoder α}
    {depth : Nat}
    {items : List Node}
    {values : List α}
    (decoded : decodeItems decode depth items = .ok values) :
    List.Forall₂ (fun item value => decode depth item = .ok value) items values := by
  induction items generalizing values with
  | nil =>
      cases decoded
      exact .nil
  | cons item rest inductionHypothesis =>
      rw [decodeItems] at decoded
      obtain ⟨value, first, further⟩ := bind_eq_ok.mp decoded
      obtain ⟨values, others, same⟩ := bind_eq_ok.mp further
      cases same
      exact .cons first (inductionHypothesis others)

/-- Values of one kind are decoded from the items of a list without a fault. -/
theorem forall₂_of_decodeList
    {decode : Decoder α}
    {depth : Nat}
    {node : Node}
    {values : List α}
    (decoded : decodeList decode depth node = .ok values) :
    ∃ items inner,
      node = .list items none ∧
        List.Forall₂ (fun item value => decode inner item = .ok value) items values := by
  cases node with
  | list items ending =>
      obtain ⟨inner, _, decodedItems⟩ := bind_eq_ok.mp decoded
      obtain ⟨found, parts, finishing⟩ := bind_eq_ok.mp decodedItems
      obtain ⟨_, ends, same⟩ := bind_eq_ok.mp finishing
      cases same
      cases endsWell_eq_ok ends
      exact ⟨items, inner, rfl, forall₂_of_decodeItems parts⟩
  | _ =>
      cases decoded

/-- A record is finished once its fields are given. -/
theorem Record.decode_finish
    (record : Record σ)
    (blank : σ)
    (finish : σ → Except DecodeError α)
    (depth : Nat)
    (node : Node) :
    record.decode blank finish depth node =
      (record.decode blank .ok depth node).bind finish := by
  -- Only an object and a list reach the finish, and both do so last.
  cases node with
  | object members ending =>
      simp only [Record.decode, bind, Except.bind]
      cases enter depth with
      | error cause =>
          rfl
      | ok inner =>
          dsimp only
          cases record.fillMembers inner members blank with
          | error cause =>
              rfl
          | ok filled =>
              cases endsWell ending <;>
                rfl
  | list items ending =>
      simp only [Record.decode, bind, Except.bind]
      cases enter depth with
      | error cause =>
          rfl
      | ok inner =>
          dsimp only
          cases record.fillItems inner ending record.fields items blank <;>
            rfl
  | keyless found =>
      simp only [Record.decode, bind, Except.bind]
      cases enter depth <;>
        rfl
  | _ =>
      rfl

/-- A field that is filled in from one decoded value was filled in with that value. -/
theorem filled_with
    {decoded : Except DecodeError α}
    {fill : α → σ}
    {after : σ}
    (filled : (do let value ← decoded; .ok (fill value)) = Except.ok after) :
    ∃ value, decoded = .ok value ∧ fill value = after := by
  obtain ⟨value, decodes, same⟩ := bind_eq_ok.mp filled
  exact ⟨value, decodes, Except.ok.inj same⟩

/-- A field keeps what the change keeps with which it is filled in. -/
theorem Field.keeps_of_fill
    {field : Field σ}
    {held : σ → Option τ}
    {decode : Decoder α}
    {change : α → σ → σ}
    (fill :
      field.fill = fun depth node before => do
        let value ← decode depth node
        .ok (change value before))
    (kept : ∀ value before, held (change value before) = held before) :
    field.Keeps held := by
  intro depth node before after filled
  rw [fill] at filled
  obtain ⟨value, _, rfl⟩ := filled_with filled
  exact kept value before

/-- A field holds the value with which it is filled in. -/
theorem Field.fills_of_fill
    {field : Field σ}
    {held : σ → Option τ}
    {decode : Decoder τ}
    {change : τ → σ → σ}
    (fill :
      field.fill = fun depth node before => do
        let value ← decode depth node
        .ok (change value before))
    (holds : ∀ value before, held (change value before) = some value)
    (depth : Nat)
    (node : Node)
    (before after : σ)
    (filled : field.fill depth node before = .ok after) :
    ∃ value, decode depth node = .ok value ∧ held after = some value := by
  rw [fill] at filled
  obtain ⟨value, decodes, rfl⟩ := filled_with filled
  exact ⟨value, decodes, holds value before⟩

/-- What filling in one member did: it was passed over, or it filled a field in. -/
theorem Record.fillMembers_cons
    {record : Record σ}
    {depth : Nat}
    {literal : TextLiteral}
    {part : Node}
    {rest : List (TextLiteral × Node)}
    {before after : σ}
    (filled : record.fillMembers depth ((literal, part) :: rest) before = .ok after) :
    ∃ name,
      literal.content = .ok name ∧
        match record.fields.find? (fun field => field.accepted.contains name) with
        | none =>
            record.fillMembers depth rest before = .ok after
        | some field =>
            field.isGiven before = false ∧
              ∃ next,
                field.fill depth part before = .ok next ∧
                  record.fillMembers depth rest next = .ok after := by
  rw [Record.fillMembers] at filled
  obtain ⟨name, spells, step⟩ := bind_eq_ok.mp filled
  refine ⟨name, TextLiteral.read_eq_ok.mp spells, ?_⟩
  cases finds : record.fields.find? (fun field => field.accepted.contains name) with
  | none =>
      simp only [finds] at step
      obtain ⟨_, _, further⟩ := bind_eq_ok.mp step
      exact further
  | some field =>
      simp only [finds] at step
      split at step
      · cases step
      next fresh =>
          obtain ⟨next, fills, further⟩ := bind_eq_ok.mp step
          exact ⟨Bool.eq_false_iff.mpr fresh, next, fills, further⟩

namespace Record.Slot

section
variable {record : Record σ} {earlier later : List (Field σ)} {field : Field σ}
  {held : σ → Option τ} {decode : Decoder τ}
  (slot : record.Slot earlier field later held decode)
include slot

/-- The names of a field lead to it. -/
theorem find?_of_named
    {name : String}
    (named : field.accepted.contains name = true) :
    record.fields.find? (fun other => other.accepted.contains name) = some field := by
  have noneEarlier : earlier.find? (fun other => other.accepted.contains name) = none := by
    refine List.find?_eq_none.mpr fun other member othersToo => ?_
    exact
      slot.apart other (List.mem_append_left _ member) name (List.contains_iff_mem.mp othersToo)
        (List.contains_iff_mem.mp named)
  rw [slot.fields, List.find?_append, noneEarlier, List.find?_cons, named]
  rfl

/-- Other names lead to other fields or to none. -/
theorem mem_others_of_find?
    {name : String}
    (unnamed : field.accepted.contains name = false)
    {found : Field σ}
    (finds : record.fields.find? (fun other => other.accepted.contains name) = some found) :
    found ∈ earlier ++ later := by
  have different : found ≠ field := by
    rintro rfl
    have named := List.find?_some finds
    rw [unnamed] at named
    cases named
  have member := List.mem_of_find?_eq_some finds
  rw [slot.fields, List.mem_append, List.mem_cons] at member
  rcases member with inEarlier | same | inLater
  · exact List.mem_append_left _ inEarlier
  · exact absurd same different
  · exact List.mem_append_right _ inLater

/-- A member with another name leaves what is held; one with the name is held from then on. -/
theorem fillMembers_cons
    {depth : Nat}
    {literal : TextLiteral}
    {part : Node}
    {rest : List (TextLiteral × Node)}
    {before after : σ}
    (filled : record.fillMembers depth ((literal, part) :: rest) before = .ok after) :
    ∃ next,
      record.fillMembers depth rest next = .ok after ∧
        if literal.spellsOne field.accepted then
          held before = none ∧ ∃ value, decode depth part = .ok value ∧ held next = some value
        else
          held next = held before := by
  obtain ⟨name, content, step⟩ := Record.fillMembers_cons filled
  have spells : literal.spellsOne field.accepted = field.accepted.contains name := by
    rw [TextLiteral.spellsOne, content]
  rw [spells]
  cases named : field.accepted.contains name with
  | true =>
      rw [slot.find?_of_named named] at step
      obtain ⟨fresh, next, fills, further⟩ := step
      rw [slot.given, Option.isSome_eq_false_iff, Option.isNone_iff_eq_none] at fresh
      exact ⟨next, further, fresh, slot.fills _ _ _ _ fills⟩
  | false =>
      split at step
      next =>
          exact ⟨before, step, rfl⟩
      next other finds =>
          obtain ⟨_, next, fills, further⟩ := step
          exact
            ⟨next, further,
              slot.keeps other (slot.mem_others_of_find? named finds) _ _ _ _ fills⟩

/-- Once a field is held, no further member may give it, and it stays what it was. -/
theorem fillMembers_of_held
    {depth : Nat}
    {members : List (TextLiteral × Node)}
    {before after : σ}
    {value : τ}
    (isHeld : held before = some value)
    (filled : record.fillMembers depth members before = .ok after) :
    held after = some value := by
  induction members generalizing before with
  | nil =>
      cases filled
      exact isHeld
  | cons member rest inductionHypothesis =>
      obtain ⟨next, further, step⟩ := slot.fillMembers_cons filled
      split at step
      · rw [step.1] at isHeld
        cases isHeld
      · exact inductionHypothesis (step.trans isHeld) further

/-- What is held in the end comes from the one member that spells a name of the field. -/
theorem decodedFrom_of_fillMembers
    {depth : Nat}
    {members : List (TextLiteral × Node)}
    {before after : σ}
    (blank : held before = none)
    (filled : record.fillMembers depth members before = .ok after) :
    DecodedFrom decode depth
      ((members.find? (fun member => member.1.spellsOne field.accepted)).map (·.2))
      (held after) := by
  induction members generalizing before with
  | nil =>
      cases filled
      rw [blank]
      exact .absent
  | cons member rest inductionHypothesis =>
      obtain ⟨next, further, step⟩ := slot.fillMembers_cons filled
      rw [List.find?_cons]
      cases spelled : member.1.spellsOne field.accepted with
      | true =>
          simp only [spelled, if_true] at step
          obtain ⟨_, value, decodes, isHeld⟩ := step
          rw [slot.fillMembers_of_held isHeld further]
          exact .present decodes
      | false =>
          simp only [spelled, Bool.false_eq_true, if_false] at step
          exact inductionHypothesis (step.trans blank) further

end

end Record.Slot

/-! ## Lists -/

section
variable {record : Record σ} {depth : Nat} {ending : Option Fault}

/-- Without a further item nothing further is filled in. -/
theorem Record.fillItems_nil
    {fields : List (Field σ)}
    {before after : σ}
    (filled : record.fillItems depth ending fields [] before = .ok after) :
    after = before := by
  cases fields with
  | nil =>
      rw [Record.fillItems] at filled
      obtain ⟨_, _, same⟩ := bind_eq_ok.mp filled
      exact (Except.ok.inj same).symm
  | cons field fields =>
      rw [Record.fillItems] at filled
      obtain ⟨_, _, step⟩ := bind_eq_ok.mp filled
      split at step
      · exact (Except.ok.inj step).symm
      · cases step

/-- An item fills in the field at its place. -/
theorem Record.fillItems_cons
    {field : Field σ}
    {fields : List (Field σ)}
    {item : Node}
    {items : List Node}
    {before after : σ}
    (filled : record.fillItems depth ending (field :: fields) (item :: items) before = .ok after) :
    ∃ next,
      field.fill depth item before = .ok next ∧
        record.fillItems depth ending fields items next = .ok after := by
  rw [Record.fillItems] at filled
  exact bind_eq_ok.mp filled

/-- Fields that keep what is held leave it as it was. -/
theorem Record.fillItems_of_keeps
    {held : σ → Option τ}
    {fields : List (Field σ)}
    {items : List Node}
    {before after : σ}
    (keeps : ∀ field ∈ fields, field.Keeps held)
    (filled : record.fillItems depth ending fields items before = .ok after) :
    held after = held before := by
  induction items generalizing fields before with
  | nil =>
      rw [Record.fillItems_nil filled]
  | cons item rest inductionHypothesis =>
      cases fields with
      | nil =>
          cases filled
      | cons field fields =>
          obtain ⟨next, fills, further⟩ := Record.fillItems_cons filled
          rw [inductionHypothesis (fun other member => keeps other (by simp [member])) further]
          exact keeps field (by simp) _ _ _ _ fills

/-- What is held in the end comes from the item at the place of the field. -/
theorem Record.decodedFrom_of_fillItems
    {held : σ → Option τ}
    {decode : Decoder τ}
    {earlier later : List (Field σ)}
    {field : Field σ}
    (fills :
      ∀ depth node before after,
        field.fill depth node before = .ok after →
          ∃ value, decode depth node = .ok value ∧ held after = some value)
    (keeps : ∀ other ∈ earlier ++ later, other.Keeps held)
    {items : List Node}
    {before after : σ}
    (blank : held before = none)
    (filled : record.fillItems depth ending (earlier ++ field :: later) items before = .ok after) :
    DecodedFrom decode depth items[earlier.length]? (held after) := by
  induction items generalizing earlier before with
  | nil =>
      rw [Record.fillItems_nil filled, blank]
      exact .absent
  | cons item rest inductionHypothesis =>
      cases earlier with
      | nil =>
          obtain ⟨next, fillsField, further⟩ := Record.fillItems_cons filled
          obtain ⟨value, decodes, isHeld⟩ := fills _ _ _ _ fillsField
          rw [Record.fillItems_of_keeps keeps further, isHeld]
          exact .present decodes
      | cons other earlier =>
          obtain ⟨next, fillsOther, further⟩ := Record.fillItems_cons filled
          have kept := keeps other (by simp) _ _ _ _ fillsOther
          exact
            inductionHypothesis (fun other member => keeps other (by simp [member]))
              (kept.trans blank) further

end

/-- A decoded record holds for a field what its document gives for it. -/
theorem Record.Slot.decodedFrom
    {record : Record σ}
    {earlier later : List (Field σ)}
    {field : Field σ}
    {held : σ → Option τ}
    {decode : Decoder τ}
    (slot : record.Slot earlier field later held decode)
    {blank filled : σ}
    (isBlank : held blank = none)
    {depth : Nat}
    {node : Node}
    (decoded : record.decode blank .ok depth node = .ok filled) :
    ∃ inner,
      enter depth = .ok inner ∧
        DecodedFrom decode inner (node.field? field.accepted earlier.length) (held filled) := by
  cases node with
  | object members ending =>
      obtain ⟨inner, enters, filling⟩ := bind_eq_ok.mp decoded
      obtain ⟨after, fills, finishing⟩ := bind_eq_ok.mp filling
      obtain ⟨_, _, same⟩ := bind_eq_ok.mp finishing
      cases same
      exact ⟨inner, enters, slot.decodedFrom_of_fillMembers isBlank fills⟩
  | list items ending =>
      obtain ⟨inner, enters, filling⟩ := bind_eq_ok.mp decoded
      obtain ⟨after, fills, same⟩ := bind_eq_ok.mp filling
      cases same
      rw [slot.fields] at fills
      exact ⟨inner, enters, Record.decodedFrom_of_fillItems slot.fills slot.keeps isBlank fills⟩
  | keyless found =>
      obtain ⟨_, _, refused⟩ := bind_eq_ok.mp decoded
      cases refused
  | _ =>
      cases decoded

end QueryAgent.Json
