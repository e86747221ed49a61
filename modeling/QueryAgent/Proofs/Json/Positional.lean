import QueryAgent.Proofs.Json.Records
import QueryAgent.Proofs.Json.Values

namespace QueryAgent.Json

/-!
# Records written as lists

A record may be written as a list of its first fields.  Such a list is decoded
as the object that names its items would be, to the same record or with the
same error.  Nothing else than an object or a list no longer than the record is
ever decoded.
-/

/-! ## Shapes -/

/-- A document with the shape of a record: an object, or a list of no more items than fields. -/
def Record.Shaped
    (record : Record σ) : Node → Prop
  | .object _ ending =>
      ending = none
  | .list items ending =>
      ending = none ∧ items.length ≤ record.fields.length
  | _ =>
      False

instance Record.decidableShaped
    (record : Record σ) : DecidablePred record.Shaped
  | .object _ ending =>
      inferInstanceAs (Decidable (ending = none))
  | .list items ending =>
      inferInstanceAs (Decidable (ending = none ∧ items.length ≤ record.fields.length))
  | .null | .boolean _ | .number _ | .text _ | .keyless _ | .broken _ =>
      .isFalse id

/-- A list that fills in a record ends well and has no item too many. -/
theorem Record.shaped_of_fillItems
    {record : Record σ}
    {depth : Nat}
    {ending : Option Fault}
    {fields : List (Field σ)}
    {items : List Node}
    {before after : σ}
    (filled : record.fillItems depth ending fields items before = .ok after) :
    ending = none ∧ items.length ≤ fields.length := by
  induction items generalizing fields before with
  | nil =>
      refine ⟨?_, Nat.zero_le _⟩
      cases fields with
      | nil =>
          rw [Record.fillItems] at filled
          obtain ⟨_, ends, _⟩ := bind_eq_ok.mp filled
          exact Option.map_eq_none_iff.mp (endsWell_eq_ok ends)
      | cons field fields =>
          rw [Record.fillItems] at filled
          obtain ⟨_, ends, _⟩ := bind_eq_ok.mp filled
          exact endsWell_eq_ok ends
  | cons item rest inductionHypothesis =>
      cases fields with
      | nil =>
          cases filled
      | cons field fields =>
          obtain ⟨next, _, further⟩ := Record.fillItems_cons filled
          exact (inductionHypothesis further).imp_right Nat.succ_le_succ

/-- Only a document with the shape of a record is decoded as one. -/
theorem Record.shaped_of_decode
    {record : Record σ}
    {blank : σ}
    {finish : σ → Except DecodeError α}
    {depth : Nat}
    {node : Node}
    {value : α}
    (decoded : record.decode blank finish depth node = .ok value) :
    record.Shaped node := by
  cases node with
  | object members ending =>
      obtain ⟨_, _, filling⟩ := bind_eq_ok.mp decoded
      obtain ⟨_, _, finishing⟩ := bind_eq_ok.mp filling
      obtain ⟨_, ends, _⟩ := bind_eq_ok.mp finishing
      exact endsWell_eq_ok ends
  | list items ending =>
      obtain ⟨_, _, filling⟩ := bind_eq_ok.mp decoded
      obtain ⟨_, fills, _⟩ := bind_eq_ok.mp filling
      exact Record.shaped_of_fillItems fills
  | keyless found =>
      obtain ⟨_, _, refused⟩ := bind_eq_ok.mp decoded
      cases refused
  | _ =>
      cases decoded

/-! ## Items and the members that name them -/

/-- The members that give items under the names of fields, in the order of both. -/
def membersOf
    (fields : List (Field σ))
    (items : List Node) : List (TextLiteral × Node) :=
  List.zipWith (fun field item => (TextLiteral.of field.name, item)) fields items

theorem TextLiteral.spellsOne_of
    (names : List String)
    (name : String) :
    (TextLiteral.of name).spellsOne names = names.contains name :=
  rfl

/-- Members that name other fields give nothing under the names of a field. -/
theorem filter_membersOf_of_not_named
    {accepted : List String}
    {fields : List (Field σ)}
    (others : ∀ field ∈ fields, accepted.contains field.name = false)
    (items : List Node) :
    (membersOf fields items).filter (fun member => member.1.spellsOne accepted) = [] := by
  induction fields generalizing items with
  | nil =>
      rfl
  | cons field fields inductionHypothesis =>
      cases items with
      | nil =>
          rfl
      | cons item rest =>
          rw [membersOf, List.zipWith_cons_cons, List.filter_cons_of_neg]
          · exact
              inductionHypothesis (fun other member => others other (by simp [member])) rest
          · rw [TextLiteral.spellsOne_of, others field (by simp)]
            decide

/-- The one member that names a field gives the item at its place. -/
theorem filter_membersOf
    {accepted : List String}
    {earlier later : List (Field σ)}
    {field : Field σ}
    (named : accepted.contains field.name = true)
    (others : ∀ other ∈ earlier ++ later, accepted.contains other.name = false)
    (items : List Node) :
    (membersOf (earlier ++ field :: later) items).filter
        (fun member => member.1.spellsOne accepted) =
      (items[earlier.length]?.map (fun item => (TextLiteral.of field.name, item))).toList := by
  induction earlier generalizing items with
  | nil =>
      cases items with
      | nil =>
          rfl
      | cons item rest =>
          rw [List.nil_append, membersOf, List.zipWith_cons_cons, List.filter_cons_of_pos]
          · exact congrArg _ (filter_membersOf_of_not_named others rest)
          · exact named
  | cons other earlier inductionHypothesis =>
      cases items with
      | nil =>
          rfl
      | cons item rest =>
          rw [List.cons_append, membersOf, List.zipWith_cons_cons, List.filter_cons_of_neg]
          · exact inductionHypothesis (fun another member => others another (by simp_all)) rest
          · rw [TextLiteral.spellsOne_of, others other (by simp)]
            decide

/-- A document in which an object stands for a list that has the shape of a record. -/
def Record.spelledOut
    (record : Record σ) : Node → Node
  | .list items none =>
      if items.length ≤ record.fields.length then
        .object (membersOf record.fields items) none
      else
        .list items none
  | node =>
      node

/-- Fields with names of their own, each filled in on its own, of which a list may end early. -/
structure Record.Positional
    (record : Record σ)
    (blank : σ) : Prop where
  mayEnd : ∀ field ∈ record.fields, field.mayEndBefore = true
  named : ∀ field ∈ record.fields, field.name ∈ field.accepted
  blank : ∀ field ∈ record.fields, field.isGiven blank = false
  apart :
    record.fields.Pairwise fun earlier later =>
      ∀ name ∈ earlier.accepted, name ∉ later.accepted
  leaves :
    record.fields.Pairwise fun earlier later =>
      ∀ depth node before after,
        earlier.fill depth node before = .ok after →
          later.isGiven after = later.isGiven before

namespace Record.Positional

section
variable {record : Record σ} {blank : σ} (positional : record.Positional blank)
include positional

/-- The name of a field leads to it. -/
theorem find?_name
    {earlier later : List (Field σ)}
    {field : Field σ}
    (fields : record.fields = earlier ++ field :: later) :
    record.fields.find? (fun other => other.accepted.contains field.name) = some field := by
  have named : field.accepted.contains field.name = true :=
    List.contains_iff_mem.mpr (positional.named field (by simp [fields]))
  have apart := positional.apart
  rw [fields, List.pairwise_append] at apart
  have noneEarlier : earlier.find? (fun other => other.accepted.contains field.name) = none := by
    refine List.find?_eq_none.mpr fun other member othersToo => ?_
    exact
      apart.2.2 other member field (by simp) _ (List.contains_iff_mem.mp othersToo)
        (List.contains_iff_mem.mp named)
  rw [fields, List.find?_append, noneEarlier, List.find?_cons, named]
  rfl

/-- A field that has been filled in leaves the later ones to be given. -/
theorem fresh_of_fill
    {earlier later : List (Field σ)}
    {field : Field σ}
    (fields : record.fields = earlier ++ field :: later)
    {before after : σ}
    {depth : Nat}
    {item : Node}
    (fills : field.fill depth item before = .ok after)
    (fresh : ∀ other ∈ field :: later, other.isGiven before = false) :
    ∀ other ∈ later, other.isGiven after = false := by
  intro other member
  have leaves := positional.leaves
  rw [fields, List.pairwise_append, List.pairwise_cons] at leaves
  rw [leaves.2.1.1 other member depth item before after fills]
  exact fresh other (List.mem_cons_of_mem _ member)

/-- Items fill fields in as the members that name them do. -/
theorem fillItems_eq_fillMembers
    {depth : Nat}
    {earlier later : List (Field σ)}
    (fields : record.fields = earlier ++ later)
    {items : List Node}
    (fits : items.length ≤ later.length)
    {state : σ}
    (fresh : ∀ field ∈ later, field.isGiven state = false) :
    record.fillItems depth none later items state =
      record.fillMembers depth (membersOf later items) state := by
  induction items generalizing earlier later state with
  | nil =>
      cases later with
      | nil =>
          rfl
      | cons field later =>
          have noneMissing :
              (field :: later).findIdx? (fun field => !field.mayEndBefore) = none := by
            refine List.findIdx?_eq_none_iff.mpr fun other member => ?_
            rw [positional.mayEnd other (by rw [fields]; exact List.mem_append_right _ member)]
            rfl
          rw [Record.fillItems]
          simp only [endsWell, noneMissing, bind, Except.bind]
          rfl
  | cons item rest inductionHypothesis =>
      cases later with
      | nil =>
          cases fits
      | cons field later =>
          rw [membersOf, List.zipWith_cons_cons, Record.fillItems, Record.fillMembers]
          simp only [TextLiteral.read_of, positional.find?_name fields, fresh field (by simp),
            Bool.false_eq_true, if_false, bind, Except.bind]
          cases fills : field.fill depth item state with
          | error cause =>
              rfl
          | ok next =>
              have further : record.fields = (earlier ++ [field]) ++ later := by
                simp [fields]
              exact
                inductionHypothesis further (Nat.le_of_succ_le_succ fits)
                  (positional.fresh_of_fill fields fills fresh)

/-- A list is decoded as the object that spells it out. -/
theorem decode_spelledOut
    (finish : σ → Except DecodeError α)
    (depth : Nat)
    (node : Node) :
    record.decode blank finish depth (record.spelledOut node) =
      record.decode blank finish depth node := by
  unfold Record.spelledOut
  split
  next items =>
      split
      next fits =>
          have same :
              ∀ inner,
                record.fillItems inner none record.fields items blank =
                  record.fillMembers inner (membersOf record.fields items) blank :=
            fun inner =>
              positional.fillItems_eq_fillMembers (List.nil_append _).symm fits positional.blank
          simp only [Record.decode, same, endsWell, bind, Except.bind]
      next =>
          rfl
  next =>
      rfl

end

end Record.Positional

/-- A document with the shape of a record is an object once it is spelled out. -/
theorem Record.spelledOut_of_shaped
    {record : Record σ}
    {node : Node}
    (shaped : record.Shaped node) :
    ∃ members, record.spelledOut node = .object members none := by
  cases node with
  | object members ending =>
      cases shaped
      exact ⟨members, rfl⟩
  | list items ending =>
      obtain ⟨rfl, fits⟩ := shaped
      exact ⟨_, if_pos fits⟩
  | _ =>
      cases shaped

end QueryAgent.Json
