import QueryAgent.Proofs.Json.Records
import QueryAgent.Proofs.Json.Values

namespace QueryAgent.Json

/-!
# Orderly objects

An object without a fault in which no name is given twice is decoded as a
record whenever the members that name fields are.  The other members are passed
over, and the order of all of them makes no difference.
-/

/-- The document is an object. -/
def Node.IsObject
    (node : Node) : Prop :=
  ∃ members ending, node = .object members ending

/-- No two members have one name. -/
def DistinctNames
    (members : List (TextLiteral × Node)) : Prop :=
  members.Pairwise fun earlier later => earlier.1.content ≠ later.1.content

/-- A document without a fault in whose objects no name is given twice. -/
inductive Node.Orderly : Node → Prop where
  | null :
      Orderly .null
  | boolean
      (value : Bool) :
      Orderly (.boolean value)
  | number
      (literal : NumberLiteral) :
      Orderly (.number literal)
  | text
      (content : String) :
      Orderly (.text (.of content))
  | list
      {items : List Node}
      (parts : ∀ item ∈ items, Orderly item) :
      Orderly (.list items none)
  | object
      {members : List (TextLiteral × Node)}
      (names : ∀ member ∈ members, ∃ name, member.1 = .of name)
      (distinct : DistinctNames members)
      (parts : ∀ member ∈ members, Orderly member.2) :
      Orderly (.object members none)

/-- Orderly documents can be passed over. -/
theorem Node.Orderly.skip
    {node : Node}
    (orderly : node.Orderly) :
    node.skip = .ok () := by
  induction orderly with
  | null | boolean | number | text =>
      rfl
  | list parts inductionHypothesis =>
      rw [Node.skip, skipItems_of_skip inductionHypothesis]
      rfl
  | @object members names distinct parts inductionHypothesis =>
      have skipsNames : ∀ member ∈ members, member.1.skip = .ok () := by
        intro member placed
        obtain ⟨name, spelled⟩ := names member placed
        rw [spelled]
        rfl
      rw [Node.skip, skipMembers_of_skip skipsNames inductionHypothesis]
      rfl

/-- A member is what its object gives for the field that it names. -/
theorem field?_of_mem
    {members : List (TextLiteral × Node)}
    (distinct : DistinctNames members)
    {name : String}
    {member : TextLiteral × Node}
    (placed : member ∈ members)
    (spelled : member.1.content = .ok name)
    (place : Nat)
    (ending : Option Fault) :
    (Node.object members ending).field? [name] place = some member.2 := by
  have spells :
      ∀ other : TextLiteral × Node,
        other.1.spellsOne [name] = true → other.1.content = .ok name := by
    intro other named
    unfold TextLiteral.spellsOne at named
    split at named
    next content same =>
        rw [same, List.mem_singleton.mp (List.contains_iff_mem.mp named)]
    next =>
        cases named
  obtain ⟨earlier, later, rfl⟩ := List.mem_iff_append.mp placed
  have noneEarlier :
      earlier.find? (fun other => other.1.spellsOne [name]) = none := by
    refine List.find?_eq_none.mpr fun other before named => ?_
    exact
      (List.pairwise_append.mp distinct).2.2 other before member (by simp)
        ((spells other named).trans spelled.symm)
  have named : member.1.spellsOne [name] = true := by
    simp [TextLiteral.spellsOne, spelled]
  rw [Node.field?, List.find?_append, noneEarlier, List.find?_cons, named]
  rfl

/-- What an orderly object gives for a field is orderly. -/
theorem Node.Orderly.of_field?
    {root : Node}
    (orderly : root.Orderly)
    {names : List String}
    {place : Nat}
    {node : Node}
    (given : root.field? names place = some node) :
    node.Orderly := by
  cases orderly with
  | object literals distinct parts =>
      obtain ⟨member, found, rfl⟩ := Option.map_eq_some_iff.mp given
      exact parts member (List.mem_of_find?_eq_some found)
  | list parts =>
      exact parts node (List.mem_of_getElem? given)
  | _ =>
      cases given

/-- Fields each with the one name it has in errors, and each filled in on its own. -/
structure Record.Independent
    (record : Record σ) : Prop where
  alone : ∀ field ∈ record.fields, field.accepted = [field.name]
  leaves :
    ∀ field ∈ record.fields, ∀ other ∈ record.fields,
      field.name ≠ other.name →
        ∀ depth node before after,
          field.fill depth node before = .ok after →
            other.isGiven after = other.isGiven before

/-- Orderly members fill a record in when those that name a field fill it in. -/
theorem Record.Independent.exists_fillMembers
    {record : Record σ}
    (independent : record.Independent)
    {depth : Nat}
    {members : List (TextLiteral × Node)}
    (names : ∀ member ∈ members, ∃ name, member.1 = .of name)
    (distinct : DistinctNames members)
    (parts : ∀ member ∈ members, member.2.Orderly)
    {before : σ}
    (fresh :
      ∀ field ∈ record.fields, ∀ member ∈ members,
        member.1.content = .ok field.name → field.isGiven before = false)
    (fills :
      ∀ field ∈ record.fields, ∀ member ∈ members,
        member.1.content = .ok field.name →
          ∀ state, ∃ next, field.fill depth member.2 state = .ok next) :
    ∃ after, record.fillMembers depth members before = .ok after := by
  induction members generalizing before with
  | nil =>
      exact ⟨before, rfl⟩
  | cons member rest inductionHypothesis =>
      obtain ⟨literal, part⟩ := member
      obtain ⟨name, rfl⟩ : ∃ name, literal = .of name := names _ List.mem_cons_self
      obtain ⟨different, distinctRest⟩ := List.pairwise_cons.mp distinct
      have further :
          ∀ next : σ,
            (∀ field ∈ record.fields, ∀ other ∈ rest,
              other.1.content = .ok field.name → field.isGiven next = false) →
              ∃ after, record.fillMembers depth rest next = .ok after :=
        fun next freshRest =>
          inductionHypothesis (fun other member => names other (by simp [member]))
            distinctRest (fun other member => parts other (by simp [member])) freshRest
            fun field inFields other member => fills field inFields other (by simp [member])
      rw [Record.fillMembers]
      simp only [TextLiteral.read_of, bind, Except.bind]
      cases finds : record.fields.find? (fun field => field.accepted.contains name) with
      | none =>
          have skips : part.skip = .ok () := (parts _ List.mem_cons_self).skip
          simp only [skips]
          exact
            further before fun field inFields other member =>
              fresh field inFields other (by simp [member])
      | some field =>
          have inFields := List.mem_of_find?_eq_some finds
          have accepts := List.find?_some finds
          obtain rfl : name = field.name := by
            rw [independent.alone field inFields] at accepts
            exact List.mem_singleton.mp (List.contains_iff_mem.mp accepts)
          have notGiven := fresh field inFields _ List.mem_cons_self rfl
          obtain ⟨next, filled⟩ := fills field inFields _ List.mem_cons_self rfl before
          simp only [notGiven, Bool.false_eq_true, if_false, filled]
          refine further next fun other inOthers another member spelled => ?_
          have otherName : field.name ≠ other.name := by
            intro same
            exact different another member (by rw [spelled, ← same]; rfl)
          rw [independent.leaves field inFields other inOthers otherName _ _ _ _ filled]
          exact fresh other inOthers another (by simp [member]) spelled

/-- An orderly object is decoded as a record when what it gives fills the fields in. -/
theorem Record.Independent.exists_decode
    {record : Record σ}
    (independent : record.Independent)
    (depth : Nat)
    {members : List (TextLiteral × Node)}
    (orderly : (Node.object members none).Orderly)
    (blank : σ)
    (fresh : ∀ field ∈ record.fields, field.isGiven blank = false)
    (fills :
      ∀ field ∈ record.fields, ∀ place node,
        (Node.object members none).field? [field.name] place = some node →
          ∀ state, ∃ next, field.fill (depth + 1) node state = .ok next) :
    ∃ filled, record.decode blank .ok (depth + 2) (.object members none) = .ok filled := by
  cases orderly with
  | object names distinct parts =>
      obtain ⟨filled, fillsIn⟩ :=
        independent.exists_fillMembers names distinct parts
          (fun field inFields _ _ _ => fresh field inFields)
          fun field inFields member placed spelled =>
            fills field inFields 0 member.2 (field?_of_mem distinct placed spelled 0 none)
      refine ⟨filled, ?_⟩
      simp only [Record.decode, enter, fillsIn, endsWell, bind, Except.bind]

end QueryAgent.Json
