import QueryAgent.Proofs.Json.Objects
import QueryAgent.Proofs.Json.Positional
import QueryAgent.Proofs.Query.Documents

namespace QueryAgent

/-!
# Shapes of descriptions

A description and each of its conditions may be an object, and just as well a
list of the first fields in their order, which is read as the object that names
them.  A document with any other shape is no description, whatever else it
holds.
-/

/-! ## Records that may be lists -/

theorem PayloadCondition.positional :
    PayloadCondition.record.Positional ⟨none, none, none⟩ := by
  refine ⟨by decide, by decide, by decide, by decide, ?leaves⟩
  case leaves =>
    simp only [PayloadCondition.record, List.pairwise_cons, List.mem_cons, List.not_mem_nil,
      or_false, forall_eq_or_imp, forall_eq]
    refine ⟨⟨?_, ?_⟩, ?_, fun _ => False.elim, .nil⟩ <;>
      · intro depth node before after filled
        obtain ⟨_, _, rfl⟩ := Json.filled_with filled
        rfl

theorem Payload.positional :
    Payload.record.Positional ⟨none, none, none, none, none, none, none⟩ := by
  refine ⟨by decide, by decide, by decide, by decide, ?leaves⟩
  case leaves =>
    simp only [Payload.record, List.pairwise_cons, List.mem_cons, List.not_mem_nil,
      or_false, forall_eq_or_imp, forall_eq]
    refine
      ⟨⟨?_, ?_, ?_, ?_, ?_, ?_⟩, ⟨?_, ?_, ?_, ?_, ?_⟩, ⟨?_, ?_, ?_, ?_⟩, ⟨?_, ?_, ?_⟩,
        ⟨?_, ?_⟩, ?_, fun _ => False.elim, .nil⟩ <;>
      · intro depth node before after filled
        obtain ⟨_, _, rfl⟩ := Json.filled_with filled
        rfl

/-! ## Entries -/

/-- Whether a member of a description gives the conditions of a clause. -/
def Clause.isNamed
    (clause : Clause)
    (literal : Json.TextLiteral) : Bool :=
  literal.spellsOne clause.field.accepted

/-- Every item that a document gives for the conditions of a clause, in repeated members too. -/
def Clause.entries
    (clause : Clause) : Json.Node → List Json.Node
  | .object members _ =>
      (members.filter (fun member => clause.isNamed member.1)).flatMap
        (fun member => member.2.items)
  | .list items _ =>
      (items[clause.place]?.map Json.Node.items).getD []
  | _ =>
      []

/-- A document with the shape of a description, each entry with that of a condition. -/
structure Payload.Shaped
    (root : Json.Node) : Prop where
  description : Payload.record.Shaped root
  entries :
    ∀ clause : Clause, ∀ entry ∈ clause.entries root, PayloadCondition.record.Shaped entry

instance Payload.decidableShaped : DecidablePred Payload.Shaped := fun root =>
  decidable_of_iff
    (Payload.record.Shaped root ∧
      ∀ clause ∈ [Clause.condition, Clause.having],
        ∀ entry ∈ clause.entries root, PayloadCondition.record.Shaped entry)
    ⟨fun shaped => ⟨shaped.1, fun clause => shaped.2 clause (by cases clause <;> simp)⟩,
      fun shaped => ⟨shaped.description, fun clause _ => shaped.entries clause⟩⟩

/-- Items that are decoded one by one as conditions have their shape. -/
theorem shaped_of_decodeConditions
    {depth : Nat}
    {node : Json.Node}
    {conditions : Option (List PayloadCondition)}
    (decoded :
      Json.decodeOptional (Json.decodeList PayloadCondition.decode) depth node =
        .ok conditions) :
    ∀ entry ∈ node.items, PayloadCondition.record.Shaped entry := by
  rcases Json.decode_of_decodeOptional decoded with ⟨rfl, rfl⟩ | ⟨values, rfl, decodesList⟩
  · exact nofun
  · obtain ⟨items, inner, rfl, alike⟩ := Json.forall₂_of_decodeList decodesList
    intro entry member
    obtain ⟨index, bound, rfl⟩ := List.getElem_of_mem member
    exact Json.Record.shaped_of_decode (alike.get bound (alike.length_eq ▸ bound))

/-- Every member under a name of a field is decoded for it. -/
theorem Json.Record.Slot.decodes_of_fillMembers
    {record : Json.Record σ}
    {earlier later : List (Json.Field σ)}
    {field : Json.Field σ}
    {held : σ → Option τ}
    {decode : Json.Decoder τ}
    (slot : record.Slot earlier field later held decode)
    {depth : Nat}
    {members : List (Json.TextLiteral × Json.Node)}
    {before after : σ}
    (filled : record.fillMembers depth members before = .ok after) :
    ∀ member ∈ members,
      member.1.spellsOne field.accepted = true →
        ∃ value, decode depth member.2 = .ok value := by
  induction members generalizing before with
  | nil =>
      exact nofun
  | cons first rest inductionHypothesis =>
      obtain ⟨next, further, step⟩ := slot.fillMembers_cons filled
      intro member placed spelled
      rcases List.mem_cons.mp placed with rfl | inRest
      · rw [if_pos spelled] at step
        exact step.2.imp fun _ => And.left
      · exact inductionHypothesis further member inRest spelled

/-- Only a document with the shape of a description is decoded as one. -/
theorem Payload.shaped_of_given
    {depth : Nat}
    {root : Json.Node}
    {draft : Payload.Draft}
    (given : Payload.given depth root = .ok draft) :
    Payload.Shaped root := by
  refine ⟨Json.Record.shaped_of_decode given, fun clause entry member => ?_⟩
  cases root with
  | object members ending =>
      obtain ⟨inner, _, filling⟩ := Json.bind_eq_ok.mp given
      obtain ⟨after, fills, _⟩ := Json.bind_eq_ok.mp filling
      obtain ⟨part, named, inPart⟩ := List.mem_flatMap.mp member
      obtain ⟨placed, spelled⟩ := List.mem_filter.mp named
      obtain ⟨_, decodes⟩ := clause.slot.decodes_of_fillMembers fills part placed spelled
      exact shaped_of_decodeConditions decodes entry inPart
  | list items ending =>
      obtain ⟨inner, _, source⟩ := clause.slot.decodedFrom (by cases clause <;> rfl) given
      have place : (Payload.record.fields.take clause.place).length = clause.place := by
        cases clause <;> rfl
      rw [place, Json.Node.field?] at source
      rw [Clause.entries] at member
      cases part : items[clause.place]? with
      | none =>
          simp [part] at member
      | some node =>
          rw [part] at source member
          generalize clause.held draft = held at source
          cases source with
          | present decodes =>
              exact shaped_of_decodeConditions decodes entry member
  | _ =>
      cases member

/-! ## Descriptions spelled out -/

/-- A document with a change made to each item of it. -/
def Json.Node.mapItems
    (change : Json.Node → Json.Node) : Json.Node → Json.Node
  | .list items ending =>
      .list (items.map change) ending
  | node =>
      node

/-- The members of a description, with an object for each condition that is a list. -/
def Payload.spelledOutMembers
    (members : List (Json.TextLiteral × Json.Node)) : List (Json.TextLiteral × Json.Node) :=
  members.map fun (literal, node) =>
    if Clause.condition.isNamed literal || Clause.having.isNamed literal then
      (literal, node.mapItems PayloadCondition.record.spelledOut)
    else
      (literal, node)

/-- A description with an object for each list that stands for one. -/
def Payload.spelledOut
    (root : Json.Node) : Json.Node :=
  match Payload.record.spelledOut root with
  | .object members ending =>
      .object (spelledOutMembers members) ending
  | node =>
      node

section
variable {decode : Json.Decoder α} {change : Json.Node → Json.Node}
  (same : ∀ depth node, decode depth (change node) = decode depth node)
include same

theorem decodeItems_map
    (depth : Nat)
    (items : List Json.Node) :
    Json.decodeItems decode depth (items.map change) = Json.decodeItems decode depth items := by
  induction items with
  | nil =>
      rfl
  | cons item rest inductionHypothesis =>
      rw [List.map_cons, Json.decodeItems, Json.decodeItems, same, inductionHypothesis]

theorem decodeList_mapItems
    (depth : Nat)
    (node : Json.Node) :
    Json.decodeList decode depth (node.mapItems change) = Json.decodeList decode depth node := by
  cases node with
  | list items ending =>
      simp only [Json.Node.mapItems, Json.decodeList, decodeItems_map same]
  | _ =>
      rfl

/-- A change that makes no difference to an item makes none to a list of items. -/
theorem decodeOptional_mapItems
    (depth : Nat)
    (node : Json.Node) :
    Json.decodeOptional (Json.decodeList decode) depth (node.mapItems change) =
      Json.decodeOptional (Json.decodeList decode) depth node := by
  cases node with
  | list items ending =>
      exact congrArg (Except.map some) (decodeList_mapItems same depth (.list items ending))
  | _ =>
      rfl

end

/-- The conditions of a clause are filled in from spelled out items as from the items. -/
theorem Clause.fill_mapItems
    (clause : Clause)
    (depth : Nat)
    (node : Json.Node)
    (state : Payload.Draft) :
    clause.field.fill depth (node.mapItems PayloadCondition.record.spelledOut) state =
      clause.field.fill depth node state := by
  have spelledOut :
      ∀ depth entry,
        PayloadCondition.decode depth (PayloadCondition.record.spelledOut entry) =
          PayloadCondition.decode depth entry :=
    PayloadCondition.positional.decode_spelledOut _
  have same := decodeOptional_mapItems spelledOut depth node
  cases clause <;>
    exact congrArg (fun decoded => decoded >>= _) same

/-- A member with a name of a clause is read as this name. -/
theorem Clause.read_of_isNamed
    {clause : Clause}
    {literal : Json.TextLiteral}
    (named : clause.isNamed literal = true) :
    ∃ name, literal.read = .ok name ∧ clause.field.accepted.contains name = true := by
  unfold Clause.isNamed Json.TextLiteral.spellsOne at named
  split at named
  next name spells =>
      exact ⟨name, Json.TextLiteral.read_eq_ok.mpr spells, named⟩
  next =>
      cases named

/-- A description is filled in from spelled out members as from the members. -/
theorem Payload.fillMembers_spelledOut
    (depth : Nat)
    (members : List (Json.TextLiteral × Json.Node))
    (state : Payload.Draft) :
    record.fillMembers depth (spelledOutMembers members) state =
      record.fillMembers depth members state := by
  induction members generalizing state with
  | nil =>
      rfl
  | cons member rest inductionHypothesis =>
      obtain ⟨literal, node⟩ := member
      rw [spelledOutMembers, List.map_cons, ← spelledOutMembers]
      dsimp only
      split
      next named =>
          have isClause : ∃ clause : Clause, clause.isNamed literal = true :=
            (Bool.or_eq_true_iff.mp named).elim (⟨.condition, ·⟩) (⟨.having, ·⟩)
          obtain ⟨clause, named⟩ := isClause
          obtain ⟨name, reads, accepts⟩ := Clause.read_of_isNamed named
          rw [Json.Record.fillMembers, Json.Record.fillMembers]
          simp only [reads, clause.slot.find?_of_named accepts, clause.fill_mapItems,
            inductionHypothesis, bind, Except.bind]
      next =>
          simp only [Json.Record.fillMembers, inductionHypothesis]

/-- A description is decoded as the objects that spell it out. -/
theorem Payload.decode_spelledOut
    (depth : Nat)
    (root : Json.Node) :
    Payload.decode depth (spelledOut root) = Payload.decode depth root := by
  have same : Payload.decode depth (record.spelledOut root) = Payload.decode depth root :=
    Payload.positional.decode_spelledOut _ depth root
  rw [← same, spelledOut]
  cases record.spelledOut root with
  | object members ending =>
      simp only [Payload.decode, Json.Record.decode, fillMembers_spelledOut]
  | _ =>
      rfl

/-! ## Descriptions made of objects -/

/-- A description that is an object, as are all its conditions. -/
structure Payload.MadeOfObjects
    (root : Json.Node) : Prop where
  description : root.IsObject
  entries : ∀ clause : Clause, ∀ entry ∈ clause.entries root, entry.IsObject

theorem Json.Node.items_mapItems
    (change : Json.Node → Json.Node)
    (node : Json.Node) :
    (node.mapItems change).items = node.items.map change := by
  cases node <;>
    rfl

/-- The entries of a description are spelled out one by one. -/
theorem Clause.entries_spelledOutMembers
    (clause : Clause)
    (members : List (Json.TextLiteral × Json.Node)) :
    clause.entries (.object (Payload.spelledOutMembers members) none) =
      (clause.entries (.object members none)).map PayloadCondition.record.spelledOut := by
  simp only [entries, Payload.spelledOutMembers]
  induction members with
  | nil =>
      rfl
  | cons member rest inductionHypothesis =>
      obtain ⟨literal, node⟩ := member
      rw [List.map_cons]
      cases named : clause.isNamed literal with
      | true =>
          have isNamed :
              (Clause.condition.isNamed literal || Clause.having.isNamed literal) = true := by
            cases clause <;>
              simp [named]
          simp only [isNamed, if_true, List.filter_cons, named, List.flatMap_cons,
            List.map_append, inductionHypothesis, Json.Node.items_mapItems]
      | false =>
          split <;>
            simp only [List.filter_cons, named, Bool.false_eq_true, if_false, inductionHypothesis]

/-- The members that name the items of a list give the entries that the list gives. -/
theorem Clause.entries_membersOf
    (clause : Clause)
    (items : List Json.Node) :
    clause.entries (.object (Json.membersOf Payload.record.fields items) none) =
      clause.entries (.list items none) := by
  have named : clause.field.accepted.contains clause.field.name = true := by
    cases clause <;> decide
  have others :
      ∀ other ∈
          Payload.record.fields.take clause.place ++ Payload.record.fields.drop (clause.place + 1),
        clause.field.accepted.contains other.name = false := by
    cases clause <;> decide
  have place : (Payload.record.fields.take clause.place).length = clause.place := by
    cases clause <;> rfl
  have found := Json.filter_membersOf named others items
  rw [← clause.slot.fields, place] at found
  simp only [entries, isNamed]
  rw [found]
  cases items[clause.place]? <;>
    simp

/-- A document with the shape of a description is made of objects once it is spelled out. -/
theorem Payload.madeOfObjects_spelledOut
    {root : Json.Node}
    (shaped : Payload.Shaped root) :
    Payload.MadeOfObjects (spelledOut root) := by
  obtain ⟨members, isObject⟩ := Json.Record.spelledOut_of_shaped shaped.description
  have entries :
      ∀ clause : Clause, clause.entries (.object members none) = clause.entries root := by
    intro clause
    cases root with
    | object found ending =>
        cases isObject
        rfl
    | list items ending =>
        obtain ⟨rfl, fits⟩ := shaped.description
        rw [Json.Record.spelledOut, if_pos fits] at isObject
        cases isObject
        exact clause.entries_membersOf items
    | _ =>
        cases isObject
  rw [spelledOut, isObject]
  refine ⟨⟨_, _, rfl⟩, fun clause entry member => ?_⟩
  rw [clause.entries_spelledOutMembers, entries] at member
  obtain ⟨written, placed, rfl⟩ := List.mem_map.mp member
  obtain ⟨members, spelled⟩ :=
    Json.Record.spelledOut_of_shaped (shaped.entries clause written placed)
  exact ⟨members, none, spelled⟩

/-! ## Texts -/

/-- Reads a query from a document. -/
def Query.ofDocument
    (document : Json.Document) : Result Query :=
  match document.decode Payload.decode with
  | .error cause =>
      .error (ParseError.malformed cause).toAgentError
  | .ok payload =>
      payload.validate.mapError (fun violation => (ParseError.invalid violation).toAgentError)

theorem Query.ofPayload_eq_ofDocument
    (text : String) :
    Query.ofPayload text = Query.ofDocument (Json.read text) := by
  rw [Query.ofPayload, Query.parse, Json.decodeString, Query.ofDocument]
  cases (Json.read text).decode Payload.decode with
  | error cause =>
      rfl
  | ok payload =>
      dsimp only
      cases payload.validate <;>
        rfl

/--
A text is malformed, whatever else it holds, unless its document is an object or
a list of the first fields of a description, and each entry of its conditions is
one of a condition.  Then it is read as the document in which all of these are
objects.
-/
theorem ofPayload_shapes
    (text : String) :
    (¬ Payload.Shaped (Json.read text).root →
      ∃ cause, Query.ofPayload text = .error (.query (.malformedPayload cause))) ∧
    (Payload.Shaped (Json.read text).root →
      Payload.MadeOfObjects (Payload.spelledOut (Json.read text).root) ∧
        Query.ofPayload text =
          Query.ofDocument
            { Json.read text with root := Payload.spelledOut (Json.read text).root }) := by
  rw [Query.ofPayload_eq_ofDocument]
  constructor
  · intro misshapen
    rw [Query.ofDocument]
    split
    next cause _ =>
        exact ⟨cause.message, rfl⟩
    next payload decoded =>
        obtain ⟨_, decodes, _⟩ := Json.bind_eq_ok.mp decoded
        rw [Payload.decode, Json.Record.decode_finish] at decodes
        obtain ⟨draft, given, _⟩ := Json.bind_eq_ok.mp decodes
        exact absurd (Payload.shaped_of_given given) misshapen
  · intro shaped
    refine ⟨Payload.madeOfObjects_spelledOut shaped, ?_⟩
    rw [Query.ofDocument, Query.ofDocument, Json.Document.decode, Json.Document.decode,
      Payload.decode_spelledOut]

/-- A number for a condition is malformed, and a condition that is a list is read as an object. -/
theorem ofPayload_shapes_conditions :
    (∃ cause,
      Query.ofPayload "\x7b\"table\":\"\",\"having\":[\x7b\x7d,7]\x7d" =
        .error (.query (.malformedPayload cause))) ∧
      Payload.MadeOfObjects
        (Payload.spelledOut
          (Json.read "\x7b\"table\":\"t\",\"having\":[[\"c\",\"is_null\"]]\x7d").root) := by
  constructor
  · exact (ofPayload_shapes _).1 (by decide +kernel)
  · exact ((ofPayload_shapes _).2 (by decide +kernel)).1

/-- A list that holds a name is no object, and it is read as the query for the table of the name. -/
theorem ofPayload_reads_list :
    ¬ (Json.read "[\"t\"]").root.IsObject ∧
      ∃ query, Query.ofPayload "[\"t\"]" = .ok query ∧ query.table = "t" := by
  constructor
  · have isList :
        (match (Json.read "[\"t\"]").root with
          | .object _ _ => true
          | _ => false) =
          false := by
      decide +kernel
    rintro ⟨members, ending, isObject⟩
    rw [isObject] at isList
    cases isList
  · have reads : (Query.ofPayload "[\"t\"]").toOption.map Query.table = some "t" := by
      decide +kernel
    cases result : Query.ofPayload "[\"t\"]" with
    | error cause =>
        rw [result] at reads
        cases reads
    | ok query =>
        rw [result] at reads
        exact ⟨query, rfl, Option.some.inj reads⟩

end QueryAgent
