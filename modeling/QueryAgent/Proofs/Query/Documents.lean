import Mathlib.Data.List.Forall2
import QueryAgent.Proofs.Json.Records
import QueryAgent.Proofs.Query.Acceptance

namespace QueryAgent

/-!
# Where conditions stand in a document

A query has one condition for each item that its document gives for the list of
conditions, in the same order, and the value of a condition is decoded from
what its item gives for the value.  This holds whether a description is written
as an object or as a list of its fields.
-/

/-! ## Fields of descriptions -/

/-- The field of a description that holds the conditions of a clause. -/
def Clause.field : Clause → Json.Field Payload.Draft
  | .condition => Payload.record.fields[3]
  | .having => Payload.record.fields[5]

/-- The place of a clause among the fields of a description. -/
def Clause.place : Clause → Nat
  | .condition => 3
  | .having => 5

/-- What a description holds for the conditions of a clause. -/
def Clause.held : Clause → Payload.Draft → Option (Option (List PayloadCondition))
  | .condition => Payload.Draft.conditions
  | .having => Payload.Draft.having

/-- The conditions of a clause of a query. -/
def Clause.conditions : Clause → Query → List Condition
  | .condition => Query.conditions
  | .having => Query.having

/-- The field of a condition that holds its value. -/
def PayloadCondition.valueField : Json.Field PayloadCondition.Draft :=
  PayloadCondition.record.fields[2]

/-- The conditions of a clause are held apart from all other fields. -/
theorem Clause.slot
    (clause : Clause) :
    Payload.record.Slot
      (Payload.record.fields.take clause.place)
      clause.field
      (Payload.record.fields.drop (clause.place + 1))
      clause.held
      (Json.decodeOptional (Json.decodeList PayloadCondition.decode)) := by
  refine ⟨?fields, ?given, ?fills, ?keeps, ?apart⟩
  case fields =>
    cases clause <;> rfl
  case given =>
    cases clause <;> exact fun _ => rfl
  case fills =>
    intro depth node before after filled
    cases clause <;>
      obtain ⟨value, decodes, rfl⟩ := Json.filled_with filled <;>
        exact ⟨value, decodes, rfl⟩
  case keeps =>
    intro other member depth node before after filled
    cases clause <;>
      simp only [Clause.place, Payload.record, List.take, List.drop, List.cons_append,
        List.nil_append, List.mem_cons, List.not_mem_nil, or_false] at member <;>
      rcases member with rfl | rfl | rfl | rfl | rfl | rfl <;>
      obtain ⟨_, _, rfl⟩ := Json.filled_with filled <;>
      rfl
  case apart =>
    cases clause <;> decide

/-- The value of a condition is held apart from all other fields. -/
theorem PayloadCondition.valueSlot :
    PayloadCondition.record.Slot
      (PayloadCondition.record.fields.take 2)
      PayloadCondition.valueField
      []
      PayloadCondition.Draft.value
      (Json.decodeOptional Param.decode) := by
  refine ⟨rfl, fun _ => rfl, ?fills, ?keeps, ?apart⟩
  case fills =>
    intro depth node before after filled
    obtain ⟨value, decodes, rfl⟩ := Json.filled_with filled
    exact ⟨value, decodes, rfl⟩
  case keeps =>
    intro other member depth node before after filled
    simp only [PayloadCondition.record, List.take, List.cons_append, List.nil_append,
      List.mem_cons, List.not_mem_nil, or_false] at member
    rcases member with rfl | rfl <;>
      obtain ⟨_, _, rfl⟩ := Json.filled_with filled <;>
      rfl
  case apart =>
    decide

/-! ## Items -/

/-- The items of a list, none of anything else. -/
def Json.Node.items : Json.Node → List Json.Node
  | .list items _ =>
      items
  | _ =>
      []

/-- What a document gives for the conditions of a clause, item by item. -/
def Clause.nodes
    (clause : Clause)
    (root : Json.Node) : List Json.Node :=
  ((root.field? clause.field.accepted clause.place).map Json.Node.items).getD []

/-- What an item gives for the value of its condition. -/
def PayloadCondition.valueNode?
    (node : Json.Node) : Option Json.Node :=
  node.field? PayloadCondition.valueField.accepted 2

/-- The entries that a description holds for a clause stand for the items it gives. -/
theorem forall₂_of_decodedFrom
    {decode : Json.Decoder α}
    {depth : Nat}
    {part : Option Json.Node}
    {held : Option (Option (List α))}
    (decoded :
      Json.DecodedFrom (Json.decodeOptional (Json.decodeList decode)) depth part held) :
    List.Forall₂ (fun item value => ∃ depth, decode depth item = .ok value)
      ((part.map Json.Node.items).getD []) (Payload.Draft.entries held) := by
  cases decoded with
  | absent =>
      exact .nil
  | present decodes =>
      rcases Json.decode_of_decodeOptional decodes with ⟨rfl, rfl⟩ | ⟨values, rfl, decodesList⟩
      · exact .nil
      · obtain ⟨items, inner, rfl, stands⟩ := Json.forall₂_of_decodeList decodesList
        exact stands.imp fun _ _ decodes => ⟨inner, decodes⟩

/-! ## Queries -/

/-- A query that was read is what its description denotes. -/
theorem denoted_of_parse
    {text : String}
    {query : Query}
    (parsed : Query.parse text = .ok query) :
    ∃ draft,
      Payload.given Json.nestingLimit (Json.read text).root = .ok draft ∧
        query = draft.denoted := by
  rw [Query.parse] at parsed
  split at parsed
  · cases parsed
  next payload decoded =>
      obtain ⟨found, finished, ending⟩ := Json.bind_eq_ok.mp decoded
      obtain ⟨_, _, same⟩ := Json.bind_eq_ok.mp ending
      obtain rfl : found = payload := Except.ok.inj same
      rw [Payload.decode, Json.Record.decode_finish] at finished
      obtain ⟨draft, given, denotes⟩ := Json.bind_eq_ok.mp finished
      obtain rfl : draft.payload = found := Except.ok.inj denotes
      refine ⟨draft, given, ?_⟩
      rcases draft.accepted_or_breaks with accepted | ⟨message, breaks⟩
      · rw [Payload.Draft.validate_of_accepted accepted] at parsed
        exact (Except.ok.inj parsed).symm
      · obtain ⟨violation, refused, _⟩ := Payload.Draft.validate_of_breaks breaks
        rw [refused] at parsed
        cases parsed

/-- The value of a condition is what its item gives for it, decoded; null counts as none. -/
def ValueFrom
    (node : Json.Node)
    (condition : Condition) : Prop :=
  ∃ depth given,
    Json.DecodedFrom (Json.decodeOptional Param.decode) depth
        (PayloadCondition.valueNode? node) given ∧
      condition.value = given.join.filter (fun value => !value.isNull)

theorem valueFrom_of_decode
    {depth : Nat}
    {node : Json.Node}
    {condition : PayloadCondition}
    (decoded : PayloadCondition.decode depth node = .ok condition) :
    ValueFrom node condition.denoted := by
  rw [PayloadCondition.decode, Json.Record.decode_finish] at decoded
  obtain ⟨draft, fields, same⟩ := Json.bind_eq_ok.mp decoded
  cases same
  obtain ⟨inner, _, source⟩ := PayloadCondition.valueSlot.decodedFrom rfl fields
  exact ⟨inner, draft.value, source, rfl⟩

/-- The conditions of a query stand for the items of its document, each with the value given. -/
theorem forall₂_valueFrom_of_parse
    {text : String}
    {query : Query}
    (parsed : Query.parse text = .ok query)
    (clause : Clause) :
    List.Forall₂ ValueFrom (clause.nodes (Json.read text).root) (clause.conditions query) := by
  obtain ⟨draft, given, rfl⟩ := denoted_of_parse parsed
  obtain ⟨inner, _, source⟩ := clause.slot.decodedFrom (by cases clause <;> rfl) given
  have conditions :
      clause.conditions draft.denoted =
        (Payload.Draft.entries (clause.held draft)).map PayloadCondition.denoted := by
    cases clause <;> rfl
  have place : (Payload.record.fields.take clause.place).length = clause.place := by
    cases clause <;> rfl
  rw [place] at source
  rw [conditions, List.forall₂_map_right_iff]
  exact (forall₂_of_decodedFrom source).imp fun _ _ ⟨_, decodes⟩ => valueFrom_of_decode decodes

end QueryAgent
