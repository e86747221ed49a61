import QueryAgent.Proofs.Json.Layout
import QueryAgent.Proofs.Json.Tree
import QueryAgent.Proofs.Query.Documents

namespace QueryAgent

/-!
# Layouts of descriptions

The layout of a description makes no difference: the order of the members of the
description and of each condition, the name by which a field is given, members
under other names, and blanks between tokens.
-/

/-! ## Fields -/

theorem PayloadCondition.separate :
    PayloadCondition.record.Separate := by
  refine ⟨?apart, ?marks⟩
  case apart =>
    simp only [PayloadCondition.record, List.pairwise_cons, List.mem_cons, List.not_mem_nil,
      or_false, forall_eq_or_imp, forall_eq]
    refine ⟨⟨?_, ?_⟩, ?_, fun _ => False.elim, .nil⟩ <;>
      exact
        Json.Field.apart_of_fill rfl rfl (by decide) (fun _ _ _ => rfl) (fun _ _ => rfl)
          (fun _ _ => rfl)
  case marks =>
    intro field inRecord depth node before after filled
    simp only [PayloadCondition.record, List.mem_cons, List.not_mem_nil, or_false] at inRecord
    rcases inRecord with rfl | rfl | rfl <;>
      obtain ⟨_, _, rfl⟩ := Json.filled_with filled <;>
        rfl

theorem Payload.separate :
    Payload.record.Separate := by
  refine ⟨?apart, ?marks⟩
  case apart =>
    simp only [Payload.record, List.pairwise_cons, List.mem_cons, List.not_mem_nil,
      or_false, forall_eq_or_imp, forall_eq]
    refine
      ⟨⟨?_, ?_, ?_, ?_, ?_, ?_⟩, ⟨?_, ?_, ?_, ?_, ?_⟩, ⟨?_, ?_, ?_, ?_⟩, ⟨?_, ?_, ?_⟩,
        ⟨?_, ?_⟩, ?_, fun _ => False.elim, .nil⟩ <;>
      exact
        Json.Field.apart_of_fill rfl rfl (by decide) (fun _ _ _ => rfl) (fun _ _ => rfl)
          (fun _ _ => rfl)
  case marks =>
    intro field inRecord depth node before after filled
    simp only [Payload.record, List.mem_cons, List.not_mem_nil, or_false] at inRecord
    rcases inRecord with rfl | rfl | rfl | rfl | rfl | rfl | rfl <;>
      obtain ⟨_, _, rfl⟩ := Json.filled_with filled <;>
        rfl

/-! ## Descriptions -/

/-- Two entries of a list of conditions: the same, or objects that differ in layout. -/
inductive PayloadCondition.Relaid : Json.Node → Json.Node → Prop where
  | same
      (entry : Json.Node) :
      Relaid entry entry
  | object
      {entry other : Json.Node}
      (relaid :
        PayloadCondition.record.Relaid (fun _ part otherPart => part = otherPart) entry other) :
      Relaid entry other

/-- What is given for a field: the same, or lists of conditions that differ in layout. -/
inductive Payload.GivenAlike
    (field : Json.Field Payload.Draft) : Json.Node → Json.Node → Prop where
  | same
      (part : Json.Node) :
      GivenAlike field part part
  | conditions
      {clause : Clause}
      {entries others : List Json.Node}
      (isClause : field = clause.field)
      (each : List.Forall₂ PayloadCondition.Relaid entries others) :
      GivenAlike field (.list entries none) (.list others none)

/-- Two descriptions that differ in layout alone. -/
abbrev Payload.Relaid : Json.Node → Json.Node → Prop :=
  Payload.record.Relaid Payload.GivenAlike

/-- Conditions that differ in layout are decoded alike. -/
theorem PayloadCondition.Relaid.decode
    {entry other : Json.Node}
    (relaid : PayloadCondition.Relaid entry other)
    (depth : Nat) :
    (PayloadCondition.decode depth entry).toOption =
      (PayloadCondition.decode depth other).toOption := by
  cases relaid with
  | same =>
      rfl
  | object relaid =>
      refine PayloadCondition.separate.decode_relaid ?alike relaid ..
      intro _ _ _ part other same state
      rw [same]

/-- A list of conditions fills in its field whatever the layout of the conditions. -/
theorem Payload.GivenAlike.fill
    {field : Json.Field Payload.Draft}
    {part other : Json.Node}
    (alike : Payload.GivenAlike field part other)
    (depth : Nat)
    (state : Payload.Draft) :
    (field.fill depth part state).toOption = (field.fill depth other state).toOption := by
  cases alike with
  | same =>
      rfl
  | @conditions clause entries others isClause each =>
      have decodes :
          (Json.decodeOptional (Json.decodeList PayloadCondition.decode) depth
              (.list entries none)).toOption =
            (Json.decodeOptional (Json.decodeList PayloadCondition.decode) depth
              (.list others none)).toOption := by
        simp only [Json.decodeOptional, Json.toOption_map,
          Json.toOption_decodeList (each.imp fun _ _ relaid => relaid.decode)]
      subst isClause
      cases clause <;>
        exact
          ((Json.toOption_bind _ _).trans (congrArg (Option.bind · _) decodes)).trans
            (Json.toOption_bind _ _).symm

/-! ## Queries -/

/-- Descriptions that differ in layout alone are decoded alike. -/
theorem Payload.Relaid.decode
    {node other : Json.Node}
    (relaid : Payload.Relaid node other)
    (depth : Nat) :
    (Payload.decode depth node).toOption = (Payload.decode depth other).toOption :=
  Payload.separate.decode_relaid
    (fun depth _ _ _ _ alike state => alike.fill depth state) relaid ..

end QueryAgent
