import QueryAgent.Proofs.Json.Records
import QueryAgent.Proofs.Query.Conditions

namespace QueryAgent

/-!
# Which descriptions are queries

The rules for a description are stated here on the fields it gives, apart from
the order in which they are checked: what an accepted description looks like,
which query it denotes, and which rule a refused one breaks first.  Checking a
description decides between the two.
-/

/-! ## Descriptions -/

/-- The fields that a description gives; an absent field is told apart from a null one. -/
def Payload.given : Json.Decoder Payload.Draft :=
  Payload.record.decode ⟨none, none, none, none, none, none, none⟩ .ok

namespace Payload.Draft

/-- The entries of a list; an absent list and a null one have none. -/
def entries
    (field : Option (Option (List α))) : List α :=
  field.join.getD []

/-- The table that is named, by the empty name if none is. -/
def tableName
    (draft : Draft) : String :=
  draft.table.getD ""

/-- A description with a table, with accepted conditions, and with named columns to group by. -/
structure Accepted
    (draft : Draft) : Prop where
  table : Text.allBlank draft.tableName = false
  conditions :
    ∀ condition ∈ entries draft.conditions, ConditionAccepted condition
  having :
    ∀ condition ∈ entries draft.having, ConditionAccepted condition
  groupBy :
    ∀ column ∈ entries draft.groupBy, Text.allBlank column = false

/-- The query that an accepted description denotes. -/
def denoted
    (draft : Draft) : Query where
  table := draft.tableName
  schema := draft.schema.join.filter (fun schema => !Text.allBlank schema)
  projection :=
    draft.projection.join.filter (fun projection => !Text.allBlank projection)
  conditions := (entries draft.conditions).map PayloadCondition.denoted
  groupBy := entries draft.groupBy
  having := (entries draft.having).map PayloadCondition.denoted
  limit := draft.limit.join

/--
The first rule that a description breaks, in the words in which it is reported:
the table, then the conditions, the conditions on groups and the columns to
group by, each by its index.
-/
inductive Breaks (draft : Draft) : String → Prop where
  | table
      (blank : Text.allBlank draft.tableName = true) :
      Breaks draft "table is required"
  | condition
      {before after : List PayloadCondition}
      {condition : PayloadCondition}
      {reason : String}
      (table : Text.allBlank draft.tableName = false)
      (placed : entries draft.conditions = before ++ condition :: after)
      (earlier : ∀ condition ∈ before, ConditionAccepted condition)
      (breaks : ConditionBreaks condition reason) :
      Breaks draft
        ("condition[" ++ Text.decimal before.length ++ "]: " ++ reason)
  | having
      {before after : List PayloadCondition}
      {condition : PayloadCondition}
      {reason : String}
      (table : Text.allBlank draft.tableName = false)
      (conditions :
        ∀ condition ∈ entries draft.conditions, ConditionAccepted condition)
      (placed : entries draft.having = before ++ condition :: after)
      (earlier : ∀ condition ∈ before, ConditionAccepted condition)
      (breaks : ConditionBreaks condition reason) :
      Breaks draft
        ("having[" ++ Text.decimal before.length ++ "]: " ++ reason)
  | groupBy
      {before after : List String}
      {column : String}
      (table : Text.allBlank draft.tableName = false)
      (conditions :
        ∀ condition ∈ entries draft.conditions, ConditionAccepted condition)
      (having :
        ∀ condition ∈ entries draft.having, ConditionAccepted condition)
      (placed : entries draft.groupBy = before ++ column :: after)
      (earlier : ∀ column ∈ before, Text.allBlank column = false)
      (blank : Text.allBlank column = true) :
      Breaks draft
        ("group_by[" ++ Text.decimal before.length ++ "]: column is required")

/-- A description is accepted or breaks a rule. -/
theorem accepted_or_breaks
    (draft : Draft) :
    draft.Accepted ∨ ∃ message, draft.Breaks message := by
  cases table : Text.allBlank draft.tableName with
  | true =>
      exact .inr ⟨_, .table table⟩
  | false =>
      rcases all_or_first ConditionAccepted (entries draft.conditions) with
        conditions | ⟨_, condition, _, placed, earlier, refused⟩
      · rcases all_or_first ConditionAccepted (entries draft.having) with
          having | ⟨_, condition, _, placed, earlier, refused⟩
        · rcases all_or_first (fun column => Text.allBlank column = false)
              (entries draft.groupBy) with
            groupBy | ⟨_, column, _, placed, earlier, refused⟩
          · exact .inl ⟨table, conditions, having, groupBy⟩
          · exact
              .inr
                ⟨_, .groupBy table conditions having placed earlier
                  (by simpa using refused)⟩
        · obtain ⟨reason, breaks⟩ :=
            (QueryAgent.accepted_or_breaks condition).resolve_left refused
          exact
            .inr ⟨_, .having table conditions placed earlier breaks⟩
      · obtain ⟨reason, breaks⟩ :=
          (QueryAgent.accepted_or_breaks condition).resolve_left refused
        exact .inr ⟨_, .condition table placed earlier breaks⟩

/-- The description that is checked. -/
def payload
    (draft : Draft) : Payload where
  table := draft.tableName
  schema := draft.schema.join
  projection := draft.projection.join
  conditions := entries draft.conditions
  groupBy := entries draft.groupBy
  having := entries draft.having
  limit := draft.limit.join

theorem conditions_validated
    {draft : Draft}
    (accepted :
      ∀ condition ∈ entries draft.conditions, ConditionAccepted condition) :
    validateConditions .condition 0 draft.payload.conditions =
      .ok draft.denoted.conditions :=
  validateConditions_of_accepted _ _ accepted

theorem having_validated
    {draft : Draft}
    (accepted :
      ∀ condition ∈ entries draft.having, ConditionAccepted condition) :
    validateConditions .having 0 draft.payload.having =
      .ok draft.denoted.having :=
  validateConditions_of_accepted _ _ accepted

/-- An accepted description passes its checks, and denotes what it says. -/
theorem validate_of_accepted
    {draft : Draft}
    (accepted : draft.Accepted) :
    draft.payload.validate = .ok draft.denoted := by
  have named : Text.allBlank draft.payload.table = false :=
    accepted.table
  have noneBlank :
      draft.payload.groupBy.findIdx? Text.allBlank = none :=
    List.findIdx?_eq_none_iff.mpr accepted.groupBy
  simp only [Payload.validate, named,
    conditions_validated accepted.conditions,
    having_validated accepted.having, noneBlank, bind, Except.bind]
  rfl

/-- A description that breaks a rule is refused in the words for the first one it breaks. -/
theorem validate_of_breaks
    {draft : Draft}
    {message : String}
    (breaks : draft.Breaks message) :
    ∃ violation,
      draft.payload.validate = .error violation ∧
        violation.message = message := by
  cases breaks with
  | table blank =>
      have unnamed : Text.allBlank draft.payload.table = true :=
        blank
      exact ⟨.tableRequired, by rw [Payload.validate, if_pos unnamed], rfl⟩
  | condition table placed earlier breaks =>
      rename_i before _ _ _
      have named : Text.allBlank draft.payload.table = false :=
        table
      obtain ⟨fault, refused, rfl⟩ :=
        validateConditions_of_breaks .condition 0 earlier breaks
      rw [Nat.zero_add, ← placed] at refused
      have inConditions :
          validateConditions .condition 0 draft.payload.conditions =
            .error (.inCondition .condition before.length fault) :=
        refused
      refine ⟨.inCondition .condition before.length fault, ?_, rfl⟩
      simp only [Payload.validate, named, inConditions, bind, Except.bind]
      rfl
  | having table conditions placed earlier breaks =>
      rename_i before _ _ _
      have named : Text.allBlank draft.payload.table = false :=
        table
      obtain ⟨fault, refused, rfl⟩ :=
        validateConditions_of_breaks .having 0 earlier breaks
      rw [Nat.zero_add, ← placed] at refused
      have inHaving :
          validateConditions .having 0 draft.payload.having =
            .error (.inCondition .having before.length fault) :=
        refused
      refine ⟨.inCondition .having before.length fault, ?_, rfl⟩
      simp only [Payload.validate, named,
        conditions_validated conditions, inHaving, bind, Except.bind]
      rfl
  | groupBy table conditions having placed earlier blank =>
      rename_i before after column
      have named : Text.allBlank draft.payload.table = false :=
        table
      have noneEarlier : before.findIdx? Text.allBlank = none :=
        List.findIdx?_eq_none_iff.mpr earlier
      have firstBlank :
          draft.payload.groupBy.findIdx? Text.allBlank =
            some before.length := by
        simp [payload, placed, List.findIdx?_append, noneEarlier,
          List.findIdx?_cons, blank]
      refine ⟨.groupColumnRequired before.length, ?_, rfl⟩
      simp only [Payload.validate, named,
        conditions_validated conditions, having_validated having,
        firstBlank, bind, Except.bind]
      rfl

/-- An accepted description breaks no rule. -/
theorem not_breaks_of_accepted
    {draft : Draft}
    (accepted : draft.Accepted)
    {message : String} :
    ¬ draft.Breaks message := by
  intro breaks
  obtain ⟨_, refused, _⟩ := validate_of_breaks breaks
  rw [validate_of_accepted accepted] at refused
  cases refused

/-- Only one rule is the first that a description breaks. -/
theorem breaks_unique
    {draft : Draft}
    {message other : String}
    (breaks : draft.Breaks message)
    (otherBreaks : draft.Breaks other) :
    other = message := by
  obtain ⟨violation, refused, rfl⟩ := validate_of_breaks breaks
  obtain ⟨_, otherRefused, rfl⟩ := validate_of_breaks otherBreaks
  rw [refused] at otherRefused
  cases otherRefused
  rfl

end Payload.Draft

/-! ## Texts -/

/-- A description with the right shape is decoded to what it gives. -/
theorem decodeString_of_given
    {text : String}
    {draft : Payload.Draft}
    (shaped : Json.decodeString Payload.given text = .ok draft) :
    Json.decodeString Payload.decode text = .ok draft.payload := by
  unfold Json.decodeString Json.Document.decode at shaped ⊢
  have finished :
      Payload.decode Json.nestingLimit (Json.read text).root =
        (Payload.given Json.nestingLimit (Json.read text).root).bind
          fun draft => .ok draft.payload :=
    Json.Record.decode_finish _ _ _ _ _
  cases fields : Payload.given Json.nestingLimit (Json.read text).root with
  | error cause =>
      rw [fields] at shaped
      cases shaped
  | ok found =>
      rw [fields] at shaped finished
      rw [finished]
      cases ends : Json.endsWell (Json.read text).trailing with
      | error cause =>
          rw [ends] at shaped
          cases shaped
      | ok done =>
          rw [ends] at shaped
          cases shaped
          rfl

/--
A description with the right shape is read as a query exactly when it is
accepted, and then as the query it denotes.  Any other one is refused for the
first rule it breaks.
-/
theorem ofPayload_decides
    {text : String}
    {draft : Payload.Draft}
    (shaped : Json.decodeString Payload.given text = .ok draft) :
    (∀ query,
      Query.ofPayload text = .ok query ↔
        draft.Accepted ∧ query = draft.denoted) ∧
    ∀ error,
      Query.ofPayload text = .error error ↔
        ∃ message,
          draft.Breaks message ∧ error = .query (.invalidQuery message) := by
  have decoded := decodeString_of_given shaped
  have read :
      Query.ofPayload text =
        draft.payload.validate.mapError
          (fun violation => .query (.invalidQuery violation.message)) := by
    rw [Query.ofPayload, Query.parse, decoded]
    dsimp only
    cases draft.payload.validate <;>
      rfl
  -- One of the two holds and never both, so each direction follows from checking.
  rcases draft.accepted_or_breaks with accepted | ⟨message, breaks⟩
  · rw [read, Payload.Draft.validate_of_accepted accepted]
    constructor
    · intro query
      constructor
      · intro same
        cases same
        exact ⟨accepted, rfl⟩
      · rintro ⟨_, rfl⟩
        rfl
    · intro error
      constructor
      · intro impossible
        cases impossible
      · rintro ⟨_, breaks, _⟩
        exact (Payload.Draft.not_breaks_of_accepted accepted breaks).elim
  · obtain ⟨violation, refused, rfl⟩ :=
      Payload.Draft.validate_of_breaks breaks
    rw [read, refused]
    constructor
    · intro query
      constructor
      · intro impossible
        cases impossible
      · rintro ⟨accepted, _⟩
        exact (Payload.Draft.not_breaks_of_accepted accepted breaks).elim
    · intro error
      constructor
      · intro same
        cases same
        exact ⟨violation.message, breaks, rfl⟩
      · rintro ⟨other, otherBreaks, rfl⟩
        rw [Payload.Draft.breaks_unique breaks otherBreaks]
        rfl

/-- A description whose second condition holds a list in a list. -/
def nestedPayload : String :=
  "\x7b\"table\":\"t\",\"conditions\":[\x7b\"column\":\"a\",\"type\":\" is_null \"\x7d,"
    ++ "\x7b\"column\":\"b\",\"operator\":\"in\",\"value\":[1,[2]]\x7d],\"having\":null\x7d"

/-- A list in a list is the first rule that is broken where all before it is accepted. -/
theorem ofPayload_decides_nested :
    ∃ draft,
      Json.decodeString Payload.given nestedPayload = .ok draft ∧
        draft.Breaks "condition[1]: 'in' values must be scalars" := by
  have decodes :
      (Json.decodeString Payload.given nestedPayload).toOption.isSome =
        true := by
    decide +kernel
  have refuses :
      (match Query.ofPayload nestedPayload with
        | .ok _ => none
        | .error error => some error) =
        some (.query
          (.invalidQuery "condition[1]: 'in' values must be scalars")) := by
    decide +kernel
  cases shaped : Json.decodeString Payload.given nestedPayload with
  | error cause =>
      rw [shaped] at decodes
      cases decodes
  | ok draft =>
      refine ⟨draft, rfl, ?_⟩
      cases result : Query.ofPayload nestedPayload with
      | ok query =>
          rw [result] at refuses
          cases refuses
      | error error =>
          rw [result] at refuses
          obtain ⟨message, breaks, same⟩ :=
            ((ofPayload_decides shaped).2 error).mp result
          rw [same] at refuses
          cases refuses
          exact breaks

end QueryAgent
