import QueryAgent.Query.Validation

namespace QueryAgent

/-!
# What a validated query is sure to keep

A query that has been read from a description names a table, and every value in
it is one that its operator takes: never null, a list of scalars for membership
and a scalar for every comparison.
-/

/-- A condition with a value that its operator takes. -/
structure ConditionValid
    (condition : Condition) : Prop where
  taken : valueFault? condition.operator condition.value = none
  notNull : ∀ value ∈ condition.value, value.isNull = false

/-- A query with a table, and with values that their operators take. -/
structure QueryValid
    (query : Query) : Prop where
  table : Text.allBlank query.table = false
  conditions :
    ∀ condition ∈ query.conditions ++ query.having,
      ConditionValid condition

/-- A condition that passed its checks is valid. -/
theorem valid_of_validate
    {described : PayloadCondition}
    {condition : Condition}
    (validated : described.validate = .ok condition) :
    ConditionValid condition := by
  unfold PayloadCondition.validate at validated
  split at validated
  · cases validated
  · split at validated
    · cases validated
    · next operator named =>
        dsimp only at validated
        split at validated
        · cases validated
        · next taken =>
            cases validated
            refine ⟨taken, ?_⟩
            intro value kept
            obtain ⟨_, notNull⟩ := Option.filter_eq_some_iff.mp kept
            simpa using notNull

/-- Every condition of a clause that passed its checks is valid. -/
theorem valid_of_validateConditions
    {clause : Clause}
    {index : Nat}
    {described : List PayloadCondition}
    {conditions : List Condition}
    (validated :
      validateConditions clause index described = .ok conditions) :
    ∀ condition ∈ conditions, ConditionValid condition := by
  induction described generalizing index conditions with
  | nil =>
      cases validated
      simp
  | cons first rest inductionHypothesis =>
      rw [validateConditions] at validated
      split at validated
      · cases validated
      · next condition firstValidated =>
          split at validated
          · cases validated
          · next others restValidated =>
              cases validated
              rw [List.forall_mem_cons]
              exact
                ⟨valid_of_validate firstValidated,
                  inductionHypothesis restValidated⟩

/-- A description that passed its checks denotes a valid query. -/
theorem valid_of_validatePayload
    {described : Payload}
    {query : Query}
    (validated : described.validate = .ok query) :
    QueryValid query := by
  unfold Payload.validate at validated
  split at validated
  · cases validated
  · next namedTable =>
      cases inConditions :
          validateConditions .condition 0 described.conditions with
      | error violation =>
          rw [inConditions] at validated
          cases validated
      | ok conditions =>
          cases inHaving :
              validateConditions .having 0 described.having with
          | error violation =>
              rw [inConditions, inHaving] at validated
              cases validated
          | ok having =>
              rw [inConditions, inHaving] at validated
              simp only [bind, Except.bind] at validated
              split at validated
              · cases validated
              · cases validated
                refine ⟨by simpa using namedTable, ?_⟩
                intro condition member
                rcases List.mem_append.mp member with inFirst | inSecond
                · exact valid_of_validateConditions inConditions _ inFirst
                · exact valid_of_validateConditions inHaving _ inSecond

/-- Every query that is read from a text is valid. -/
theorem valid_of_parse
    {payload : String}
    {query : Query}
    (parsed : Query.parse payload = .ok query) :
    QueryValid query := by
  unfold Query.parse at parsed
  split at parsed
  · cases parsed
  · split at parsed
    · cases parsed
    · next described validated =>
        cases parsed
        exact valid_of_validatePayload validated

end QueryAgent
