import QueryAgent.Mysql.Cell
import QueryAgent.Proofs.Query.Validity
import QueryAgent.Proofs.Sql.Written

namespace QueryAgent.Sql

/-!
# Valid queries can be executed

What is checked when a query is read covers what is checked when it is compiled
and when its parameters are bound: the one fault a valid query can still have is
an operator that nobody knows, and no list reaches a backend that takes none.
-/

/-- The one fault a valid condition can have is its operator. -/
theorem conditionFault?_of_valid
    {condition : Condition}
    (valid : ConditionValid condition) :
    conditionFault? condition =
      if condition.operator.isUnsupported then
        some (.unsupportedOperator condition.operator.name)
      else
        none := by
  rcases condition with ⟨column, operator, value⟩
  obtain ⟨taken, notNull⟩ := valid
  cases value with
  | none =>
      cases operator <;>
        simp_all [conditionFault?, valueFault?, Operator.takesValue,
          Operator.isUnsupported, Operator.name]
  | some value =>
      have given :
          givenValue? ⟨column, operator, some value⟩ = some value :=
        givenValue?_eq_some_iff.mpr ⟨rfl, notNull value rfl⟩
      cases operator with
      | isIn =>
          cases value <;>
            simp_all [conditionFault?, valueFault?, Operator.takesValue,
              Operator.isUnsupported]
      | _ =>
          simp [conditionFault?, given, Operator.isUnsupported,
            Operator.name]

/-- The first fault of valid conditions is the first operator that nobody knows. -/
theorem findSome?_conditionFault?_of_valid
    {conditions : List Condition}
    (valid : ∀ condition ∈ conditions, ConditionValid condition) :
    conditions.findSome? conditionFault? =
      (conditions.find? fun condition =>
        condition.operator.isUnsupported).map fun condition =>
          .unsupportedOperator condition.operator.name := by
  induction conditions with
  | nil =>
      rfl
  | cons condition rest inductionHypothesis =>
      rw [List.forall_mem_cons] at valid
      rw [List.findSome?_cons, List.find?_cons,
        conditionFault?_of_valid valid.1]
      cases unknown : condition.operator.isUnsupported with
      | true =>
          simp
      | false =>
          simpa using inductionHypothesis valid.2

/-- What a valid condition binds where lists are expanded is no list. -/
theorem isList_of_written
    {condition : Condition}
    (valid : ConditionValid condition)
    {pieces : List Piece}
    (written : Written .expand condition pieces) :
    ∀ value ∈ boundValues pieces, value.isList = false := by
  cases written with
  | comparison compares given =>
      rename_i column sign operator value
      have scalar : value.isList = false := by
        have taken := valid.taken
        cases value with
        | list items =>
            cases operator <;> cases compares <;>
              cases taken
        | _ =>
            rfl
      simpa [boundValues] using scalar
  | isNull =>
      simp [boundValues]
  | isNotNull =>
      simp [boundValues]
  | array whole =>
      cases whole
  | noItems expanded =>
      simp [boundValues]
  | items expanded =>
      rename_i column item items
      have scalars :
          ∀ member ∈ item :: items, member.isList = false := by
        have taken := valid.taken
        by_cases nested : (item :: items).any Param.isList = true
        · simp [valueFault?, Operator.takesValue, nested] at taken
        · simpa using nested
      simpa [boundValues] using scalars

/-- A value that is no list can be bound to a placeholder of MySQL. -/
theorem ofParam_of_scalar
    {param : Param}
    (scalar : param.isList = false) :
    ∃ cell, Mysql.ofParam param = .ok cell := by
  cases param with
  | list items =>
      cases scalar
  | _ =>
      exact ⟨_, rfl⟩

/-- What valid conditions bind where lists are expanded is no list. -/
theorem isList_of_allWritten
    {conditions : List Condition}
    (valid : ∀ condition ∈ conditions, ConditionValid condition)
    {parts : List (List Piece)}
    (written : List.Forall₂ (Written .expand) conditions parts) :
    ∀ value ∈ parts.flatMap boundValues, value.isList = false := by
  induction written with
  | nil =>
      simp
  | cons headWritten _ inductionHypothesis =>
      rw [List.forall_mem_cons] at valid
      intro value member
      rw [List.flatMap_cons, List.mem_append] at member
      rcases member with inHead | inRest
      · exact isList_of_written valid.1 headWritten value inHead
      · exact inductionHypothesis valid.2 value inRest

/-- No parameter of a valid query is a list where lists are expanded. -/
theorem isList_of_compile
    {dialect : Dialect}
    (expands : dialect.listPolicy = .expand)
    {query : Query}
    (valid : QueryValid query)
    {statement : Statement}
    (compiled : dialect.compile query = .ok statement) :
    ∀ param ∈ statement.parameters, param.isList = false := by
  obtain ⟨conditionParts, havingParts, rfl,
      conditionsWritten, havingWritten⟩ :=
    written_of_compile compiled
  rw [expands] at conditionsWritten havingWritten
  have conditionsValid :
      ∀ condition ∈ query.conditions, ConditionValid condition :=
    fun condition member =>
      valid.conditions condition (List.mem_append_left _ member)
  have havingValid :
      ∀ condition ∈ query.having, ConditionValid condition :=
    fun condition member =>
      valid.conditions condition (List.mem_append_right _ member)
  intro param member
  simp only [Statement.ofPieces, boundValues_piecesOfParts,
    List.mem_append] at member
  rcases member with (inConditions | inHaving) | isLimit
  · exact
      isList_of_allWritten conditionsValid conditionsWritten
        param inConditions
  · exact
      isList_of_allWritten havingValid havingWritten param inHaving
  · cases limit : query.effectiveLimit with
    | none =>
        simp [limitValues, limit] at isLimit
    | some count =>
        have bound : param = .integer count := by
          simpa [limitValues, limit] using isLimit
        rw [bound]
        rfl

/--
A query that has been read from a text is compiled by every dialect, unless an
operator in it is unknown; then the first such operator is what is reported.
What it binds for MySQL can be bound.
-/
theorem parsed_query_executable
    {payload : String}
    {query : Query}
    (parsed : Query.parse payload = .ok query) :
    (∀ dialect : Dialect,
      (match (query.conditions ++ query.having).find? fun condition =>
          condition.operator.isUnsupported with
        | none =>
            ∃ statement, dialect.statement query = .ok statement
        | some condition =>
            dialect.statement query =
              .error (.query
                (.unsupportedOperator condition.operator.name))) ∧
      ∀ reason,
        dialect.statement query ≠
          .error (.query (.invalidQuery reason))) ∧
    ∀ statement,
      Dialect.mysql.statement query = .ok statement →
      ∀ param ∈ statement.parameters,
        ∃ cell, Mysql.ofParam param = .ok cell := by
  have valid := valid_of_parse parsed
  have fault :
      queryFault? query =
        ((query.conditions ++ query.having).find? fun condition =>
          condition.operator.isUnsupported).map fun condition =>
            .unsupportedOperator condition.operator.name := by
    rw [queryFault?, valid.table,
      findSome?_conditionFault?_of_valid valid.conditions]
    rfl
  constructor
  · intro dialect
    cases unknown :
        (query.conditions ++ query.having).find? fun condition =>
          condition.operator.isUnsupported with
    | none =>
        rw [unknown] at fault
        obtain ⟨_, _, compiled, _⟩ := compile_of_sound dialect fault
        have accepted := congrArg
          (Except.mapError CompileError.toAgentError) compiled
        refine ⟨⟨_, accepted⟩, ?_⟩
        intro reason refused
        rw [Dialect.statement, accepted] at refused
        cases refused
    | some condition =>
        rw [unknown] at fault
        have refused := congrArg
          (Except.mapError CompileError.toAgentError)
          (compile_of_fault dialect fault)
        refine ⟨refused, ?_⟩
        intro reason invalid
        rw [Dialect.statement, refused] at invalid
        cases invalid
  · intro statement accepted param member
    cases compiled : Dialect.mysql.compile query with
    | error cause =>
        rw [Dialect.statement, compiled] at accepted
        cases accepted
    | ok compiledStatement =>
        rw [Dialect.statement, compiled] at accepted
        cases accepted
        exact
          ofParam_of_scalar
            (isList_of_compile rfl valid compiled param member)

/-- A description by position, with a null in a list and a value nobody looks at. -/
def ordersPayload : String :=
  "[\"orders\",null,null,[[\"region\",\" in \",[1,null]],"
    ++ "[\"paid_at\",\"is_null\",[[2]]]],null,null,10]"

/-- A description with known operators is executed as a whole. -/
theorem parsed_query_executable_orders :
    ∃ query statement,
      Query.parse ordersPayload = .ok query ∧
      Dialect.mysql.statement query = .ok statement ∧
      ∀ param ∈ statement.parameters,
        ∃ cell, Mysql.ofParam param = .ok cell := by
  have allKnown :
      ((Query.parse ordersPayload).toOption.map fun query =>
        ((query.conditions ++ query.having).find? fun condition =>
          condition.operator.isUnsupported).isNone) = some true := by
    decide +kernel
  cases parsed : Query.parse ordersPayload with
  | error cause =>
      rw [parsed] at allKnown
      cases allKnown
  | ok query =>
      have none :
          ((query.conditions ++ query.having).find? fun condition =>
            condition.operator.isUnsupported) = none := by
        simpa [parsed, Except.toOption] using allKnown
      obtain ⟨compiles, binds⟩ := parsed_query_executable parsed
      have executed := (compiles Dialect.mysql).1
      rw [none] at executed
      obtain ⟨statement, accepted⟩ := executed
      exact ⟨query, statement, rfl, accepted, binds statement accepted⟩

end QueryAgent.Sql
