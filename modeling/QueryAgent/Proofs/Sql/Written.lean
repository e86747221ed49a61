import QueryAgent.Proofs.Sql.Pieces
import Mathlib.Data.List.Forall2

namespace QueryAgent.Sql

/-!
# What is written for a query

A condition either has a fault, which does not depend on the dialect, or it is
written in the one way its operator and value allow.  A query has the fault of
its table, else that of its first faulty condition, else it is written clause
by clause.
-/

/-- The value a condition really gives; null counts as no value. -/
def givenValue?
    (condition : Condition) : Option Param :=
  condition.value.filter (fun value => !value.isNull)

/-- Why a condition cannot be compiled, none when it can be. -/
def conditionFault?
    (condition : Condition) : Option CompileError :=
  match condition.operator, givenValue? condition with
  | .isNull, _ => none
  | .isNotNull, _ => none
  | .unsupported name, _ => some (.unsupportedOperator name)
  | operator, none => some (.valueRequired operator condition.column)
  | .isIn, some (.list _) => none
  | .isIn, some _ => some (.listRequired condition.column)
  | _, some _ => none

/-- The fault that is reported for a query, none when it can be compiled. -/
def queryFault?
    (query : Query) : Option CompileError :=
  if Text.allBlank query.table then
    some .tableRequired
  else
    (query.conditions ++ query.having).findSome? conditionFault?

/-- The sign of a comparison, none for an operator that is no comparison. -/
def comparisonSign? : Operator → Option String
  | .equal => some "="
  | .notEqual => some "!="
  | .greaterThan => some ">"
  | .greaterOrEqual => some ">="
  | .lessThan => some "<"
  | .lessOrEqual => some "<="
  | .like => some "LIKE"
  | _ => none

/-- The pieces of a list that is bound item by item. -/
def itemPieces
    (items : List Param) : List Piece :=
  joined ", " (items.map fun item => [Piece.bound item])

/-- The pieces that a condition is written as. -/
inductive Written (policy : ListPolicy) : Condition → List Piece → Prop where
  | comparison
      {column sign : String}
      {operator : Operator}
      {value : Param}
      (compares : comparisonSign? operator = some sign)
      (given : value.isNull = false) :
      Written policy ⟨column, operator, some value⟩
        [.text (column ++ " " ++ sign ++ " "), .bound value]
  | isNull
      {column : String}
      {value : Option Param} :
      Written policy ⟨column, .isNull, value⟩
        [.text (column ++ " IS NULL")]
  | isNotNull
      {column : String}
      {value : Option Param} :
      Written policy ⟨column, .isNotNull, value⟩
        [.text (column ++ " IS NOT NULL")]
  | array
      {column : String}
      {items : List Param}
      (whole : policy = .bindArray) :
      Written policy ⟨column, .isIn, some (.list items)⟩
        [.text (column ++ " = ANY("), .bound (.list items), .text ")"]
  | noItems
      {column : String}
      (expanded : policy = .expand) :
      Written policy ⟨column, .isIn, some (.list [])⟩
        [.text "1 = 0"]
  | items
      {column : String}
      {item : Param}
      {items : List Param}
      (expanded : policy = .expand) :
      Written policy ⟨column, .isIn, some (.list (item :: items))⟩
        (.text (column ++ " IN (") :: itemPieces (item :: items) ++ [.text ")"])

/-- A list that is bound item by item binds its items. -/
@[simp] theorem boundValues_itemPieces
    (items : List Param) :
    boundValues (itemPieces items) = items := by
  rw [itemPieces, boundValues_joined, List.flatMap_map]
  simp [boundValues]

/-- A required value is the given one. -/
theorem requiredValue_eq
    (condition : Condition) :
    requiredValue condition =
      match givenValue? condition with
      | some value => .ok value
      | none => .error (.valueRequired condition.operator condition.column) := by
  rcases condition with ⟨column, operator, value⟩
  cases value with
  | none =>
      rfl
  | some value =>
      cases value <;> rfl

/-- The given value of a condition is the one it carries, and not null. -/
theorem givenValue?_eq_some_iff
    {condition : Condition}
    {value : Param} :
    givenValue? condition = some value ↔
      condition.value = some value ∧ value.isNull = false := by
  simp [givenValue?, Option.filter_eq_some_iff]

/-- A comparison without a fault is written with its sign and its value. -/
private theorem comparison_written
    {policy : ListPolicy}
    {condition : Condition}
    {sign : String}
    (compares : comparisonSign? condition.operator = some sign)
    {value : Param}
    (given : givenValue? condition = some value) :
    ∃ pieces,
      comparison condition sign = .ok pieces ∧
        Written policy condition pieces := by
  obtain ⟨carried, notNull⟩ := givenValue?_eq_some_iff.mp given
  refine
    ⟨[.text (condition.column ++ " " ++ sign ++ " "), .bound value],
      ?_, ?_⟩
  · rw [comparison, requiredValue_eq, given]
    rfl
  · rcases condition with ⟨column, operator, _⟩
    subst carried
    exact .comparison compares notNull

/-- A membership without a fault is written as its dialect binds lists. -/
private theorem membership_written
    (policy : ListPolicy)
    {column : String}
    {items : List Param} :
    ∃ pieces,
      membership policy ⟨column, .isIn, some (.list items)⟩ = .ok pieces ∧
        Written policy ⟨column, .isIn, some (.list items)⟩ pieces := by
  cases policy with
  | bindArray =>
      exact ⟨_, rfl, .array rfl⟩
  | expand =>
      cases items with
      | nil =>
          exact ⟨_, rfl, .noItems rfl⟩
      | cons item items =>
          exact ⟨_, rfl, .items rfl⟩

/-- A faulty condition is refused for its fault, whatever the policy. -/
theorem conditionPieces_of_fault
    (policy : ListPolicy)
    {condition : Condition}
    {fault : CompileError}
    (faulty : conditionFault? condition = some fault) :
    conditionPieces policy condition = .error fault := by
  rcases condition with ⟨column, operator, value⟩
  cases given : givenValue? ⟨column, operator, value⟩ with
  | none =>
      cases operator <;>
        simp_all [conditionFault?, conditionPieces, comparison, membership,
          requiredValue_eq, bind, Except.bind]
  | some value =>
      cases operator <;> cases value <;>
        simp_all [conditionFault?, conditionPieces, membership,
          requiredValue_eq, bind, Except.bind]

/-- A condition without a fault is written. -/
theorem conditionPieces_of_sound
    (policy : ListPolicy)
    {condition : Condition}
    (sound : conditionFault? condition = none) :
    ∃ pieces,
      conditionPieces policy condition = .ok pieces ∧
        Written policy condition pieces := by
  rcases condition with ⟨column, operator, value⟩
  cases given : givenValue? ⟨column, operator, value⟩ with
  | none =>
      cases operator with
      | isNull =>
          exact ⟨_, rfl, .isNull⟩
      | isNotNull =>
          exact ⟨_, rfl, .isNotNull⟩
      | _ =>
          simp [conditionFault?, given] at sound
  | some param =>
      cases operator with
      | isNull =>
          exact ⟨_, rfl, .isNull⟩
      | isNotNull =>
          exact ⟨_, rfl, .isNotNull⟩
      | unsupported name =>
          simp [conditionFault?] at sound
      | isIn =>
          obtain ⟨carried, _⟩ := givenValue?_eq_some_iff.mp given
          cases param with
          | list items =>
              subst carried
              exact membership_written policy
          | _ =>
              simp [conditionFault?, given] at sound
      | _ =>
          exact comparison_written rfl given

/-- The conditions of a clause are refused for the first fault among them. -/
theorem conditionList_of_fault
    (policy : ListPolicy)
    {conditions : List Condition}
    {fault : CompileError}
    (faulty : conditions.findSome? conditionFault? = some fault) :
    conditionList policy conditions = .error fault := by
  induction conditions with
  | nil =>
      simp at faulty
  | cons condition rest inductionHypothesis =>
      rw [List.findSome?_cons] at faulty
      cases own : conditionFault? condition with
      | some first =>
          rw [own] at faulty
          cases faulty
          rw [conditionList, conditionPieces_of_fault policy own]
          rfl
      | none =>
          rw [own] at faulty
          obtain ⟨pieces, accepted, _⟩ :=
            conditionPieces_of_sound policy own
          rw [conditionList, accepted, inductionHypothesis faulty]
          rfl

/-- Conditions without a fault are written one by one. -/
theorem conditionList_of_sound
    (policy : ListPolicy)
    {conditions : List Condition}
    (sound : conditions.findSome? conditionFault? = none) :
    ∃ parts,
      conditionList policy conditions = .ok parts ∧
        List.Forall₂ (Written policy) conditions parts := by
  induction conditions with
  | nil =>
      exact ⟨[], rfl, .nil⟩
  | cons condition rest inductionHypothesis =>
      rw [List.findSome?_cons] at sound
      cases own : conditionFault? condition with
      | some first =>
          simp [own] at sound
      | none =>
          rw [own] at sound
          obtain ⟨pieces, accepted, written⟩ :=
            conditionPieces_of_sound policy own
          obtain ⟨parts, restAccepted, restWritten⟩ :=
            inductionHypothesis sound
          refine ⟨pieces :: parts, ?_, .cons written restWritten⟩
          rw [conditionList, accepted, restAccepted]
          rfl

/-- The pieces of a clause with the given parts, none when there are none. -/
def clauseOfParts
    (keyword : String) : List (List Piece) → List Piece
  | [] => []
  | parts => .text keyword :: joined " AND " parts

/-- A clause binds what its parts bind. -/
theorem boundValues_clauseOfParts
    (keyword : String)
    (parts : List (List Piece)) :
    boundValues (clauseOfParts keyword parts) =
      parts.flatMap boundValues := by
  cases parts with
  | nil =>
      rfl
  | cons part rest =>
      rw [clauseOfParts, boundValues, boundValues_joined]
      simp

/-- A clause is refused for the first fault among its conditions. -/
theorem clausePieces_of_fault
    (policy : ListPolicy)
    (keyword : String)
    {conditions : List Condition}
    {fault : CompileError}
    (faulty : conditions.findSome? conditionFault? = some fault) :
    clausePieces policy keyword conditions = .error fault := by
  cases conditions with
  | nil =>
      simp at faulty
  | cons condition rest =>
      rw [clausePieces, conditionList_of_fault policy faulty]
      · rfl
      · simp

/-- A clause of conditions without a fault is written from their parts. -/
theorem clausePieces_of_sound
    (policy : ListPolicy)
    (keyword : String)
    {conditions : List Condition}
    (sound : conditions.findSome? conditionFault? = none) :
    ∃ parts,
      clausePieces policy keyword conditions =
          .ok (clauseOfParts keyword parts) ∧
        List.Forall₂ (Written policy) conditions parts := by
  obtain ⟨parts, accepted, written⟩ :=
    conditionList_of_sound policy sound
  refine ⟨parts, ?_, written⟩
  cases written with
  | nil =>
      rfl
  | cons _ _ =>
      rw [clausePieces, accepted]
      · rfl
      · simp

/-- A faulty query is refused for its fault, whatever the policy. -/
theorem queryPieces_of_fault
    (policy : ListPolicy)
    {query : Query}
    {fault : CompileError}
    (faulty : queryFault? query = some fault) :
    queryPieces policy query = .error fault := by
  unfold queryFault? at faulty
  unfold queryPieces
  split at faulty
  · next blankTable =>
      cases faulty
      rw [if_pos blankTable]
  · next namedTable =>
      rw [if_neg namedTable]
      rw [List.findSome?_append] at faulty
      cases inConditions : query.conditions.findSome? conditionFault? with
      | some first =>
          rw [inConditions] at faulty
          cases faulty
          rw [clausePieces_of_fault policy _ inConditions]
          rfl
      | none =>
          rw [inConditions] at faulty
          obtain ⟨parts, accepted, _⟩ :=
            clausePieces_of_sound policy " WHERE " inConditions
          rw [accepted, clausePieces_of_fault policy _ faulty]
          rfl

/-- The pieces of a query whose conditions are written as the given parts. -/
def piecesOfParts
    (query : Query)
    (conditionParts havingParts : List (List Piece)) : List Piece :=
  .text ("SELECT " ++ selection query ++ " FROM " ++ source query)
    :: clauseOfParts " WHERE " conditionParts
    ++ groupPieces query.groupBy
    ++ clauseOfParts " HAVING " havingParts
    ++ limitPieces query

/-- The value that a limit binds, none when it does not count. -/
def limitValues
    (query : Query) : List Param :=
  (query.effectiveLimit.map Param.integer).toList

/-- A query binds what its conditions bind, in the order of its clauses, then the limit. -/
theorem boundValues_piecesOfParts
    (query : Query)
    (conditionParts havingParts : List (List Piece)) :
    boundValues (piecesOfParts query conditionParts havingParts) =
      conditionParts.flatMap boundValues
        ++ havingParts.flatMap boundValues
        ++ limitValues query := by
  have noGroupValues : boundValues (groupPieces query.groupBy) = [] := by
    cases query.groupBy <;>
      rfl
  have limitBound :
      boundValues (limitPieces query) = limitValues query := by
    unfold limitPieces limitValues
    cases query.effectiveLimit <;>
      rfl
  simp [piecesOfParts, boundValues, boundValues_clauseOfParts,
    noGroupValues, limitBound]

/-- A query without a fault is written clause by clause. -/
theorem queryPieces_of_sound
    (policy : ListPolicy)
    {query : Query}
    (sound : queryFault? query = none) :
    ∃ conditionParts havingParts,
      queryPieces policy query =
          .ok (piecesOfParts query conditionParts havingParts) ∧
        List.Forall₂ (Written policy) query.conditions conditionParts ∧
        List.Forall₂ (Written policy) query.having havingParts := by
  unfold queryFault? at sound
  split at sound
  · simp at sound
  · next namedTable =>
      rw [List.findSome?_append, Option.or_eq_none_iff] at sound
      obtain ⟨conditionParts, conditionsAccepted, conditionsWritten⟩ :=
        clausePieces_of_sound policy " WHERE " sound.1
      obtain ⟨havingParts, havingAccepted, havingWritten⟩ :=
        clausePieces_of_sound policy " HAVING " sound.2
      refine
        ⟨conditionParts, havingParts, ?_,
          conditionsWritten, havingWritten⟩
      rw [queryPieces, if_neg namedTable, conditionsAccepted,
        havingAccepted]
      rfl

/-- Every dialect refuses a faulty query for the same fault. -/
theorem compile_of_fault
    (dialect : Dialect)
    {query : Query}
    {fault : CompileError}
    (faulty : queryFault? query = some fault) :
    dialect.compile query = .error fault := by
  rw [Dialect.compile, queryPieces_of_fault dialect.listPolicy faulty]
  rfl

/-- Every dialect compiles a query without a fault, clause by clause. -/
theorem compile_of_sound
    (dialect : Dialect)
    {query : Query}
    (sound : queryFault? query = none) :
    ∃ conditionParts havingParts,
      dialect.compile query =
          .ok (.ofPieces dialect.placeholders
            (piecesOfParts query conditionParts havingParts)) ∧
        List.Forall₂ (Written dialect.listPolicy)
          query.conditions conditionParts ∧
        List.Forall₂ (Written dialect.listPolicy)
          query.having havingParts := by
  obtain ⟨conditionParts, havingParts, accepted, written⟩ :=
    queryPieces_of_sound dialect.listPolicy sound
  refine ⟨conditionParts, havingParts, ?_, written⟩
  rw [Dialect.compile, accepted]
  rfl

/-- A compiled statement is made of the clauses of its query. -/
theorem written_of_compile
    {dialect : Dialect}
    {query : Query}
    {statement : Statement}
    (compiled : dialect.compile query = .ok statement) :
    ∃ conditionParts havingParts,
      statement =
          .ofPieces dialect.placeholders
            (piecesOfParts query conditionParts havingParts) ∧
        List.Forall₂ (Written dialect.listPolicy)
          query.conditions conditionParts ∧
        List.Forall₂ (Written dialect.listPolicy)
          query.having havingParts := by
  cases fault : queryFault? query with
  | some cause =>
      rw [compile_of_fault dialect fault] at compiled
      cases compiled
  | none =>
      obtain ⟨conditionParts, havingParts, accepted, written⟩ :=
        compile_of_sound dialect fault
      rw [accepted] at compiled
      exact ⟨conditionParts, havingParts, (Except.ok.inj compiled).symm, written⟩

/-- A query is compiled exactly when it names a table and none of its conditions has a fault. -/
theorem exists_statement_iff
    (dialect : Dialect)
    (query : Query) :
    (∃ statement, dialect.statement query = .ok statement) ↔
      Text.allBlank query.table = false
        ∧ ∀ condition ∈ query.conditions ++ query.having, conditionFault? condition = none := by
  have sound_iff :
      queryFault? query = none ↔
        Text.allBlank query.table = false
          ∧ ∀ condition ∈ query.conditions ++ query.having, conditionFault? condition = none := by
    rw [queryFault?]
    split
    next blankTable =>
        simp [blankTable]
    next namedTable =>
        rw [List.findSome?_eq_none_iff]
        simp [namedTable]
  rw [← sound_iff]
  cases fault : queryFault? query with
  | none =>
      obtain ⟨_, _, compiled, _⟩ := compile_of_sound dialect fault
      rw [Dialect.statement, compiled]
      exact ⟨fun _ => rfl, fun _ => ⟨_, rfl⟩⟩
  | some cause =>
      rw [Dialect.statement, compile_of_fault dialect fault]
      constructor
      · rintro ⟨_, compiled⟩
        cases compiled
      · intro sound
        cases sound

/-- The values that a condition binds: its items one by one, or its value as a whole. -/
def valuesBoundBy
    (policy : ListPolicy)
    (condition : Condition) : List Param :=
  match policy, condition.operator, condition.value with
  | .expand, .isIn, some (.list items) =>
      items
  | _, operator, value =>
      if operator.takesValue then value.toList else []

theorem boundValues_eq_of_written
    {policy : ListPolicy}
    {condition : Condition}
    {pieces : List Piece}
    (written : Written policy condition pieces) :
    boundValues pieces = valuesBoundBy policy condition := by
  cases written with
  | comparison compares given =>
      rename_i operator _
      cases policy <;> cases operator <;> cases compares <;>
        rfl
  | array whole =>
      subst whole
      rfl
  | noItems expanded =>
      subst expanded
      rfl
  | items expanded =>
      subst expanded
      simp [boundValues, valuesBoundBy]
  | _ =>
      cases policy <;>
        rfl

theorem flatMap_boundValues_eq_of_written
    {policy : ListPolicy}
    {conditions : List Condition}
    {parts : List (List Piece)}
    (written : List.Forall₂ (Written policy) conditions parts) :
    parts.flatMap boundValues = conditions.flatMap (valuesBoundBy policy) := by
  induction written with
  | nil =>
      rfl
  | cons first others inductionHypothesis =>
      rw [List.flatMap_cons, List.flatMap_cons, boundValues_eq_of_written first,
        inductionHypothesis]

/-- A compiled query binds the values of its conditions in their order, then its limit. -/
theorem parameters_of_compile
    {dialect : Dialect}
    {query : Query}
    {statement : Statement}
    (compiled : dialect.compile query = .ok statement) :
    statement.parameters =
      (query.conditions ++ query.having).flatMap (valuesBoundBy dialect.listPolicy)
        ++ limitValues query := by
  obtain ⟨conditionParts, havingParts, rfl, conditionsWritten, havingWritten⟩ :=
    written_of_compile compiled
  rw [Statement.ofPieces, boundValues_piecesOfParts, List.flatMap_append,
    flatMap_boundValues_eq_of_written conditionsWritten,
    flatMap_boundValues_eq_of_written havingWritten]

/-- A query with clauses of every kind, on the given values. -/
def ordersQuery
    (status : String)
    (regions : List Param)
    (limit : Int64) : Query where
  table := "orders"
  schema := some "sales"
  projection := some "region"
  conditions :=
    [⟨"status", .equal, some (.text status)⟩,
      ⟨"region", .isIn, some (.list regions)⟩,
      ⟨"paid_at", .isNotNull, none⟩]
  groupBy := ["region", "channel"]
  having := [⟨"total", .greaterOrEqual, some (.integer 5)⟩]
  limit := some limit

end QueryAgent.Sql
