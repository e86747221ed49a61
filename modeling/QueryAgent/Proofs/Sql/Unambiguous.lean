import QueryAgent.Proofs.Sql.Clauses

namespace QueryAgent.Sql

/-!
# A PostgreSQL statement tells its query

With names that are single words the text of a statement tells what is asked,
clause by clause, and then the parameters tell the values.  Two queries with one
statement are therefore the same, but for what a statement never says: a limit
that does not count and a value that is not looked at.
-/

/-- A condition without a value that is not looked at. -/
def essentialCondition
    (condition : Condition) : Condition :=
  match condition.operator with
  | .isNull => { condition with value := none }
  | .isNotNull => { condition with value := none }
  | _ => condition

/-- A query without values that are not looked at and without a limit that does not count. -/
def essentialQuery
    (query : Query) : Query :=
  { query with
    conditions := query.conditions.map essentialCondition
    having := query.having.map essentialCondition
    limit := query.effectiveLimit }

/-- The text of a query is its names, then one clause behind the other. -/
theorem toList_renderFrom_piecesOfParts
    (query : Query)
    (conditionParts havingParts : List (List Piece)) :
    let further := 1 + (conditionParts.flatMap boundValues).length
    let last := further + (havingParts.flatMap boundValues).length
    (renderFrom (.numbered "$") 1
        (piecesOfParts query conditionParts havingParts)).toList =
      ("SELECT " ++ selection query ++ " FROM " ++ source query).toList
        ++ (clauseText 1 " WHERE " conditionParts
          ++ ((renderFrom (.numbered "$") further
              (groupPieces query.groupBy)).toList
            ++ (clauseText further " HAVING " havingParts
              ++ (renderFrom (.numbered "$") last
                (limitPieces query)).toList))) := by
  have noGroupValues : boundValues (groupPieces query.groupBy) = [] := by
    cases query.groupBy <;>
      rfl
  simp only [piecesOfParts, renderFrom_append, renderFrom,
    List.cons_append, boundValues_clauseOfParts, noGroupValues,
    List.length_nil, Nat.add_zero, String.toList_append,
    List.append_assoc, clauseText]

/-- Two plainly named queries with one text have the same names and ask alike. -/
theorem questions_of_text
    {first second : Query}
    (firstPlain : PlainlyNamed first)
    (secondPlain : PlainlyNamed second)
    {conditionParts havingParts otherConditionParts otherHavingParts :
      List (List Piece)}
    (conditionsWritten :
      List.Forall₂ (Written .bindArray) first.conditions conditionParts)
    (havingWritten :
      List.Forall₂ (Written .bindArray) first.having havingParts)
    (otherConditionsWritten :
      List.Forall₂ (Written .bindArray)
        second.conditions otherConditionParts)
    (otherHavingWritten :
      List.Forall₂ (Written .bindArray) second.having otherHavingParts)
    (same :
      renderFrom (.numbered "$") 1
          (piecesOfParts first conditionParts havingParts) =
        renderFrom (.numbered "$") 1
          (piecesOfParts second otherConditionParts otherHavingParts)) :
    (first.projection = second.projection ∧
        first.schema = second.schema ∧
        first.table = second.table) ∧
      List.Forall₂ SameQuestion first.conditions second.conditions ∧
      first.groupBy = second.groupBy ∧
      List.Forall₂ SameQuestion first.having second.having := by
  have whereSpelled : " WHERE ".toList = ' ' :: 'W' :: "HERE ".toList := by
    simp
  have havingSpelled : " HAVING ".toList = ' ' :: 'H' :: "AVING ".toList := by
    simp
  have behindHaving :
      ∀ (number last : Nat) (query : Query) (parts : List (List Piece)),
        Continues ['H', 'L']
          (clauseText number " HAVING " parts
            ++ (renderFrom (.numbered "$") last
              (limitPieces query)).toList) :=
    fun number last query parts =>
      continues_append (clauseText_opens number havingSpelled parts)
        (continues_limit last query)
  have behindGroup :
      ∀ (number last : Nat) (query : Query) (parts : List (List Piece)),
        Continues ['G', 'H', 'L']
          ((renderFrom (.numbered "$") number
              (groupPieces query.groupBy)).toList
            ++ (clauseText number " HAVING " parts
              ++ (renderFrom (.numbered "$") last
                (limitPieces query)).toList)) :=
    fun number last query parts =>
      continues_append (groupText_opens number query.groupBy)
        (behindHaving number last query parts)
  have sameText := congrArg String.toList same
  rw [toList_renderFrom_piecesOfParts,
    toList_renderFrom_piecesOfParts] at sameText
  obtain ⟨sameNames, fromConditions⟩ :=
    names_eq_of_text firstPlain secondPlain
      (continues_append (clauseText_opens 1 whereSpelled _)
        (behindGroup _ _ first havingParts))
      (continues_append (clauseText_opens 1 whereSpelled _)
        (behindGroup _ _ second otherHavingParts))
      sameText
  obtain ⟨sameConditions, fromGroup⟩ :=
    sameQuestions_of_clauseText (by simp) 1 whereSpelled (by simp)
      (fun condition member =>
        firstPlain.columns condition (List.mem_append_left _ member))
      (fun condition member =>
        secondPlain.columns condition (List.mem_append_left _ member))
      conditionsWritten otherConditionsWritten
      (behindGroup _ _ first havingParts)
      (behindGroup _ _ second otherHavingParts)
      fromConditions
  rw [length_flatMap_boundValues sameConditions
    conditionsWritten otherConditionsWritten] at fromGroup
  obtain ⟨sameGroup, fromHaving⟩ :=
    groupBy_eq_of_text (by simp) _
      firstPlain.groupBy secondPlain.groupBy
      (behindHaving _ _ first havingParts)
      (behindHaving _ _ second otherHavingParts)
      fromGroup
  obtain ⟨sameHaving, _⟩ :=
    sameQuestions_of_clauseText (by simp) _ havingSpelled (by simp)
      (fun condition member =>
        firstPlain.columns condition (List.mem_append_right _ member))
      (fun condition member =>
        secondPlain.columns condition (List.mem_append_right _ member))
      havingWritten otherHavingWritten
      (continues_limit _ first) (continues_limit _ second)
      fromHaving
  exact ⟨sameNames, sameConditions, sameGroup, sameHaving⟩

/-- What a written condition binds: its value, when its operator takes one. -/
theorem boundValues_of_written
    {condition : Condition}
    {pieces : List Piece}
    (written : Written .bindArray condition pieces) :
    boundValues pieces =
      if condition.operator.takesValue then
        condition.value.toList
      else
        [] :=
  boundValues_eq_of_written written

/-- Conditions that ask alike and bind the same are the same in what counts. -/
theorem essentialCondition_eq
    {first second : Condition}
    {pieces others : List Piece}
    (sameQuestion : SameQuestion first second)
    (firstWritten : Written .bindArray first pieces)
    (secondWritten : Written .bindArray second others)
    (sameValues : boundValues pieces = boundValues others) :
    essentialCondition first = essentialCondition second := by
  rw [boundValues_of_written firstWritten,
    boundValues_of_written secondWritten] at sameValues
  have known := mem_knownOperators_of_written firstWritten
  rcases first with ⟨column, operator, value⟩
  rcases second with ⟨_, _, other⟩
  obtain ⟨rfl, rfl⟩ := sameQuestion
  have sameValue :
      operator.takesValue = true → value = other := by
    intro taken
    rw [if_pos taken, if_pos taken] at sameValues
    cases value <;> cases other <;> simp_all
  cases operator <;>
    simp_all [essentialCondition, Operator.takesValue, knownOperators]

/-- Conditions that ask alike and bind the same values are the same in what counts. -/
theorem essentialConditions_eq
    {first second : List Condition}
    {parts others : List (List Piece)}
    (sameQuestions : List.Forall₂ SameQuestion first second)
    (firstWritten : List.Forall₂ (Written .bindArray) first parts)
    (secondWritten : List.Forall₂ (Written .bindArray) second others)
    {after behind : List Param}
    (sameValues :
      parts.flatMap boundValues ++ after =
        others.flatMap boundValues ++ behind) :
    first.map essentialCondition = second.map essentialCondition ∧
      after = behind := by
  induction sameQuestions generalizing parts others with
  | nil =>
      cases firstWritten
      cases secondWritten
      exact ⟨rfl, sameValues⟩
  | cons sameHead _ inductionHypothesis =>
      cases firstWritten with
      | cons firstHead firstRest =>
          cases secondWritten with
          | cons secondHead secondRest =>
              rw [List.flatMap_cons, List.flatMap_cons,
                List.append_assoc, List.append_assoc] at sameValues
              obtain ⟨headValues, restValues⟩ :=
                List.append_inj sameValues
                  (length_boundValues_of_sameQuestion sameHead
                    firstHead secondHead)
              obtain ⟨sameRest, sameEnd⟩ :=
                inductionHypothesis firstRest secondRest restValues
              rw [List.map_cons, List.map_cons, sameRest,
                essentialCondition_eq sameHead
                  firstHead secondHead headValues]
              exact ⟨rfl, sameEnd⟩

/--
Two plainly named queries that compile to one PostgreSQL statement are the same
in all that counts.
-/
theorem essentialQuery_eq_of_compile_eq
    {first second : Query}
    (firstPlain : PlainlyNamed first)
    (secondPlain : PlainlyNamed second)
    {statement : Statement}
    (firstCompiled : Dialect.postgres.compile first = .ok statement)
    (secondCompiled : Dialect.postgres.compile second = .ok statement) :
    essentialQuery first = essentialQuery second := by
  obtain ⟨conditionParts, havingParts, firstShape,
      conditionsWritten, havingWritten⟩ :=
    written_of_compile firstCompiled
  obtain ⟨otherConditionParts, otherHavingParts, secondShape,
      otherConditionsWritten, otherHavingWritten⟩ :=
    written_of_compile secondCompiled
  have sameStatement := firstShape.symm.trans secondShape
  have sameText := congrArg Statement.text sameStatement
  have sameValues := congrArg Statement.parameters sameStatement
  obtain ⟨⟨sameProjection, sameSchema, sameTable⟩,
      sameConditions, sameGroup, sameHaving⟩ :=
    questions_of_text firstPlain secondPlain
      conditionsWritten havingWritten
      otherConditionsWritten otherHavingWritten sameText
  simp only [Statement.ofPieces, boundValues_piecesOfParts,
    List.append_assoc] at sameValues
  obtain ⟨conditionsEq, fromHaving⟩ :=
    essentialConditions_eq sameConditions
      conditionsWritten otherConditionsWritten sameValues
  obtain ⟨havingEq, sameLimitValues⟩ :=
    essentialConditions_eq sameHaving
      havingWritten otherHavingWritten fromHaving
  have sameLimit : first.effectiveLimit = second.effectiveLimit := by
    unfold limitValues at sameLimitValues
    cases firstLimit : first.effectiveLimit <;>
      cases secondLimit : second.effectiveLimit <;>
      simp_all
  simp only [essentialQuery, sameProjection, sameSchema, sameTable,
    sameGroup, conditionsEq, havingEq, sameLimit]

/-- A query whose names are keywords, on a value nobody looks at and a limit. -/
def keywordQuery
    (idle : Option Param)
    (limit : Option Int64) : Query where
  table := "from"
  schema := some "in"
  projection := some "select"
  conditions :=
    [⟨"and", .isNull, idle⟩, ⟨"is", .isIn, some (.list [.null])⟩]
  groupBy := ["having", "limit"]
  having := [⟨"like", .like, some (.text "$1")⟩]
  limit := limit

/-- An idle value and an idle limit are all that differs where names are keywords. -/
theorem essentialQuery_eq_of_compile_eq_keywords :
    ∃ statement,
      Dialect.postgres.compile (keywordQuery none none) = .ok statement ∧
      Dialect.postgres.compile
          (keywordQuery (some (.text "x")) (some (-3))) =
        .ok statement ∧
      essentialQuery (keywordQuery none none) =
        essentialQuery
          (keywordQuery (some (.text "x")) (some (-3))) := by
  have isWord :
      ∀ name ∈ ["from", "in", "select", "and", "is", "having", "limit", "like"],
        IsWord name := by
    decide
  have plain :
      ∀ idle limit, PlainlyNamed (keywordQuery idle limit) := by
    intro idle limit
    constructor <;>
      simp [keywordQuery, isWord]
  exact
    ⟨_, rfl, rfl,
      essentialQuery_eq_of_compile_eq (plain _ _) (plain _ _) rfl rfl⟩

end QueryAgent.Sql
