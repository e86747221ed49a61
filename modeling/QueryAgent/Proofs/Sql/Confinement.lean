import QueryAgent.Proofs.Sql.Written

namespace QueryAgent.Sql

/-!
# Values stay out of the text

The text of a statement depends on its pieces only through their outline, which
tells that something is bound at a place but not what.  Queries that ask for the
same columns by the same operators have the same outline, so no value, however
it is spelled, can change the text.
-/

/-- What the text shows of a piece: its words, or that something is bound. -/
def Piece.outline : Piece → Option String
  | .text content => some content
  | .bound _ => none

/-- Pieces with the same outline are rendered to the same text. -/
theorem renderFrom_eq_of_outline
    (style : PlaceholderStyle)
    (number : Nat)
    {first second : List Piece}
    (sameOutline : first.map Piece.outline = second.map Piece.outline) :
    renderFrom style number first = renderFrom style number second := by
  induction first generalizing number second with
  | nil =>
      rw [List.map_nil, eq_comm, List.map_eq_nil_iff] at sameOutline
      rw [sameOutline]
  | cons piece rest inductionHypothesis =>
      cases second with
      | nil =>
          simp at sameOutline
      | cons other others =>
          rw [List.map_cons, List.map_cons, List.cons.injEq] at sameOutline
          obtain ⟨sameHead, sameRest⟩ := sameOutline
          cases piece with
          | text content =>
              cases other with
              | text words =>
                  cases sameHead
                  rw [renderFrom, renderFrom,
                    inductionHypothesis number sameRest]
              | bound value =>
                  cases sameHead
          | bound value =>
              cases other with
              | text words =>
                  cases sameHead
              | bound otherValue =>
                  rw [renderFrom, renderFrom,
                    inductionHypothesis (number + 1) sameRest]

/-- The number of bound values shows in the outline. -/
theorem length_boundValues
    (pieces : List Piece) :
    (boundValues pieces).length =
      (pieces.map Piece.outline).count none := by
  induction pieces with
  | nil =>
      rfl
  | cons piece rest inductionHypothesis =>
      cases piece <;>
        simp [boundValues, Piece.outline, inductionHypothesis]

/--
Conditions on one column by one operator.  Where lists are expanded, the items
of a list show in the text one by one, so their number has to agree as well.
-/
structure ConditionsAlike
    (policy : ListPolicy)
    (first second : Condition) : Prop where
  column : first.column = second.column
  operator : first.operator = second.operator
  listLength :
    policy = .expand →
    first.operator = .isIn →
    ∀ items others,
      first.value = some (.list items) →
      second.value = some (.list others) →
      items.length = others.length

/-- A query whose limit counts. -/
def IsLimited
    (query : Query) : Prop :=
  ∃ limit, query.limit = some limit ∧ 0 < limit

/-- Queries that differ in nothing but the values they compare with and the limit. -/
structure QueriesAlike
    (policy : ListPolicy)
    (first second : Query) : Prop where
  table : first.table = second.table
  schema : first.schema = second.schema
  projection : first.projection = second.projection
  groupBy : first.groupBy = second.groupBy
  conditions :
    List.Forall₂ (ConditionsAlike policy) first.conditions second.conditions
  having :
    List.Forall₂ (ConditionsAlike policy) first.having second.having
  limited : IsLimited first ↔ IsLimited second

/-- The outline of an expanded list tells the number of its items alone. -/
theorem outline_itemPieces
    (item : Param)
    (items : List Param) :
    (itemPieces (item :: items)).map Piece.outline =
      none :: (List.replicate items.length [some ", ", none]).flatten := by
  rw [itemPieces, List.map_cons, joined_cons]
  induction items with
  | nil =>
      rfl
  | cons next rest inductionHypothesis =>
      simpa [Piece.outline, List.replicate_succ] using inductionHypothesis

/-- The number of items that a condition shows in the text one by one. -/
def shownItems
    (policy : ListPolicy)
    (condition : Condition) : Nat :=
  match policy, condition.operator, condition.value with
  | .expand, .isIn, some (.list items) => items.length
  | _, _, _ => 0

/-- The outline of a condition, from its column, its operator and its shown items. -/
def conditionOutline
    (policy : ListPolicy)
    (column : String)
    (operator : Operator)
    (count : Nat) : List (Option String) :=
  match operator with
  | .isNull =>
      [some (column ++ " IS NULL")]
  | .isNotNull =>
      [some (column ++ " IS NOT NULL")]
  | .isIn =>
      match policy, count with
      | .bindArray, _ =>
          [some (column ++ " = ANY("), none, some ")"]
      | .expand, 0 =>
          [some "1 = 0"]
      | .expand, further + 1 =>
          some (column ++ " IN (") :: none
            :: (List.replicate further [some ", ", none]).flatten
            ++ [some ")"]
  | operator =>
      [some (column ++ " " ++ (comparisonSign? operator).getD "" ++ " "), none]

/-- A written condition shows its column, its operator and the number of its items. -/
theorem outline_of_written
    {policy : ListPolicy}
    {condition : Condition}
    {pieces : List Piece}
    (written : Written policy condition pieces) :
    pieces.map Piece.outline =
      conditionOutline policy condition.column condition.operator
        (shownItems policy condition) := by
  cases written with
  | comparison compares given =>
      rename_i operator _
      cases operator <;> cases compares <;>
        rfl
  | array whole =>
      subst whole
      rfl
  | noItems expanded =>
      subst expanded
      rfl
  | items expanded =>
      subst expanded
      simp [outline_itemPieces, conditionOutline, shownItems, Piece.outline]
  | _ =>
      rfl

/-- Membership is written for a list only. -/
theorem value_of_written
    {policy : ListPolicy}
    {condition : Condition}
    {pieces : List Piece}
    (written : Written policy condition pieces)
    (membership : condition.operator = .isIn) :
    ∃ items, condition.value = some (.list items) := by
  cases written with
  | comparison compares given =>
      cases membership
      cases compares
  | isNull =>
      cases membership
  | isNotNull =>
      cases membership
  | _ =>
      exact ⟨_, rfl⟩

/-- Conditions that are alike have the same outline. -/
theorem outline_eq_of_alike
    {policy : ListPolicy}
    {first second : Condition}
    {pieces others : List Piece}
    (alike : ConditionsAlike policy first second)
    (firstWritten : Written policy first pieces)
    (secondWritten : Written policy second others) :
    pieces.map Piece.outline = others.map Piece.outline := by
  have sameCount : shownItems policy first = shownItems policy second := by
    by_cases expanded : policy = .expand ∧ first.operator = .isIn
    · obtain ⟨rfl, membership⟩ := expanded
      have otherMembership : second.operator = .isIn :=
        alike.operator.symm.trans membership
      obtain ⟨items, value⟩ := value_of_written firstWritten membership
      obtain ⟨otherItems, otherValue⟩ :=
        value_of_written secondWritten otherMembership
      have sameLength :=
        alike.listLength rfl membership items otherItems value otherValue
      simp [shownItems, membership, otherMembership, value, otherValue,
        sameLength]
    · have nothingShown :
          ∀ condition : Condition, condition.operator = first.operator →
            shownItems policy condition = 0 := by
        intro condition sameOperator
        unfold shownItems
        split
        · next operator _ =>
            exact (expanded ⟨rfl, sameOperator.symm.trans operator⟩).elim
        · rfl
      rw [nothingShown first rfl, nothingShown second alike.operator.symm]
  rw [outline_of_written firstWritten, outline_of_written secondWritten,
    alike.column, alike.operator, sameCount]

/-- Lists of conditions that are alike have parts of the same outlines. -/
theorem outlines_eq_of_alike
    {policy : ListPolicy}
    {first second : List Condition}
    {parts others : List (List Piece)}
    (alike : List.Forall₂ (ConditionsAlike policy) first second)
    (firstWritten : List.Forall₂ (Written policy) first parts)
    (secondWritten : List.Forall₂ (Written policy) second others) :
    parts.map (List.map Piece.outline) =
      others.map (List.map Piece.outline) := by
  induction alike generalizing parts others with
  | nil =>
      cases firstWritten
      cases secondWritten
      rfl
  | cons headAlike _ inductionHypothesis =>
      cases firstWritten with
      | cons firstHead firstRest =>
          cases secondWritten with
          | cons secondHead secondRest =>
              rw [List.map_cons, List.map_cons,
                outline_eq_of_alike headAlike firstHead secondHead,
                inductionHypothesis firstRest secondRest]

/-- The outline of a clause follows from the outlines of its parts. -/
theorem outline_clauseOfParts
    (keyword : String)
    (parts : List (List Piece)) :
    (clauseOfParts keyword parts).map Piece.outline =
      match parts.map (List.map Piece.outline) with
      | [] => []
      | part :: rest =>
          some keyword :: part
            ++ rest.flatMap (fun next => some " AND " :: next) := by
  cases parts with
  | nil =>
      rfl
  | cons part rest =>
      rw [clauseOfParts, joined_cons]
      · simp [Piece.outline, List.map_flatMap, List.flatMap_map]
      · simp

/-- A limit leaves in the outline only that there is one. -/
theorem outline_limitPieces
    {first second : Query}
    (limited : IsLimited first ↔ IsLimited second) :
    (limitPieces first).map Piece.outline =
      (limitPieces second).map Piece.outline := by
  have counts :
      ∀ query : Query,
        query.effectiveLimit.isSome = true ↔ IsLimited query := by
    intro query
    cases limit : query.limit with
    | none =>
        simp [Query.effectiveLimit, IsLimited, limit]
    | some count =>
        by_cases positive : 0 < count <;>
          simp [Query.effectiveLimit, IsLimited, limit, Option.filter,
            positive]
  have sameCount :
      first.effectiveLimit.isSome = second.effectiveLimit.isSome := by
    rw [Bool.eq_iff_iff, counts first, counts second]
    exact limited
  unfold limitPieces
  cases firstLimit : first.effectiveLimit <;>
    cases secondLimit : second.effectiveLimit <;>
    simp_all [Piece.outline]

/-- Queries that are alike have the same outline. -/
theorem outline_piecesOfParts
    {policy : ListPolicy}
    {first second : Query}
    {conditionParts havingParts otherConditionParts otherHavingParts :
      List (List Piece)}
    (alike : QueriesAlike policy first second)
    (conditionsWritten :
      List.Forall₂ (Written policy) first.conditions conditionParts)
    (havingWritten :
      List.Forall₂ (Written policy) first.having havingParts)
    (otherConditionsWritten :
      List.Forall₂ (Written policy) second.conditions otherConditionParts)
    (otherHavingWritten :
      List.Forall₂ (Written policy) second.having otherHavingParts) :
    (piecesOfParts first conditionParts havingParts).map Piece.outline =
      (piecesOfParts second otherConditionParts otherHavingParts).map
        Piece.outline := by
  have sameConditions :=
    outlines_eq_of_alike alike.conditions
      conditionsWritten otherConditionsWritten
  have sameHaving :=
    outlines_eq_of_alike alike.having havingWritten otherHavingWritten
  have sameSelection : selection first = selection second := by
    rw [selection, selection, alike.projection]
  have sameSource : source first = source second := by
    rw [source, source, alike.schema, alike.table]
  simp only [piecesOfParts, List.map_append, List.map_cons,
    outline_clauseOfParts, sameConditions, sameHaving,
    outline_limitPieces alike.limited, sameSelection, sameSource,
    alike.groupBy]

/--
Two queries that are alike compile to one text with as many parameters; their
values, whatever they hold, differ in the parameters alone.
-/
theorem text_eq_of_alike
    (dialect : Dialect)
    {first second : Query}
    {firstStatement secondStatement : Statement}
    (alike : QueriesAlike dialect.listPolicy first second)
    (firstCompiled : dialect.compile first = .ok firstStatement)
    (secondCompiled : dialect.compile second = .ok secondStatement) :
    firstStatement.text = secondStatement.text ∧
      firstStatement.parameters.length =
        secondStatement.parameters.length := by
  obtain ⟨conditionParts, havingParts, rfl,
      conditionsWritten, havingWritten⟩ :=
    written_of_compile firstCompiled
  obtain ⟨otherConditionParts, otherHavingParts, rfl,
      otherConditionsWritten, otherHavingWritten⟩ :=
    written_of_compile secondCompiled
  have sameOutline :=
    outline_piecesOfParts alike conditionsWritten havingWritten
      otherConditionsWritten otherHavingWritten
  constructor
  · exact renderFrom_eq_of_outline dialect.placeholders 1 sameOutline
  · simp only [Statement.ofPieces, length_boundValues, sameOutline]

/-- A value full of SQL leaves the text as a harmless one does. -/
theorem text_eq_of_alike_orders :
    ∃ firstStatement secondStatement,
      Dialect.mysql.compile
          (ordersQuery "paid" [.text "north", .null] 10) =
        .ok firstStatement ∧
      Dialect.mysql.compile
          (ordersQuery "'; DROP TABLE orders; -- ? $1"
            [.text "?", .list []] 25) =
        .ok secondStatement ∧
      firstStatement.text = secondStatement.text ∧
      firstStatement.parameters.length =
        secondStatement.parameters.length := by
  have alike :
      QueriesAlike .expand
        (ordersQuery "paid" [.text "north", .null] 10)
        (ordersQuery "'; DROP TABLE orders; -- ? $1"
          [.text "?", .list []] 25) := by
    refine ⟨rfl, rfl, rfl, rfl, ?_, ?_, ?_⟩
    · refine .cons ⟨rfl, rfl, ?_⟩ (.cons ⟨rfl, rfl, ?_⟩ (.cons ⟨rfl, rfl, ?_⟩ .nil))
      · simp
      · rintro - - items others ⟨⟩ ⟨⟩
        rfl
      · simp
    · exact .cons ⟨rfl, rfl, by simp⟩ .nil
    · exact ⟨fun _ => ⟨25, rfl, by decide⟩, fun _ => ⟨10, rfl, by decide⟩⟩
  exact ⟨_, _, rfl, rfl, text_eq_of_alike .mysql alike rfl rfl⟩

end QueryAgent.Sql
