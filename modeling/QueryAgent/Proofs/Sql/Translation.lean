import QueryAgent.Proofs.Sql.Alignment

namespace QueryAgent.Sql

/-!
# One predicate in two dialects

PostgreSQL numbers its parameters and binds a list whole, MySQL marks every
parameter alike and binds a list item by item.  What the two write for a query
is related clause by clause, and condition by condition within a clause; a
query that one of them refuses is refused by the other for the same reason.
-/

/-- The number of parameters of a condition where lists are bound whole. -/
def placeCount
    (condition : Condition) : Nat :=
  if condition.operator.takesValue then 1 else 0

/-- The number of parameters of conditions one behind the other. -/
def placesIn : List Condition → Nat
  | [] =>
      0
  | condition :: conditions =>
      placeCount condition + placesIn conditions

/-- How a condition reads with a marker of its own, and how it reads with positional ones. -/
inductive Translated (marker : String) : Condition → String → String → Prop where
  | comparison
      {column sign : String}
      {operator : Operator}
      {value : Param}
      (compares : comparisonSign? operator = some sign) :
      Translated marker ⟨column, operator, some value⟩
        (column ++ " " ++ sign ++ " " ++ marker)
        (column ++ " " ++ sign ++ " ?")
  | isNull
      {column : String}
      {value : Option Param} :
      Translated marker ⟨column, .isNull, value⟩
        (column ++ " IS NULL")
        (column ++ " IS NULL")
  | isNotNull
      {column : String}
      {value : Option Param} :
      Translated marker ⟨column, .isNotNull, value⟩
        (column ++ " IS NOT NULL")
        (column ++ " IS NOT NULL")
  | noItems
      {column : String} :
      Translated marker ⟨column, .isIn, some (.list [])⟩
        (column ++ " = ANY(" ++ marker ++ ")")
        "1 = 0"
  | items
      {column : String}
      {items : List Param}
      (nonempty : items ≠ []) :
      Translated marker ⟨column, .isIn, some (.list items)⟩
        (column ++ " = ANY(" ++ marker ++ ")")
        (column ++ " IN ("
          ++ ", ".intercalate (List.replicate items.length "?") ++ ")")

/-- How conditions read one behind the other, with markers numbered from the given number. -/
inductive AllTranslated :
    Nat → List Condition → List String → List String → Prop where
  | nil
      {number : Nat} :
      AllTranslated number [] [] []
  | cons
      {number : Nat}
      {condition : Condition}
      {numbered positional : String}
      {conditions : List Condition}
      {numberedRest positionalRest : List String}
      (first :
        Translated ("$" ++ Text.decimal number) condition
          numbered positional)
      (rest :
        AllTranslated (number + placeCount condition) conditions
          numberedRest positionalRest) :
      AllTranslated number (condition :: conditions)
        (numbered :: numberedRest) (positional :: positionalRest)

/-- A query whose conditions and whose limit are written as the given texts. -/
def queryText
    (query : Query)
    (conditionTexts havingTexts : List String)
    (limitText : String) : String :=
  "SELECT " ++ selection query ++ " FROM " ++ source query
    ++ clauseInPlace " WHERE " conditionTexts
    ++ groupInPlace query.groupBy
    ++ clauseInPlace " HAVING " havingTexts
    ++ limitInPlace (fun _ => limitText) query

/-- A list gives way to its items; any other value stays. -/
def itemsOf : Param → List Param
  | .list items => items
  | value => [value]

/-- Lists are compared with by membership alone. -/
def ListsInMembershipOnly
    (query : Query) : Prop :=
  ∀ condition ∈ query.conditions ++ query.having,
    ∀ items, condition.value = some (.list items) →
      condition.operator = .isIn

/-! ## Parts rendered one by one -/

/-- The text of each part, with markers numbered on from part to part. -/
def renderParts
    (style : PlaceholderStyle)
    (number : Nat) : List (List Piece) → List String
  | [] =>
      []
  | part :: rest =>
      renderFrom style number part
        :: renderParts style (number + (boundValues part).length) rest

/-- Joined parts are rendered as their texts, joined. -/
theorem renderFrom_joined
    (style : PlaceholderStyle)
    (number : Nat)
    (between : String)
    (parts : List (List Piece)) :
    renderFrom style number (joined between parts) =
      between.intercalate (renderParts style number parts) := by
  induction parts generalizing number with
  | nil =>
      simp [joined, renderFrom, renderParts]
  | cons part rest inductionHypothesis =>
      cases rest with
      | nil =>
          simp [joined, renderParts]
      | cons next rest =>
          rw [joined, renderFrom_append, renderFrom, inductionHypothesis]
          simp [renderParts, String.append_assoc]

/-- A clause is rendered as the clause of its rendered parts. -/
theorem renderFrom_clauseOfParts
    (style : PlaceholderStyle)
    (number : Nat)
    (keyword : String)
    (parts : List (List Piece)) :
    renderFrom style number (clauseOfParts keyword parts) =
      clauseInPlace keyword (renderParts style number parts) := by
  cases parts with
  | nil =>
      rfl
  | cons part rest =>
      rw [clauseOfParts, renderFrom, renderFrom_joined]
      · rfl
      · simp

/-- A query is rendered as the text of its rendered conditions; the limit is numbered last. -/
theorem renderFrom_piecesOfParts
    (style : PlaceholderStyle)
    (query : Query)
    (conditionParts havingParts : List (List Piece)) :
    let conditionCount := (conditionParts.flatMap boundValues).length
    let havingCount := (havingParts.flatMap boundValues).length
    renderFrom style 1 (piecesOfParts query conditionParts havingParts) =
      queryText query
        (renderParts style 1 conditionParts)
        (renderParts style (1 + conditionCount) havingParts)
        (style.marker (1 + conditionCount + havingCount)) := by
  have grouped :
      ∀ number,
        renderFrom style number (groupPieces query.groupBy) =
          groupInPlace query.groupBy := by
    intro number
    cases query.groupBy <;>
      simp [groupPieces, renderFrom, groupInPlace]
  have noGroupValues : boundValues (groupPieces query.groupBy) = [] := by
    cases query.groupBy <;>
      rfl
  have limited :
      ∀ number,
        renderFrom style number (limitPieces query) =
          limitInPlace (fun _ => style.marker number) query := by
    intro number
    unfold limitPieces limitInPlace
    cases query.effectiveLimit <;>
      simp [renderFrom]
  simp only [piecesOfParts, List.cons_append, renderFrom,
    renderFrom_append, renderFrom_clauseOfParts, boundValues_append,
    boundValues_clauseOfParts, List.length_append, grouped, limited,
    noGroupValues, List.length_nil, Nat.add_zero, queryText,
    String.append_assoc, Nat.add_assoc]

/-- Items that are bound one by one are marked alike, one marker each. -/
theorem renderFrom_itemPieces
    (mark : String)
    (number : Nat)
    (items : List Param) :
    renderFrom (.positional mark) number (itemPieces items) =
      ", ".intercalate (List.replicate items.length mark) := by
  have eachItem :
      ∀ number,
        renderParts (.positional mark) number
            (items.map fun item => [Piece.bound item]) =
          List.replicate items.length mark := by
    induction items with
    | nil =>
        intro number
        rfl
    | cons item rest inductionHypothesis =>
        intro number
        rw [List.map_cons, renderParts, inductionHypothesis]
        simp [renderFrom, PlaceholderStyle.marker, List.replicate_succ]
  rw [itemPieces, renderFrom_joined, eachItem]

/-! ## One condition in both dialects -/

/-- The pieces of a condition where lists are bound whole, and where they are expanded. -/
inductive WrittenTwice : Condition → List Piece → List Piece → Prop where
  | comparison
      {column sign : String}
      {operator : Operator}
      {value : Param}
      (compares : comparisonSign? operator = some sign) :
      WrittenTwice ⟨column, operator, some value⟩
        [.text (column ++ " " ++ sign ++ " "), .bound value]
        [.text (column ++ " " ++ sign ++ " "), .bound value]
  | isNull
      {column : String}
      {value : Option Param} :
      WrittenTwice ⟨column, .isNull, value⟩
        [.text (column ++ " IS NULL")]
        [.text (column ++ " IS NULL")]
  | isNotNull
      {column : String}
      {value : Option Param} :
      WrittenTwice ⟨column, .isNotNull, value⟩
        [.text (column ++ " IS NOT NULL")]
        [.text (column ++ " IS NOT NULL")]
  | noItems
      {column : String} :
      WrittenTwice ⟨column, .isIn, some (.list [])⟩
        [.text (column ++ " = ANY("), .bound (.list []), .text ")"]
        [.text "1 = 0"]
  | items
      {column : String}
      {items : List Param}
      (nonempty : items ≠ []) :
      WrittenTwice ⟨column, .isIn, some (.list items)⟩
        [.text (column ++ " = ANY("), .bound (.list items), .text ")"]
        (.text (column ++ " IN (") :: itemPieces items ++ [.text ")"])

/-- What is written under the two policies for one condition is written by one of five rules. -/
theorem writtenTwice_of_written
    {condition : Condition}
    {whole expanded : List Piece}
    (wholeWritten : Written .bindArray condition whole)
    (expandedWritten : Written .expand condition expanded) :
    WrittenTwice condition whole expanded := by
  -- The policy decides how membership is written and nothing else, so two rules
  -- for one condition differ there alone.
  cases wholeWritten with
  | comparison compares given =>
      cases expandedWritten with
      | comparison sameCompares _ =>
          rw [compares] at sameCompares
          cases sameCompares
          exact .comparison compares
      | _ =>
          cases compares
  | isNull =>
      cases expandedWritten with
      | comparison compares _ =>
          cases compares
      | isNull =>
          exact .isNull
  | isNotNull =>
      cases expandedWritten with
      | comparison compares _ =>
          cases compares
      | isNotNull =>
          exact .isNotNull
  | array _ =>
      cases expandedWritten with
      | comparison compares _ =>
          cases compares
      | array impossible =>
          cases impossible
      | noItems _ =>
          exact .noItems
      | items _ =>
          exact .items (List.cons_ne_nil _ _)
  | noItems impossible =>
      cases impossible
  | items impossible =>
      cases impossible

/-- The two texts of one condition say the same. -/
theorem translated_of_writtenTwice
    (style : PlaceholderStyle)
    {condition : Condition}
    {whole expanded : List Piece}
    (written : WrittenTwice condition whole expanded)
    (number position : Nat) :
    Translated (style.marker number) condition
      (renderFrom style number whole)
      (renderFrom (.positional "?") position expanded) := by
  have positionalMarker :
      (PlaceholderStyle.positional "?").marker position = "?" :=
    rfl
  cases written with
  | comparison compares =>
      simpa [renderFrom, positionalMarker, String.append_assoc]
        using Translated.comparison compares
  | isNull =>
      simpa [renderFrom] using Translated.isNull
  | isNotNull =>
      simpa [renderFrom] using Translated.isNotNull
  | noItems =>
      simpa [renderFrom, String.append_assoc] using Translated.noItems
  | items nonempty =>
      simpa [renderFrom, renderFrom_append, renderFrom_itemPieces,
        String.append_assoc] using Translated.items nonempty

/-- Where lists are bound whole, a condition binds as much as its operator takes. -/
theorem length_boundValues_of_writtenTwice
    {condition : Condition}
    {whole expanded : List Piece}
    (written : WrittenTwice condition whole expanded) :
    (boundValues whole).length = placeCount condition := by
  cases written with
  | comparison compares =>
      rename_i operator _
      cases operator <;> cases compares <;>
        rfl
  | _ =>
      rfl

/-- What is bound item by item are the items of what is bound whole. -/
theorem boundValues_of_writtenTwice
    {condition : Condition}
    (membershipOnly :
      ∀ items, condition.value = some (.list items) →
        condition.operator = .isIn)
    {whole expanded : List Piece}
    (written : WrittenTwice condition whole expanded) :
    boundValues expanded = (boundValues whole).flatMap itemsOf := by
  cases written with
  | comparison compares =>
      rename_i value
      cases value with
      | list items =>
          -- No comparison is written with a list, for only membership has one.
          have membership := membershipOnly items rfl
          cases membership
          cases compares
      | _ =>
          rfl
  | items nonempty =>
      simp [boundValues, itemsOf]
  | _ =>
      rfl

/-! ## Clauses and queries in both dialects -/

/-- Conditions that both policies write. -/
inductive AllWrittenTwice :
    List Condition → List (List Piece) → List (List Piece) → Prop where
  | nil :
      AllWrittenTwice [] [] []
  | cons
      {condition : Condition}
      {whole expanded : List Piece}
      {conditions : List Condition}
      {wholeRest expandedRest : List (List Piece)}
      (first : WrittenTwice condition whole expanded)
      (rest : AllWrittenTwice conditions wholeRest expandedRest) :
      AllWrittenTwice (condition :: conditions)
        (whole :: wholeRest) (expanded :: expandedRest)

/-- What is written under the two policies for conditions is written by the five rules. -/
theorem allWrittenTwice_of_written
    {conditions : List Condition}
    {wholeParts expandedParts : List (List Piece)}
    (wholeWritten :
      List.Forall₂ (Written .bindArray) conditions wholeParts)
    (expandedWritten :
      List.Forall₂ (Written .expand) conditions expandedParts) :
    AllWrittenTwice conditions wholeParts expandedParts := by
  induction wholeWritten generalizing expandedParts with
  | nil =>
      cases expandedWritten
      exact .nil
  | cons wholeHead _ inductionHypothesis =>
      cases expandedWritten with
      | cons expandedHead expandedRest =>
          exact
            .cons (writtenTwice_of_written wholeHead expandedHead)
              (inductionHypothesis expandedRest)

/-- The conditions of a clause are translated one by one. -/
theorem allTranslated_of_written
    {conditions : List Condition}
    {wholeParts expandedParts : List (List Piece)}
    (written : AllWrittenTwice conditions wholeParts expandedParts)
    (number position : Nat) :
    AllTranslated number conditions
      (renderParts (.numbered "$") number wholeParts)
      (renderParts (.positional "?") position expandedParts) := by
  induction written generalizing number position with
  | nil =>
      exact .nil
  | cons first _ inductionHypothesis =>
      rw [renderParts, renderParts,
        length_boundValues_of_writtenTwice first]
      exact
        .cons
          (translated_of_writtenTwice (.numbered "$") first number position)
          (inductionHypothesis _ _)

/-- Where a clause binds lists whole, it binds as much as its operators take. -/
theorem length_flatMap_boundValues_of_written
    {conditions : List Condition}
    {wholeParts expandedParts : List (List Piece)}
    (written : AllWrittenTwice conditions wholeParts expandedParts) :
    (wholeParts.flatMap boundValues).length = placesIn conditions := by
  induction written with
  | nil =>
      rfl
  | cons first _ inductionHypothesis =>
      rw [List.flatMap_cons, List.length_append, inductionHypothesis,
        length_boundValues_of_writtenTwice first, placesIn]

/-- A clause that expands its lists binds the items of what it would bind whole. -/
theorem flatMap_boundValues_of_written
    {conditions : List Condition}
    (membershipOnly :
      ∀ condition ∈ conditions,
        ∀ items, condition.value = some (.list items) →
          condition.operator = .isIn)
    {wholeParts expandedParts : List (List Piece)}
    (written : AllWrittenTwice conditions wholeParts expandedParts) :
    expandedParts.flatMap boundValues =
      (wholeParts.flatMap boundValues).flatMap itemsOf := by
  induction written with
  | nil =>
      rfl
  | cons first _ inductionHypothesis =>
      rw [List.forall_mem_cons] at membershipOnly
      rw [List.flatMap_cons, List.flatMap_cons, List.flatMap_append,
        boundValues_of_writtenTwice membershipOnly.1 first,
        inductionHypothesis membershipOnly.2]

theorem limitValues_flatMap_itemsOf
    (query : Query) :
    (limitValues query).flatMap itemsOf = limitValues query := by
  unfold limitValues
  cases query.effectiveLimit <;>
    rfl

/--
Both dialects refuse a query for the same fault, the first one it has, or both
compile it.  What they then write agrees clause by clause, and the items of the
lists that one binds are what the other binds in their place.
-/
theorem dialects_compile_alike
    (query : Query) :
    match queryFault? query with
    | some fault =>
        Dialect.postgres.statement query = .error fault.toAgentError ∧
          Dialect.mysql.statement query = .error fault.toAgentError
    | none =>
        ∃ numbered positional,
          Dialect.postgres.statement query = .ok numbered ∧
          Dialect.mysql.statement query = .ok positional ∧
          (ListsInMembershipOnly query →
            positional.parameters = numbered.parameters.flatMap itemsOf) ∧
          ∃ numberedConditions positionalConditions
              numberedHaving positionalHaving,
            AllTranslated 1 query.conditions
              numberedConditions positionalConditions ∧
            AllTranslated (1 + placesIn query.conditions)
              query.having numberedHaving positionalHaving ∧
            numbered.text =
              queryText query numberedConditions numberedHaving
                ("$" ++ Text.decimal numbered.parameters.length) ∧
            positional.text =
              queryText query positionalConditions positionalHaving "?" := by
  cases found : queryFault? query with
  | some fault =>
      have refused :
          ∀ dialect : Dialect,
            dialect.statement query = .error fault.toAgentError := by
        intro dialect
        rw [Dialect.statement, compile_of_fault dialect found]
        rfl
      exact ⟨refused .postgres, refused .mysql⟩
  | none =>
      obtain ⟨wholeConditions, wholeHaving, wholeCompiled,
          wholeConditionsWritten, wholeHavingWritten⟩ :=
        compile_of_sound .postgres found
      obtain ⟨expandedConditions, expandedHaving, expandedCompiled,
          expandedConditionsWritten, expandedHavingWritten⟩ :=
        compile_of_sound .mysql found
      have conditionsTwice :=
        allWrittenTwice_of_written wholeConditionsWritten
          expandedConditionsWritten
      have havingTwice :=
        allWrittenTwice_of_written wholeHavingWritten expandedHavingWritten
      have wholeText :=
        renderFrom_piecesOfParts (.numbered "$") query
          wholeConditions wholeHaving
      have expandedText :=
        renderFrom_piecesOfParts (.positional "?") query
          expandedConditions expandedHaving
      rw [length_flatMap_boundValues_of_written conditionsTwice] at wholeText
      refine
        ⟨_, _, congrArg (Except.mapError _) wholeCompiled,
          congrArg (Except.mapError _) expandedCompiled, ?_,
          _, _, _, _,
          allTranslated_of_written conditionsTwice 1 1,
          allTranslated_of_written havingTwice _ _,
          wholeText.trans ?_, expandedText⟩
      · intro membershipOnly
        have inConditions :=
          flatMap_boundValues_of_written
            (fun condition member =>
              membershipOnly condition (List.mem_append_left _ member))
            conditionsTwice
        have inHaving :=
          flatMap_boundValues_of_written
            (fun condition member =>
              membershipOnly condition (List.mem_append_right _ member))
            havingTwice
        simp only [Statement.ofPieces, boundValues_piecesOfParts,
          inConditions, inHaving, List.flatMap_append,
          limitValues_flatMap_itemsOf]
      · -- The limit is bound last, so its number is that of all parameters.
        rw [queryText, queryText, limitInPlace, limitInPlace]
        cases counted : query.effectiveLimit with
        | none =>
            rfl
        | some limit =>
            have parameterCount :
                (boundValues
                    (piecesOfParts query wholeConditions wholeHaving)).length =
                  1 + placesIn query.conditions
                    + (wholeHaving.flatMap boundValues).length := by
              rw [boundValues_piecesOfParts, List.length_append,
                List.length_append,
                length_flatMap_boundValues_of_written conditionsTwice,
                limitValues, counted]
              simp only [Option.map_some, Option.toList_some,
                List.length_singleton]
              omega
            simp only [Statement.ofPieces, parameterCount]
            rfl

/-- An array that one dialect binds is three parameters in the other, and a limit follows. -/
theorem dialects_compile_alike_orders :
    ∃ numbered positional,
      Dialect.postgres.statement
          (ordersQuery "paid" [.text "north", .null, .text "?"] 10) =
        .ok numbered ∧
      Dialect.mysql.statement
          (ordersQuery "paid" [.text "north", .null, .text "?"] 10) =
        .ok positional ∧
      positional.parameters = numbered.parameters.flatMap itemsOf := by
  have membershipOnly :
      ListsInMembershipOnly
        (ordersQuery "paid" [.text "north", .null, .text "?"] 10) := by
    intro condition member items value
    simp only [ordersQuery, List.cons_append, List.nil_append,
      List.mem_cons, List.not_mem_nil, or_false] at member
    rcases member with rfl | rfl | rfl | rfl
    · cases value
    · rfl
    · cases value
    · cases value
  obtain ⟨numbered, positional, numberedCompiled, positionalCompiled,
      sameItems, _⟩ :=
    dialects_compile_alike
      (ordersQuery "paid" [.text "north", .null, .text "?"] 10)
  exact
    ⟨numbered, positional, numberedCompiled, positionalCompiled,
      sameItems membershipOnly⟩

end QueryAgent.Sql
