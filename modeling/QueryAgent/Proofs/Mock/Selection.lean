import Mathlib.Data.List.Forall2
import Mathlib.Data.List.Induction
import QueryAgent.Mock.Store
import QueryAgent.Proofs.Text.Trimming

namespace QueryAgent.Mock

/-!
# What a query selects from a table in memory

A row meets a condition by how its cell stands to the value of the condition.
The rows a query selects are told by their places in the table: those that meet
every condition while the limit leaves room behind the earlier ones that do.  A
projection names columns between commas, or asks for all of them by a star, and
a row is cut down to the columns that are named.
-/

/-! ## Conditions -/

/-- The cell of a row under a column; a column that the row lacks is absent. -/
def cellOf
    (row : Row)
    (column : String) : Value :=
  (row.cell? column).getD .null

/-- The ways in which a cell may stand to a value for a comparison to hold. -/
inductive Accepts : Operator → Ordering → Prop where
  | equal :
      Accepts .equal .eq
  | notEqual
      {ordering : Ordering}
      (apart : ordering ≠ .eq) :
      Accepts .notEqual ordering
  | greaterThan :
      Accepts .greaterThan .gt
  | greaterOrEqual
      {ordering : Ordering}
      (notLess : ordering ≠ .lt) :
      Accepts .greaterOrEqual ordering
  | lessThan :
      Accepts .lessThan .lt
  | lessOrEqual
      {ordering : Ordering}
      (notGreater : ordering ≠ .gt) :
      Accepts .lessOrEqual ordering

/-- A row meets a condition by the cell under its column. -/
inductive Meets (row : Row) : Condition → Prop where
  | isNull
      {column : String}
      {value : Option Param}
      (absent : cellOf row column = .null) :
      Meets row ⟨column, .isNull, value⟩
  | isNotNull
      {column : String}
      {value : Option Param}
      (present : cellOf row column ≠ .null) :
      Meets row ⟨column, .isNotNull, value⟩
  | isIn
      {column : String}
      {items : List Param}
      {item : Param}
      (member : item ∈ items)
      (same : compare? (cellOf row column) item = some .eq) :
      Meets row ⟨column, .isIn, some (.list items)⟩
  | like
      {column content pattern : String}
      (held : cellOf row column = .text content)
      (alike : like content pattern = true) :
      Meets row ⟨column, .like, some (.text pattern)⟩
  | compared
      {column : String}
      {operator : Operator}
      {param : Param}
      {ordering : Ordering}
      (stands : compare? (cellOf row column) param = some ordering)
      (accepts : Accepts operator ordering) :
      Meets row ⟨column, operator, some param⟩

theorem isAbsent_iff
    {value : Value} :
    isAbsent value = true ↔ value = .null := by
  cases value <;>
    simp [isAbsent]

theorem acceptsOrdering_iff
    {operator : Operator}
    {ordering : Option Ordering} :
    acceptsOrdering operator ordering = true ↔
      ∃ known, ordering = some known ∧ Accepts operator known := by
  constructor
  · intro accepted
    unfold acceptsOrdering at accepted
    split at accepted
    case h_10 => cases accepted
    all_goals
      exact ⟨_, rfl, by constructor <;> decide⟩
  · rintro ⟨known, rfl, accepts⟩
    cases accepts with
    | equal
    | greaterThan
    | lessThan =>
        rfl
    | notEqual apart =>
        cases known with
        | eq =>
            exact absurd rfl apart
        | lt
        | gt =>
            rfl
    | greaterOrEqual notLess =>
        cases known with
        | lt =>
            exact absurd rfl notLess
        | eq
        | gt =>
            rfl
    | lessOrEqual notGreater =>
        cases known with
        | gt =>
            exact absurd rfl notGreater
        | lt
        | eq =>
            rfl

/-- A row satisfies just the conditions that it meets. -/
theorem satisfies_iff
    {row : Row}
    {condition : Condition} :
    satisfies row condition = true ↔ Meets row condition := by
  constructor
  · intro satisfied
    obtain ⟨column, operator, value⟩ := condition
    unfold satisfies at satisfied
    dsimp only at satisfied
    split at satisfied
    next =>
        exact .isNull (isAbsent_iff.mp satisfied)
    next =>
        refine .isNotNull fun absent => ?_
        rw [← cellOf, isAbsent_iff.mpr absent] at satisfied
        cases satisfied
    next items =>
        obtain ⟨item, member, same⟩ := List.any_eq_true.mp satisfied
        exact .isIn member (by simpa [cellOf] using same)
    next pattern =>
        split at satisfied
        next content held =>
            exact .like held satisfied
        next =>
            cases satisfied
    next =>
        obtain ⟨_, stands, accepts⟩ := acceptsOrdering_iff.mp satisfied
        exact .compared stands accepts
    next =>
        cases satisfied
  · intro meets
    cases meets with
    | isNull absent =>
        exact isAbsent_iff.mpr absent
    | isNotNull present =>
        rw [satisfies, Bool.not_eq_true', Bool.eq_false_iff, ne_eq, isAbsent_iff]
        exact present
    | isIn member same =>
        exact List.any_eq_true.mpr ⟨_, member, by simpa [cellOf] using same⟩
    | like held alike =>
        rw [satisfies, ← cellOf, held]
        exact alike
    | compared stands accepts =>
        have accepted := acceptsOrdering_iff.mpr ⟨_, stands, accepts⟩
        cases accepts <;>
          exact accepted

instance (row : Row) (condition : Condition) :
    Decidable (Meets row condition) :=
  decidable_of_iff _ satisfies_iff

/-- A row meets every condition of a query. -/
def MeetsAll
    (query : Query)
    (row : Row) : Prop :=
  ∀ condition ∈ query.conditions, Meets row condition

instance (query : Query) : DecidablePred (MeetsAll query) :=
  fun row => inferInstanceAs (Decidable (∀ condition ∈ query.conditions, Meets row condition))

theorem all_satisfies
    (query : Query)
    (row : Row) :
    query.conditions.all (satisfies row) = decide (MeetsAll query row) := by
  rw [Bool.eq_iff_iff, List.all_eq_true, decide_eq_true_iff]
  exact forall₂_congr fun _ _ => satisfies_iff

/-! ## Places of selected rows -/

/-- A limit leaves room behind so many rows; one that is not positive does not count. -/
def LeavesRoom
    (limit : Option Int64)
    (taken : Nat) : Prop :=
  ∀ count ∈ limit, 0 < count → (taken : Int) < count.toInt

/-- The rows that a query selects from a table, told by their places in it. -/
def Selects
    (query : Query)
    (rows selected : List Row) : Prop :=
  ∃ places : List Nat,
    places.Pairwise (· < ·)
      ∧ (∀ place,
        place ∈ places ↔
          ∃ row ∈ rows[place]?,
            MeetsAll query row
              ∧ LeavesRoom query.limit ((rows.take place).countP (MeetsAll query ·)))
      ∧ places.map (rows[·]?) = selected.map some

section
variable {test : α → Bool} {limit : Nat} {entries : List α}

/-- An entry passes a test at a place that fewer entries than a limit pass it in front of. -/
def TakenAt
    (test : α → Bool)
    (limit : Nat)
    (entries : List α)
    (place : Nat) : Prop :=
  ∃ entry ∈ entries[place]?, test entry = true ∧ (entries.take place).countP test < limit

theorem TakenAt.lt_length
    {place : Nat}
    (taken : TakenAt test limit entries place) :
    place < entries.length := by
  obtain ⟨_, found, _⟩ := taken
  exact (List.getElem?_eq_some_iff.mp found).1

/-- In a list with one entry more, the entries taken are those from before and maybe the last. -/
theorem takenAt_append_singleton
    {entry : α}
    {place : Nat} :
    TakenAt test limit (entries ++ [entry]) place ↔
      TakenAt test limit entries place
        ∨ place = entries.length ∧ test entry = true ∧ (entries.filter test).length < limit := by
  rcases Nat.lt_trichotomy place entries.length with before | same | beyond
  · rw [TakenAt, TakenAt, List.getElem?_append_left before,
      List.take_append_of_le_length (Nat.le_of_lt before)]
    simp [Nat.ne_of_lt before]
  · subst same
    simp [TakenAt, List.countP_eq_length_filter]
  · have notBefore : ¬ TakenAt test limit entries place :=
      fun taken => Nat.lt_asymm beyond taken.lt_length
    have notInside : ¬ TakenAt test limit (entries ++ [entry]) place := by
      intro taken
      have inside := taken.lt_length
      rw [List.length_append, List.length_singleton] at inside
      omega
    simp [notBefore, notInside, Nat.ne_of_gt beyond]

/-- An entry more is among the first that pass a test when it passes and there is room for it. -/
theorem take_filter_append_singleton
    (entry : α) :
    ((entries ++ [entry]).filter test).take limit =
      (entries.filter test).take limit
        ++ (if test entry = true ∧ (entries.filter test).length < limit then [entry] else []) := by
  rw [List.filter_append, List.take_append]
  congr 1
  cases passes : test entry with
  | false =>
      simp [passes]
  | true =>
      by_cases room : (entries.filter test).length < limit
      · have roomForOne : [entry].length ≤ limit - (entries.filter test).length := by
          rw [List.length_singleton]
          omega
        simp [passes, room, List.take_of_length_le roomForOne]
      · simp [passes, room, Nat.sub_eq_zero_of_le (Nat.le_of_not_lt room)]

/-- The first entries of a list that pass a test stand where fewer did before them. -/
theorem exists_places_take_filter
    (test : α → Bool)
    (limit : Nat)
    (entries : List α) :
    ∃ places : List Nat,
      places.Pairwise (· < ·)
        ∧ (∀ place, place ∈ places ↔ TakenAt test limit entries place)
        ∧ places.map (entries[·]?) = ((entries.filter test).take limit).map some := by
  induction entries using List.reverseRecOn with
  | nil =>
      exact ⟨[], .nil, by simp [TakenAt], by simp⟩
  | append_singleton entries entry inductionHypothesis =>
      obtain ⟨places, increasing, member, entriesAt⟩ := inductionHypothesis
      have inside : ∀ place ∈ places, place < entries.length :=
        fun place isPlace => ((member place).mp isPlace).lt_length
      have entriesBefore :
          places.map ((entries ++ [entry])[·]?) = ((entries.filter test).take limit).map some := by
        rw [← entriesAt]
        exact List.map_congr_left fun place isPlace =>
          List.getElem?_append_left (inside place isPlace)
      by_cases taken : test entry = true ∧ (entries.filter test).length < limit
      · refine ⟨places ++ [entries.length], ?_, fun place => ?_, ?_⟩
        · rw [List.pairwise_append]
          exact ⟨increasing, List.pairwise_singleton _ _, by simpa using inside⟩
        · rw [takenAt_append_singleton, ← member]
          simp [taken]
        · rw [List.map_append, entriesBefore, take_filter_append_singleton, if_pos taken]
          simp
      · refine ⟨places, increasing, fun place => ?_, ?_⟩
        · rw [takenAt_append_singleton, ← member]
          simp [taken]
        · rw [entriesBefore, take_filter_append_singleton, if_neg taken, List.append_nil]

end

/-- A limit that counts leaves room behind fewer rows. -/
theorem leavesRoom_iff
    {query : Query}
    {limit : Int64}
    (counts : query.effectiveLimit = some limit)
    (taken : Nat) :
    LeavesRoom query.limit taken ↔ taken < limit.toInt.toNat := by
  obtain ⟨given, positive⟩ := Option.filter_eq_some_iff.mp counts
  have positive : 0 < limit := by
    simpa using positive
  simp only [LeavesRoom, given, Option.mem_some_iff, forall_eq', positive, forall_const]
  omega

/-- A limit that does not count leaves room always. -/
theorem leavesRoom_of_none
    {query : Query}
    (absent : query.effectiveLimit = none)
    (taken : Nat) :
    LeavesRoom query.limit taken := by
  intro count given positive
  have refused := Option.filter_eq_none_iff.mp absent count given
  simp [positive] at refused

/-- The rows that are selected are those that the query tells. -/
theorem selects_selectRows
    (query : Query)
    (rows : List Row) :
    Selects query rows (selectRows query rows) := by
  have tested :
      (fun row => query.conditions.all (satisfies row)) =
        fun row => decide (MeetsAll query row) :=
    funext (all_satisfies query)
  rw [selectRows, tested]
  cases limit : query.effectiveLimit with
  | none =>
      obtain ⟨places, increasing, member, rowsAt⟩ :=
        exists_places_take_filter (fun row => decide (MeetsAll query row)) rows.length rows
      refine ⟨places, increasing, fun place => ?_, ?_⟩
      · rw [member]
        refine exists_congr fun row => and_congr_right fun found => ?_
        have inside : place < rows.length := (List.getElem?_eq_some_iff.mp found).1
        have room :
            (rows.take place).countP (fun row => decide (MeetsAll query row)) < rows.length :=
          Nat.lt_of_le_of_lt (List.countP_le_length.trans (List.length_take_le _ _)) inside
        simp [leavesRoom_of_none limit, room]
      · rw [rowsAt, List.take_of_length_le (List.length_filter_le _ _), limitRows]
  | some count =>
      obtain ⟨places, increasing, member, rowsAt⟩ :=
        exists_places_take_filter (fun row => decide (MeetsAll query row)) count.toInt.toNat rows
      refine ⟨places, increasing, fun place => ?_, rowsAt⟩
      simp only [member, TakenAt, leavesRoom_iff limit, decide_eq_true_eq]

/-! ## Projections -/

/-- A part of a projection names a column, with blanks around the name. -/
structure NamesColumn
    (part : List Char)
    (column : String) : Prop where
  noComma : ',' ∉ part
  trimmed : Text.IsTrimmed column.toList
  around : Text.BlanksAround column.toList part

/-- The columns that a projection asks for, none when it asks for all of them. -/
inductive AsksFor : Option String → Option (List String) → Prop where
  | unsaid :
      AsksFor none none
  | star
      {text : String}
      (star : Text.BlanksAround ['*'] text.toList) :
      AsksFor (some text) none
  | named
      {text : String}
      {parts : List (List Char)}
      {columns : List String}
      (noStar : ¬ Text.BlanksAround ['*'] text.toList)
      (joined : text.toList = [','].intercalate parts)
      (nonempty : parts ≠ [])
      (names : List.Forall₂ NamesColumn parts columns) :
      AsksFor (some text) (some columns)

theorem splitAtCommas_eq
    (characters : List Char) :
    splitAtCommas characters = characters.splitOn ',' := by
  induction characters with
  | nil =>
      simp [splitAtCommas]
  | cons character characters inductionHypothesis =>
      rw [splitAtCommas, inductionHypothesis]
      split
      next comma =>
          rw [comma, Text.splitOn_cons_self]
      next other =>
          rw [Text.splitOn_cons_of_ne other]
          cases parts : characters.splitOn ',' with
          | nil =>
              exact absurd parts (List.splitOn_ne_nil _ _)
          | cons part parts =>
              rfl

/-- Columns are the trimmed parts of the text that names them. -/
theorem forall₂_namesColumn_iff
    {parts : List (List Char)}
    {columns : List String} :
    List.Forall₂ NamesColumn parts columns ↔
      (∀ part ∈ parts, ',' ∉ part)
        ∧ columns = parts.map (fun part => String.ofList (Text.trimList part)) := by
  constructor
  · intro names
    induction names with
    | nil =>
        exact ⟨nofun, rfl⟩
    | cons name _ inductionHypothesis =>
        rw [List.forall_mem_cons]
        refine ⟨⟨name.noComma, inductionHypothesis.1⟩, ?_⟩
        rw [List.map_cons, Text.trimList_eq_iff.mpr ⟨name.trimmed, name.around⟩,
          String.ofList_toList, inductionHypothesis.2]
  · rintro ⟨noCommas, rfl⟩
    rw [List.forall₂_map_right_iff, List.forall₂_same]
    intro part isPart
    refine ⟨noCommas part isPart, ?_, ?_⟩
    · rw [String.toList_ofList]
      exact Text.isTrimmed_trimList part
    · rw [String.toList_ofList]
      exact Text.blanksAround_trimList part

/-- A star with blanks around it is what trimming leaves a star of. -/
theorem trimList_eq_star_iff
    {characters : List Char} :
    Text.trimList characters = ['*'] ↔ Text.BlanksAround ['*'] characters := by
  have trimmed : Text.IsTrimmed ['*'] := by
    constructor <;> simp [Text.isBlank]
  rw [Text.trimList_eq_iff]
  exact and_iff_right trimmed

/-- Blanks around a projection do not belong to its columns. -/
theorem map_trimList_splitAtCommas
    (text : List Char) :
    (splitAtCommas (Text.trimList text)).map (fun part => String.ofList (Text.trimList part)) =
      (text.splitOn ',').map (fun part => String.ofList (Text.trimList part)) := by
  have foreign : Text.isBlank ',' = false := by
    decide
  have trimmedParts := Text.map_trimList_splitOn_trimList foreign text
  have columns := congrArg (List.map String.ofList) trimmedParts
  rw [splitAtCommas_eq]
  simpa only [List.map_map, Function.comp_def] using columns

/-- The columns of a query are those that its projection asks for. -/
theorem asksFor_iff
    {query : Query}
    {asked : Option (List String)} :
    AsksFor query.projection asked ↔ projectedColumns? query = asked := by
  unfold projectedColumns?
  generalize query.projection = projection
  constructor
  · intro asks
    cases asks with
    | unsaid =>
        rfl
    | star star =>
        simp only [trimList_eq_star_iff.mpr star, ↓reduceIte]
    | named noStar joined nonempty names =>
        obtain ⟨noCommas, rfl⟩ := forall₂_namesColumn_iff.mp names
        have parts := List.splitOn_intercalate ',' noCommas nonempty
        rw [← joined] at parts
        simp only [mt trimList_eq_star_iff.mp noStar, ↓reduceIte, map_trimList_splitAtCommas, parts]
  · rintro rfl
    cases projection with
    | none =>
        exact .unsaid
    | some text =>
        dsimp only
        split
        next star =>
            exact .star (trimList_eq_star_iff.mp star)
        next noStar =>
            rw [map_trimList_splitAtCommas]
            refine .named (mt trimList_eq_star_iff.mpr noStar) (List.intercalate_splitOn ',').symm
              (List.splitOn_ne_nil _ _) (forall₂_namesColumn_iff.mpr ⟨?_, rfl⟩)
            exact fun _ => Text.not_mem_of_mem_splitOn

/-! ## Rows cut down -/

/-- A row cut down to the columns asked for: these and no others, each with its cell. -/
def CutDown
    (asked : Option (List String))
    (row cut : Row) : Prop :=
  match asked with
  | none =>
      cut = row
  | some columns =>
      ∀ name, cut.cell? name = if name ∈ columns then row.cell? name else none

/-- Every row has the columns asked for. -/
def Present
    (asked : Option (List String))
    (rows : List Row) : Prop :=
  ∀ columns ∈ asked, ∀ row ∈ rows, ∀ name ∈ columns, ∃ cell, row.cell? name = some cell

/-- Among cells of a row a name has the cell of the row, or none. -/
theorem findNamed?_of_cells
    {row : Row}
    {cells : List (String × Value)}
    (taken : ∀ cell ∈ cells, row.cell? cell.1 = some cell.2)
    (name : String) :
    findNamed? name cells = if name ∈ cells.map (·.1) then row.cell? name else none := by
  induction cells with
  | nil =>
      rfl
  | cons cell cells inductionHypothesis =>
      rw [List.forall_mem_cons] at taken
      rw [findNamed?, inductionHypothesis taken.2]
      by_cases same : name = cell.1
      · subst same
        simp [taken.1]
      · have further : name ∈ (cell :: cells).map (·.1) ↔ name ∈ cells.map (·.1) := by
          simp [same]
        rw [if_neg same, if_congr further rfl rfl]

/-- The cells of columns that a row has are taken from it. -/
theorem pickCells_of_present
    {row : Row}
    {columns : List String}
    (present : ∀ name ∈ columns, ∃ cell, row.cell? name = some cell) :
    ∃ cells,
      pickCells row columns = .ok cells
        ∧ cells.map (·.1) = columns
        ∧ ∀ cell ∈ cells, row.cell? cell.1 = some cell.2 := by
  induction columns with
  | nil =>
      exact ⟨[], rfl, rfl, nofun⟩
  | cons column columns inductionHypothesis =>
      rw [List.forall_mem_cons] at present
      obtain ⟨⟨cell, found⟩, others⟩ := present
      obtain ⟨cells, picked, names, taken⟩ := inductionHypothesis others
      refine ⟨(column, cell) :: cells, ?_, ?_, List.forall_mem_cons.mpr ⟨found, taken⟩⟩
      · rw [pickCells, found]
        dsimp only
        rw [picked]
        rfl
      · rw [List.map_cons, names]

/-- A row with the columns asked for is cut down to them. -/
theorem projectRow_of_present
    {asked : Option (List String)}
    {row : Row}
    (present : ∀ columns ∈ asked, ∀ name ∈ columns, ∃ cell, row.cell? name = some cell) :
    ∃ cut, projectRow asked row = .ok cut ∧ CutDown asked row cut := by
  cases asked with
  | none =>
      exact ⟨row, rfl, rfl⟩
  | some columns =>
      obtain ⟨cells, picked, names, taken⟩ := pickCells_of_present (present columns rfl)
      refine ⟨Row.ofCells cells, ?_, fun name => ?_⟩
      · rw [projectRow, picked]
        rfl
      · have takenBackwards : ∀ cell ∈ cells.reverse, row.cell? cell.1 = some cell.2 :=
          fun cell member => taken cell (List.mem_reverse.mp member)
        rw [Row.cell?, Row.ofCells, findNamed?_sortEntries, findNamed?_of_cells takenBackwards,
          List.map_reverse, names]
        simp

/-- Rows with the columns asked for are cut down to them one by one. -/
theorem projectRows_of_present
    {asked : Option (List String)}
    {rows : List Row}
    (present : Present asked rows) :
    ∃ cut, projectRows asked rows = .ok cut ∧ List.Forall₂ (CutDown asked) rows cut := by
  induction rows with
  | nil =>
      exact ⟨[], rfl, .nil⟩
  | cons row rows inductionHypothesis =>
      obtain ⟨first, projected, isCut⟩ :=
        projectRow_of_present fun columns given => present columns given row (by simp)
      obtain ⟨others, projectedOthers, areCut⟩ :=
        inductionHypothesis fun columns given other member =>
          present columns given other (by simp [member])
      refine ⟨first :: others, ?_, .cons isCut areCut⟩
      rw [projectRows, projected, projectedOthers]
      rfl

/-- A row lacks a column that is asked for. -/
def Lacks
    (asked : Option (List String))
    (row : Row)
    (name : String) : Prop :=
  ∃ columns ∈ asked, name ∈ columns ∧ row.cell? name = none

/-- Of the columns that a row lacks one is told. -/
theorem pickCells_of_lacking
    {row : Row}
    {columns : List String}
    (lacking : ∃ name ∈ columns, row.cell? name = none) :
    ∃ name ∈ columns, row.cell? name = none ∧ pickCells row columns = .error name := by
  induction columns with
  | nil =>
      obtain ⟨_, isColumn, _⟩ := lacking
      cases isColumn
  | cons column columns inductionHypothesis =>
      cases found : row.cell? column with
      | none =>
          exact ⟨column, by simp, found, by rw [pickCells, found]⟩
      | some cell =>
          have lackingOther : ∃ name ∈ columns, row.cell? name = none := by
            simpa [found] using lacking
          obtain ⟨name, isColumn, absent, failed⟩ := inductionHypothesis lackingOther
          refine ⟨name, by simp [isColumn], absent, ?_⟩
          rw [pickCells, found]
          dsimp only
          rw [failed]
          rfl

/-- Of the columns that a row lacks one is told in place of the row. -/
theorem projectRow_of_lacks
    {asked : Option (List String)}
    {row : Row}
    (lacking : ∃ name, Lacks asked row name) :
    ∃ name, Lacks asked row name ∧ projectRow asked row = .error name := by
  obtain ⟨_, columns, rfl, isColumn, absent⟩ := lacking
  obtain ⟨name, isMissing, missing, failed⟩ := pickCells_of_lacking ⟨_, isColumn, absent⟩
  refine ⟨name, ⟨columns, rfl, isMissing, missing⟩, ?_⟩
  rw [projectRow, failed]
  rfl

/-- Where rows lack columns that are asked for, one of these columns is told and no row. -/
theorem projectRows_of_lacks
    {asked : Option (List String)}
    {rows : List Row}
    (lacking : ∃ row ∈ rows, ∃ name, Lacks asked row name) :
    ∃ row ∈ rows, ∃ name, Lacks asked row name ∧ projectRows asked rows = .error name := by
  induction rows with
  | nil =>
      obtain ⟨_, member, _⟩ := lacking
      cases member
  | cons row rows inductionHypothesis =>
      by_cases first : ∃ name, Lacks asked row name
      · obtain ⟨name, lacks, failed⟩ := projectRow_of_lacks first
        refine ⟨row, by simp, name, lacks, ?_⟩
        rw [projectRows, failed]
        rfl
      · have present :
            ∀ columns ∈ asked, ∀ name ∈ columns, ∃ cell, row.cell? name = some cell :=
          fun columns given name isColumn =>
            Option.ne_none_iff_exists'.mp fun absent =>
              first ⟨name, columns, given, isColumn, absent⟩
        obtain ⟨cut, projected, _⟩ := projectRow_of_present present
        have lackingOther : ∃ row ∈ rows, ∃ name, Lacks asked row name := by
          simpa [first] using lacking
        obtain ⟨other, member, name, lacks, failed⟩ := inductionHypothesis lackingOther
        refine ⟨other, by simp [member], name, lacks, ?_⟩
        rw [projectRows, projected, failed]
        rfl

/-- Nothing but a column that is asked for and that a row lacks stands in the way of the rows. -/
theorem exists_projectRows_eq_error_iff
    {asked : Option (List String)}
    {rows : List Row} :
    (∃ name, projectRows asked rows = .error name) ↔
      ∃ row ∈ rows, ∃ name, Lacks asked row name := by
  constructor
  · rintro ⟨name, failed⟩
    by_contra complete
    have present : Present asked rows :=
      fun columns given row member name isColumn =>
        Option.ne_none_iff_exists'.mp fun absent =>
          complete ⟨row, member, name, columns, given, isColumn, absent⟩
    obtain ⟨cut, projected, _⟩ := projectRows_of_present present
    cases failed.symm.trans projected
  · intro lacking
    obtain ⟨_, _, name, _, failed⟩ := projectRows_of_lacks lacking
    exact ⟨name, failed⟩

end QueryAgent.Mock
