import QueryAgent.Proofs.Mock.Selection
import QueryAgent.Proofs.Number.Nearest

/-!
# Conditions and absent values

A cell and a value stand to each other in one order or in none, and each of the
six comparisons accepts some of the orders.  So the comparisons agree with one
another where a cell and a value compare, and none of them holds where they do
not, not even the one that asks for a difference.
-/

namespace QueryAgent.Number.Binary64

/-- Two doubles have no order just when one of them is not a number. -/
theorem compare?_eq_none_iff
    {first second : Binary64} :
    first.compare? second = none ↔ first.isNaN = true ∨ second.isNaN = true := by
  unfold compare?
  rw [← Bool.or_eq_true]
  split
  next notNumber =>
      simp [notNumber]
  next numbers =>
      simp [numbers]

/-- The double nearest to an integer is a number. -/
theorem isNaN_ofInt
    (number : Int) :
    (ofInt number).isNaN = false :=
  isNaN_ofRatio _ _ _

end QueryAgent.Number.Binary64

namespace QueryAgent.Mock

/-! ## Comparisons that agree -/

/-- The operators that ask how a cell stands to a value. -/
def comparisons : List Operator :=
  [.equal, .notEqual, .greaterThan, .greaterOrEqual, .lessThan, .lessOrEqual]

/-- Of less, equal and greater no two hold together, and the others are made up of these. -/
structure Agree
    (holds : Operator → Prop) : Prop where
  atMostOne :
    [Operator.lessThan, .equal, .greaterThan].Pairwise
      fun first second => ¬ (holds first ∧ holds second)
  notEqual :
    holds .notEqual ↔ holds .lessThan ∨ holds .greaterThan
  greaterOrEqual :
    holds .greaterOrEqual ↔ holds .greaterThan ∨ holds .equal
  lessOrEqual :
    holds .lessOrEqual ↔ holds .lessThan ∨ holds .equal

/-- Nothing but the comparisons matters to whether operators agree. -/
theorem Agree.congr
    {holds others : Operator → Prop}
    (agree : Agree others)
    (alike : ∀ operator ∈ comparisons, (holds operator ↔ others operator)) :
    Agree holds := by
  simp only [comparisons, List.forall_mem_cons] at alike
  obtain ⟨equal, notEqual, greater, greaterOrEqual, less, lessOrEqual, -⟩ := alike
  constructor
  · simpa [equal, greater, less] using agree.atMostOne
  · rw [notEqual, less, greater]
    exact agree.notEqual
  · rw [greaterOrEqual, greater, equal]
    exact agree.greaterOrEqual
  · rw [lessOrEqual, less, equal]
    exact agree.lessOrEqual

/-- The operators agree that accept one way to stand. -/
theorem agree_acceptsOrdering
    (standing : Option Ordering) :
    Agree fun operator => acceptsOrdering operator standing = true := by
  cases standing with
  | none =>
      constructor <;>
        decide
  | some ordering =>
      cases ordering <;>
        constructor <;>
          decide

/-- Every order is accepted by a comparison, and nothing else is. -/
theorem exists_acceptsOrdering_iff
    {standing : Option Ordering} :
    (∃ operator ∈ comparisons, acceptsOrdering operator standing = true) ↔ standing ≠ none := by
  cases standing with
  | none =>
      decide
  | some ordering =>
      cases ordering <;>
        decide

/-! ## What compares -/

/-- What cells and values have to have in common in order to compare. -/
inductive Kind where
  | number
  | text
  | truth

/-- The kind of a cell, which absent ones and documents lack. -/
def kindOfCell? : Value → Option Kind
  | .integer _ => some .number
  | .float _ => some .number
  | .text _ => some .text
  | .date _ => some .text
  | .dateTime _ => some .text
  | .boolean _ => some .truth
  | .json _ => none
  | .null => none

/-- The kind of a value, which absent ones and lists lack. -/
def kindOfParam? : Param → Option Kind
  | .integer _ => some .number
  | .float _ => some .number
  | .text _ => some .text
  | .boolean _ => some .truth
  | .list _ => none
  | .null => none

/-- A cell and a value of one kind. -/
def SameKind
    (cell : Value)
    (param : Param) : Prop :=
  ∃ kind, kindOfCell? cell = some kind ∧ kindOfParam? param = some kind

/-- A cell and a value that do not compare: of different kinds, or with one that is no number. -/
inductive Apart : Value → Param → Prop where
  | kinds
      {cell : Value}
      {param : Param}
      (different : ¬ SameKind cell param) :
      Apart cell param
  | cell
      {double : Number.Binary64}
      {param : Param}
      (notNumber : double.isNaN = true) :
      Apart (.float double) param
  | param
      {cell : Value}
      {double : Number.Binary64}
      (notNumber : double.isNaN = true) :
      Apart cell (.float double)

/-- A cell and a value of different kinds have no order. -/
theorem compare?_of_not_sameKind
    {cell : Value}
    {param : Param}
    (different : ¬ SameKind cell param) :
    compare? cell param = none := by
  unfold compare?
  split
  case h_9 =>
      rfl
  all_goals
    exact absurd ⟨_, rfl, rfl⟩ different

/-- A cell and a value of one kind have an order unless one of them is a double but no number. -/
theorem SameKind.notNumber_of_unordered
    {cell : Value}
    {param : Param}
    (same : SameKind cell param)
    (unordered : compare? cell param = none) :
    (∃ double, cell = .float double ∧ double.isNaN = true)
      ∨ ∃ double, param = .float double ∧ double.isNaN = true := by
  obtain ⟨kind, ofCell, ofParam⟩ := same
  revert unordered
  -- The kinds leave the eight pairs that have an arm of their own.
  cases cell <;>
    cases ofCell <;>
      cases param <;>
        cases ofParam <;>
          simp [compare?, Number.Binary64.compare?_eq_none_iff, Number.Binary64.isNaN_ofInt]

/-- A cell and a value compare unless something sets them apart. -/
theorem compare?_eq_none_iff
    {cell : Value}
    {param : Param} :
    compare? cell param = none ↔ Apart cell param := by
  constructor
  · intro unordered
    by_cases same : SameKind cell param
    · rcases same.notNumber_of_unordered unordered with
        ⟨double, rfl, notNumber⟩ | ⟨double, rfl, notNumber⟩
      · exact .cell notNumber
      · exact .param notNumber
    · exact .kinds same
  · intro apart
    cases apart with
    | kinds different =>
        exact compare?_of_not_sameKind different
    | cell notNumber =>
        cases param <;>
          simp [compare?, Number.Binary64.compare?_eq_none_iff, notNumber]
    | param notNumber =>
        cases cell <;>
          simp [compare?, Number.Binary64.compare?_eq_none_iff, notNumber]

/-- Why no comparison with a value holds under a column of a row. -/
inductive Incomparable
    (row : Row)
    (column : String)
    (param : Param) : Prop where
  | noColumn
      (missing : row.cell? column = none) :
      Incomparable row column param
  | null
      (absent : row.cell? column = some .null) :
      Incomparable row column param
  | unordered
      {cell : Value}
      (found : row.cell? column = some cell)
      (apart : Apart cell param) :
      Incomparable row column param

theorem apart_null
    (param : Param) :
    Apart .null param :=
  .kinds (by rintro ⟨_, ⟨⟩, _⟩)

theorem incomparable_iff
    {row : Row}
    {column : String}
    {param : Param} :
    Incomparable row column param ↔ compare? (cellOf row column) param = none := by
  rw [compare?_eq_none_iff, cellOf]
  constructor
  · intro incomparable
    cases incomparable with
    | noColumn missing =>
        rw [missing]
        exact apart_null param
    | null absent =>
        rw [absent]
        exact apart_null param
    | unordered found apart =>
        rw [found]
        exact apart
  · intro apart
    cases found : row.cell? column with
    | none =>
        exact .noColumn found
    | some cell =>
        rw [found] at apart
        exact .unordered found apart

/-! ## Conditions -/

/-- A row satisfies the condition that an operator makes of a column and a value. -/
def Holds
    (row : Row)
    (column : String)
    (param : Param)
    (operator : Operator) : Prop :=
  satisfies row ⟨column, operator, some param⟩ = true

section
variable {row : Row} {column : String} {param : Param}

/-- A comparison holds when it accepts how the cell stands to the value. -/
theorem holds_comparison_iff
    {operator : Operator}
    (comparison : operator ∈ comparisons) :
    Holds row column param operator ↔
      acceptsOrdering operator (compare? (cellOf row column) param) = true := by
  rw [Holds, satisfies_iff, acceptsOrdering_iff]
  constructor
  · intro meets
    cases meets with
    | compared stands accepts =>
        exact ⟨_, stands, accepts⟩
    | isNull
    | isNotNull
    | isIn
    | like =>
        simp [comparisons] at comparison
  · rintro ⟨ordering, stands, accepts⟩
    exact .compared stands accepts

theorem holds_equal_iff :
    Holds row column param .equal ↔ compare? (cellOf row column) param = some .eq := by
  rw [holds_comparison_iff (by decide)]
  cases compare? (cellOf row column) param with
  | none =>
      decide
  | some ordering =>
      cases ordering <;>
        decide

theorem not_holds_equal_null :
    ¬ Holds row column .null .equal := by
  have unordered : compare? (cellOf row column) .null = none :=
    compare?_of_not_sameKind (by rintro ⟨_, _, ⟨⟩⟩)
  rw [holds_equal_iff, unordered]
  nofun

/-- A list holds a cell when one of its items is equal to the cell. -/
theorem holds_isIn_iff
    {items : List Param} :
    Holds row column (.list items) .isIn ↔ ∃ item ∈ items, Holds row column item .equal := by
  simp only [holds_equal_iff]
  rw [Holds, satisfies_iff]
  constructor
  · intro meets
    cases meets with
    | isIn member same =>
        exact ⟨_, member, same⟩
    | compared _ accepts =>
        cases accepts
  · rintro ⟨item, member, same⟩
    exact .isIn member same

/-- Absent items of a list hold no cell. -/
theorem holds_isIn_filter_iff
    {items : List Param} :
    Holds row column (.list (items.filter (!·.isNull))) .isIn ↔
      Holds row column (.list items) .isIn := by
  simp only [holds_isIn_iff, List.mem_filter]
  refine exists_congr fun item => ⟨fun ⟨⟨member, _⟩, equal⟩ => ⟨member, equal⟩, ?_⟩
  rintro ⟨member, equal⟩
  refine ⟨⟨member, ?_⟩, equal⟩
  cases item with
  | null =>
      exact absurd equal not_holds_equal_null
  | boolean
  | integer
  | float
  | text
  | list =>
      rfl

/-- No comparison holds just where the cell and the value do not compare. -/
theorem no_comparison_iff :
    (∀ operator ∈ comparisons, ¬ Holds row column param operator) ↔
      Incomparable row column param := by
  rw [incomparable_iff, ← not_iff_not, ← ne_eq, ← exists_acceptsOrdering_iff]
  push Not
  exact exists_congr fun operator => and_congr_right holds_comparison_iff

end

/--
Under any column of a row at most one of less, equal and greater holds, and the
other comparisons are made up of these.  All six fail just where the column is
missing or its cell absent, where the cell and the value are of different kinds,
and where one of the two is a double but no number.  To be absent and not to be
absent are opposites, whatever value goes with them.  A cell is in a list just
when it is equal to an item of it, so it is in no empty list, and absent items
make no difference.
-/
theorem conditions_follow_null_logic
    (row : Row)
    (column : String) :
    (∀ param,
      Agree (Holds row column param)
        ∧ ((∀ operator ∈ comparisons, ¬ Holds row column param operator) ↔
          Incomparable row column param))
      ∧ (∀ value other,
        satisfies row ⟨column, .isNotNull, value⟩ = !satisfies row ⟨column, .isNull, other⟩)
      ∧ (∀ value,
        satisfies row ⟨column, .isNull, value⟩ = true ↔
          row.cell? column = none ∨ row.cell? column = some .null)
      ∧ (∀ items,
        Holds row column (.list items) .isIn ↔ ∃ item ∈ items, Holds row column item .equal)
      ∧ ¬ Holds row column (.list []) .isIn
      ∧ ¬ Holds row column .null .equal
      ∧ ∀ items,
        Holds row column (.list (items.filter (!·.isNull))) .isIn ↔
          Holds row column (.list items) .isIn := by
  refine
    ⟨fun param => ⟨?agree, no_comparison_iff⟩, fun _ _ => rfl, fun value => ?absent,
      fun _ => holds_isIn_iff, ?empty, not_holds_equal_null, fun _ => holds_isIn_filter_iff⟩
  case agree =>
      exact (agree_acceptsOrdering _).congr fun _ => holds_comparison_iff
  case absent =>
      rw [satisfies, isAbsent_iff]
      cases row.cell? column <;>
        simp
  case empty =>
      rw [holds_isIn_iff]
      rintro ⟨_, ⟨⟩, _⟩

/-- An absent email differs from no text, and an age of thirty is among the doubles. -/
theorem conditions_follow_null_logic_ada :
    let row := Row.ofCells [("age", .integer 30), ("email", .null)]
    let thirty : Param := .float ⟨0x403E000000000000⟩
    Incomparable row "email" (.text "x")
      ∧ ¬ Holds row "email" (.text "x") .notEqual
      ∧ ¬ Holds row "age" .null .equal
      ∧ Holds row "age" thirty .equal
      ∧ Holds row "age" (.list [.null, thirty]) .isIn := by
  intro row thirty
  have absent : row.cell? "email" = some .null := by
    simp [row, Row.cell?, Row.ofCells, findNamed?_sortEntries, findNamed?]
  have present : cellOf row "age" = .integer 30 := by
    simp [row, cellOf, Row.cell?, Row.ofCells, findNamed?_sortEntries, findNamed?]
  obtain ⟨emails, -⟩ := conditions_follow_null_logic row "email"
  obtain ⟨-, -, -, isIn, -, notNull, -⟩ := conditions_follow_null_logic row "age"
  have incomparable : Incomparable row "email" (.text "x") :=
    .null absent
  have equal : Holds row "age" thirty .equal := by
    rw [holds_equal_iff, present]
    decide +kernel
  exact
    ⟨incomparable, (emails (.text "x")).2.mpr incomparable .notEqual (by decide), notNull, equal,
      (isIn [.null, thirty]).mpr ⟨thirty, by simp, equal⟩⟩

end QueryAgent.Mock
