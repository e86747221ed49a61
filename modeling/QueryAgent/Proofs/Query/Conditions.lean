import QueryAgent.Query.Validation
import Mathlib.Data.List.TakeWhile

namespace QueryAgent

/-!
# Which descriptions are conditions

The rules for a described condition, apart from the order in which they are
checked: what an accepted one looks like, which condition it denotes, and which
rule a refused one breaks first.  Checking it decides between the two, and so
does checking a list of them, where the first refused entry is the one reported.
-/

namespace Text

/-- Trimming leaves nothing of a text exactly when it holds nothing but blanks. -/
theorem isEmpty_trim
    (text : String) :
    (trim text).isEmpty = allBlank text := by
  have emptied :
      trimList text.toList = [] ↔
        ∀ character ∈ text.toList, isBlank character = true := by
    rw [trimList, trimEndList, List.reverse_eq_nil_iff,
      List.dropWhile_eq_nil_iff, trimStartList]
    constructor
    · intro restBlank character member
      rw [← List.takeWhile_append_dropWhile (p := isBlank)
        (l := text.toList), List.mem_append] at member
      rcases member with inFront | inRest
      · exact List.mem_takeWhile_imp inFront
      · exact restBlank character (List.mem_reverse.mpr inRest)
    · intro blank character member
      have inRest := List.mem_reverse.mp member
      exact blank character ((List.dropWhile_sublist _).mem inRest)
  rw [Bool.eq_iff_iff, String.isEmpty_iff, trim, String.ofList_eq_empty_iff,
    emptied, allBlank, List.all_eq_true]

end Text

/-! ## Rules for a condition -/

/-- The names of the operators that compare with a single value. -/
def comparisonNames : List String :=
  ["equal", "not_equal", "greater_than", "greater_or_equal",
    "greater_than_or_equal", "less_than", "less_or_equal",
    "less_than_or_equal", "like"]

/-- The name of the operator that compares with a list. -/
def membershipName : String := "in"

/-- The operator that each known name stands for. -/
def operatorTable : List (String × Operator) :=
  [("equal", .equal), ("not_equal", .notEqual), ("greater_than", .greaterThan),
    ("greater_or_equal", .greaterOrEqual), ("greater_than_or_equal", .greaterOrEqual),
    ("less_than", .lessThan), ("less_or_equal", .lessOrEqual),
    ("less_than_or_equal", .lessOrEqual), ("like", .like), ("in", .isIn),
    ("is_null", .isNull), ("is_not_null", .isNotNull)]

/-- The operator that a name stands for; a name that is not known is kept. -/
def operatorNamed
    (name : String) : Operator :=
  (operatorTable.lookup name).getD (.unsupported name)

/-- The shorter one of the two spellings that some operators have. -/
def shortSpelling
    (name : String) : String :=
  if name = "greater_than_or_equal" then
    "greater_or_equal"
  else if name = "less_than_or_equal" then
    "less_or_equal"
  else
    name

/-- A condition with a column, with an operator, and with the value this operator takes. -/
structure ConditionAccepted
    (condition : PayloadCondition) : Prop where
  column : Text.allBlank condition.column = false
  operator :
    ∃ name, condition.operator = some name ∧ Text.allBlank name = false
  scalar :
    ∀ name ∈ condition.operator, Text.trim name ∈ comparisonNames →
      ∃ value, condition.value = some value ∧
        value.isNull = false ∧ value.isList = false
  list :
    ∀ name ∈ condition.operator, Text.trim name = membershipName →
      ∃ items, condition.value = some (.list items) ∧
        ∀ item ∈ items, item.isList = false

/-- The operator that a condition names. -/
def PayloadCondition.namedOperator
    (condition : PayloadCondition) : Operator :=
  operatorNamed (Text.trim (condition.operator.getD ""))

/-- The condition that an accepted description denotes; a null value counts as none. -/
def PayloadCondition.denoted
    (condition : PayloadCondition) : Condition where
  column := condition.column
  operator := condition.namedOperator
  value := condition.value.filter (fun value => !value.isNull)

/-- The first rule that a condition breaks, in the words in which it is reported. -/
inductive ConditionBreaks (condition : PayloadCondition) : String → Prop where
  | column
      (blank : Text.allBlank condition.column = true) :
      ConditionBreaks condition "column is required"
  | operator
      (named : Text.allBlank condition.column = false)
      (untyped : ∀ name ∈ condition.operator, Text.allBlank name = true) :
      ConditionBreaks condition "type is required"
  | value
      {name : String}
      (named : Text.allBlank condition.column = false)
      (typed : condition.operator = some name)
      (compares :
        Text.trim name ∈ comparisonNames ∨ Text.trim name = membershipName)
      (absent : ∀ value ∈ condition.value, value.isNull = true) :
      ConditionBreaks condition
        ("value is required for '" ++ shortSpelling (Text.trim name) ++ "'")
  | nestedList
      {name : String}
      {items : List Param}
      (named : Text.allBlank condition.column = false)
      (typed : condition.operator = some name)
      (compares : Text.trim name = membershipName)
      (given : condition.value = some (.list items))
      (nested : ∃ item ∈ items, item.isList = true) :
      ConditionBreaks condition "'in' values must be scalars"
  | noList
      {name : String}
      {value : Param}
      (named : Text.allBlank condition.column = false)
      (typed : condition.operator = some name)
      (compares : Text.trim name = membershipName)
      (given : condition.value = some value)
      (notNull : value.isNull = false)
      (notList : value.isList = false) :
      ConditionBreaks condition "'in' requires an array value"
  | noScalar
      {name : String}
      {items : List Param}
      (named : Text.allBlank condition.column = false)
      (typed : condition.operator = some name)
      (compares : Text.trim name ∈ comparisonNames)
      (given : condition.value = some (.list items)) :
      ConditionBreaks condition
        ("'" ++ shortSpelling (Text.trim name) ++ "' requires a scalar value")

/-- A name is resolved to the operator that it stands for. -/
theorem ofName_eq_operatorNamed
    (name : String) :
    Operator.ofName name = operatorNamed name := by
  unfold Operator.ofName
  split
  case h_13 =>
      have unknown : operatorTable.lookup name = none := by
        rw [List.lookup_eq_none_iff]
        simp_all [operatorTable]
      rw [operatorNamed, unknown, Option.getD_none]
  all_goals
    rfl

/-- An operator is called by the name that it was resolved from, in its shorter spelling. -/
theorem name_operatorNamed
    (name : String) :
    (operatorNamed name).name = shortSpelling name := by
  rw [← ofName_eq_operatorNamed]
  unfold Operator.ofName
  split
  case h_13 =>
      simp_all [Operator.name, shortSpelling]
  all_goals
    rfl

/-- A comparison takes a value, and is not membership. -/
theorem takes_of_comparison
    {name : String}
    (comparison : name ∈ comparisonNames) :
    (Operator.ofName name).takesValue = true ∧
      Operator.ofName name ≠ .isIn := by
  simp only [comparisonNames, List.mem_cons, List.not_mem_nil,
    or_false] at comparison
  rcases comparison with rfl | rfl | rfl | rfl | rfl | rfl | rfl | rfl | rfl <;>
    decide

theorem ofName_membershipName :
    Operator.ofName membershipName = .isIn :=
  rfl

/-- Any other operator takes no value. -/
theorem takesValue_ofName_eq_false
    {name : String}
    (noComparison : name ∉ comparisonNames)
    (noMembership : name ≠ membershipName) :
    (Operator.ofName name).takesValue = false := by
  unfold Operator.ofName
  split <;>
    simp_all [comparisonNames, membershipName, Operator.takesValue]

/-- The name of an operator that takes a value is not blank. -/
theorem allBlank_of_takes
    {name : String}
    (compares :
      Text.trim name ∈ comparisonNames ∨ Text.trim name = membershipName) :
    Text.allBlank name = false := by
  rw [← Text.isEmpty_trim]
  rcases compares with comparison | membership
  · simp only [comparisonNames, List.mem_cons, List.not_mem_nil,
      or_false] at comparison
    rcases comparison with same | same | same | same | same | same
        | same | same | same <;>
      rw [same] <;>
      rfl
  · rw [membership]
    rfl

/-- A single value is what a comparison takes. -/
theorem valueFault?_comparison
    {operator : Operator}
    (takes : operator.takesValue = true)
    (comparison : operator ≠ .isIn)
    (value : Param) :
    valueFault? operator (some value) =
      if value.isList then some (.scalarRequired operator) else none := by
  cases operator <;> cases value <;>
    simp_all [valueFault?, Operator.takesValue, Param.isList]

/-- A list of single values is what membership takes. -/
theorem valueFault?_membership
    (value : Param) :
    valueFault? .isIn (some value) =
      match value with
      | .list items =>
          if items.any Param.isList then some .scalarItemsRequired else none
      | _ => some .listRequired := by
  cases value <;>
    rfl

/-- A condition with a column and an operator is decided by its value. -/
theorem validate_of_typed
    {condition : PayloadCondition}
    {name : String}
    (named : Text.allBlank condition.column = false)
    (typed : condition.operator = some name)
    (nonblank : Text.allBlank name = false) :
    condition.validate =
      match valueFault? condition.namedOperator condition.denoted.value with
      | some fault => .error fault
      | none => .ok condition.denoted := by
  have operator :
      condition.operator? = some condition.namedOperator := by
    simp [PayloadCondition.operator?, PayloadCondition.namedOperator, typed,
      Text.isEmpty_trim, nonblank, ofName_eq_operatorNamed]
  rw [PayloadCondition.validate, named, operator]
  rfl

theorem namedOperator_of_typed
    {condition : PayloadCondition}
    {name : String}
    (typed : condition.operator = some name) :
    condition.namedOperator = .ofName (Text.trim name) := by
  rw [PayloadCondition.namedOperator, typed, ofName_eq_operatorNamed]
  rfl

theorem name_namedOperator
    {condition : PayloadCondition}
    {name : String}
    (typed : condition.operator = some name) :
    condition.namedOperator.name = shortSpelling (Text.trim name) := by
  rw [PayloadCondition.namedOperator, typed]
  exact name_operatorNamed _

theorem denoted_value_of_given
    {condition : PayloadCondition}
    {value : Param}
    (given : condition.value = some value)
    (notNull : value.isNull = false) :
    condition.denoted.value = some value := by
  simp [PayloadCondition.denoted, given, notNull]

/-- An accepted condition passes its checks, and denotes what it says. -/
theorem validate_of_accepted
    {condition : PayloadCondition}
    (accepted : ConditionAccepted condition) :
    condition.validate = .ok condition.denoted := by
  obtain ⟨name, typed, nonblank⟩ := accepted.operator
  rw [validate_of_typed accepted.column typed nonblank,
    namedOperator_of_typed typed]
  by_cases comparison : Text.trim name ∈ comparisonNames
  · obtain ⟨value, given, notNull, notList⟩ :=
      accepted.scalar name typed comparison
    obtain ⟨takes, noMembership⟩ := takes_of_comparison comparison
    rw [denoted_value_of_given given notNull,
      valueFault?_comparison takes noMembership, notList]
    rfl
  · by_cases membership : Text.trim name = membershipName
    · obtain ⟨items, given, scalars⟩ :=
        accepted.list name typed membership
      have noneNested : items.any Param.isList = false := by
        simpa using scalars
      rw [denoted_value_of_given given rfl, membership,
        ofName_membershipName, valueFault?_membership]
      simp [noneNested]
    · simp [valueFault?,
        takesValue_ofName_eq_false comparison membership]

/-- A condition that breaks a rule is refused in the words for the first one it breaks. -/
theorem validate_of_breaks
    {condition : PayloadCondition}
    {reason : String}
    (breaks : ConditionBreaks condition reason) :
    ∃ fault, condition.validate = .error fault ∧ fault.message = reason := by
  cases breaks with
  | column blank =>
      exact ⟨.columnRequired, by simp [PayloadCondition.validate, blank], rfl⟩
  | operator named untyped =>
      have noOperator : condition.operator? = none := by
        unfold PayloadCondition.operator?
        split
        · rfl
        · next name typed =>
            simp [Text.isEmpty_trim, untyped name typed]
      exact
        ⟨.typeRequired,
          by simp [PayloadCondition.validate, named, noOperator], rfl⟩
  | value named typed compares absent =>
      have nothingKept : condition.denoted.value = none := by
        simpa [PayloadCondition.denoted, Option.filter_eq_none_iff]
          using absent
      have takes : condition.namedOperator.takesValue = true := by
        rw [namedOperator_of_typed typed]
        rcases compares with comparison | membership
        · exact (takes_of_comparison comparison).1
        · rw [membership]
          rfl
      rw [← name_namedOperator typed]
      refine ⟨.valueRequired condition.namedOperator, ?_, rfl⟩
      rw [validate_of_typed named typed (allBlank_of_takes compares),
        nothingKept]
      simp [valueFault?, takes]
  | nestedList named typed membership given nested =>
      refine ⟨.scalarItemsRequired, ?_, rfl⟩
      rw [validate_of_typed named typed
          (allBlank_of_takes (.inr membership)),
        denoted_value_of_given given rfl, namedOperator_of_typed typed,
        membership, ofName_membershipName, valueFault?_membership]
      simp [nested]
  | noList named typed membership given notNull notList =>
      rename_i name value
      refine ⟨.listRequired, ?_, rfl⟩
      rw [validate_of_typed named typed
          (allBlank_of_takes (.inr membership)),
        denoted_value_of_given given notNull, namedOperator_of_typed typed,
        membership, ofName_membershipName, valueFault?_membership]
      cases value with
      | list items =>
          cases notList
      | _ =>
          rfl
  | noScalar named typed comparison given =>
      rename_i name items
      obtain ⟨takes, noMembership⟩ := takes_of_comparison comparison
      rw [← namedOperator_of_typed typed] at takes noMembership
      rw [← name_namedOperator typed]
      refine ⟨.scalarRequired condition.namedOperator, ?_, rfl⟩
      rw [validate_of_typed named typed
          (allBlank_of_takes (.inl comparison)),
        denoted_value_of_given given rfl,
        valueFault?_comparison takes noMembership]
      rfl

/-- A condition is accepted once the value is right for the one name it gives. -/
theorem accepted_of_typed
    {condition : PayloadCondition}
    {name : String}
    (named : Text.allBlank condition.column = false)
    (typed : condition.operator = some name)
    (nonblank : Text.allBlank name = false)
    (scalar :
      Text.trim name ∈ comparisonNames →
        ∃ value, condition.value = some value ∧
          value.isNull = false ∧ value.isList = false)
    (list :
      Text.trim name = membershipName →
        ∃ items, condition.value = some (.list items) ∧
          ∀ item ∈ items, item.isList = false) :
    ConditionAccepted condition := by
  -- A condition names one operator at most, so what holds of this name holds of all.
  refine ⟨named, ⟨name, typed, nonblank⟩, ?_, ?_⟩
  · intro other same
    rw [typed, Option.mem_some_iff] at same
    rw [← same]
    exact scalar
  · intro other same
    rw [typed, Option.mem_some_iff] at same
    rw [← same]
    exact list

/-- A comparison with a value is accepted, unless the value is a list. -/
theorem accepted_or_breaks_of_comparison
    {condition : PayloadCondition}
    {name : String}
    {value : Param}
    (named : Text.allBlank condition.column = false)
    (typed : condition.operator = some name)
    (comparison : Text.trim name ∈ comparisonNames)
    (given : condition.value = some value)
    (notNull : value.isNull = false) :
    ConditionAccepted condition ∨
      ∃ reason, ConditionBreaks condition reason := by
  by_cases isList : ∃ items, value = .list items
  · obtain ⟨items, rfl⟩ := isList
    exact .inr ⟨_, .noScalar named typed comparison given⟩
  · have scalar : value.isList = false := by
      cases value <;>
        simp_all [Param.isList]
    have noMembership : Text.trim name ≠ membershipName := by
      intro membership
      rw [membership] at comparison
      exact absurd comparison (by decide)
    exact
      .inl
        (accepted_of_typed named typed (allBlank_of_takes (.inl comparison))
          (fun _ => ⟨value, given, notNull, scalar⟩)
          (fun membership => (noMembership membership).elim))

/-- Membership with a value is accepted, if the value is a list without nested ones. -/
theorem accepted_or_breaks_of_membership
    {condition : PayloadCondition}
    {name : String}
    {value : Param}
    (named : Text.allBlank condition.column = false)
    (typed : condition.operator = some name)
    (membership : Text.trim name = membershipName)
    (given : condition.value = some value)
    (notNull : value.isNull = false) :
    ConditionAccepted condition ∨
      ∃ reason, ConditionBreaks condition reason := by
  by_cases isList : ∃ items, value = .list items
  · obtain ⟨items, rfl⟩ := isList
    by_cases nested : ∃ item ∈ items, item.isList = true
    · exact .inr ⟨_, .nestedList named typed membership given nested⟩
    · have noComparison : Text.trim name ∉ comparisonNames := by
        rw [membership]
        decide
      exact
        .inl
          (accepted_of_typed named typed
            (allBlank_of_takes (.inr membership))
            (fun comparison => (noComparison comparison).elim)
            (fun _ => ⟨items, given, by simpa using nested⟩))
  · have scalar : value.isList = false := by
      cases value <;>
        simp_all [Param.isList]
    exact .inr ⟨_, .noList named typed membership given notNull scalar⟩

/-- A condition with an operator is accepted or breaks a rule about its value. -/
theorem accepted_or_breaks_of_typed
    {condition : PayloadCondition}
    {name : String}
    (named : Text.allBlank condition.column = false)
    (typed : condition.operator = some name)
    (nonblank : Text.allBlank name = false) :
    ConditionAccepted condition ∨
      ∃ reason, ConditionBreaks condition reason := by
  by_cases compares :
      Text.trim name ∈ comparisonNames ∨ Text.trim name = membershipName
  · cases given : condition.value with
    | none =>
        exact .inr ⟨_, .value named typed compares (by simp [given])⟩
    | some value =>
        by_cases null : value.isNull = true
        · exact .inr ⟨_, .value named typed compares (by simp [given, null])⟩
        · have notNull : value.isNull = false := by
            simpa using null
          rcases compares with comparison | membership
          · exact
              accepted_or_breaks_of_comparison named typed
                comparison given notNull
          · exact
              accepted_or_breaks_of_membership named typed
                membership given notNull
  · rw [not_or] at compares
    exact
      .inl
        (accepted_of_typed named typed nonblank
          (fun comparison => (compares.1 comparison).elim)
          (fun membership => (compares.2 membership).elim))

/-- A condition is accepted or breaks a rule. -/
theorem accepted_or_breaks
    (condition : PayloadCondition) :
    ConditionAccepted condition ∨
      ∃ reason, ConditionBreaks condition reason := by
  cases named : Text.allBlank condition.column with
  | true =>
      exact .inr ⟨_, .column named⟩
  | false =>
      cases typed : Text.nonBlank? condition.operator with
      | none =>
          rw [Text.nonBlank?, Option.filter_eq_none_iff] at typed
          exact .inr ⟨_, .operator named (by simpa using typed)⟩
      | some name =>
          obtain ⟨given, shown⟩ := Option.filter_eq_some_iff.mp typed
          exact
            accepted_or_breaks_of_typed named given (by simpa using shown)

/-! ## Lists of conditions -/

/-- Either all of a list is accepted, or there is a first that is not. -/
theorem all_or_first
    {α : Type}
    (Accepts : α → Prop)
    (entries : List α) :
    (∀ entry ∈ entries, Accepts entry) ∨
      ∃ before entry after,
        entries = before ++ entry :: after ∧
          (∀ earlier ∈ before, Accepts earlier) ∧ ¬ Accepts entry := by
  induction entries with
  | nil =>
      simp
  | cons entry rest inductionHypothesis =>
      by_cases accepted : Accepts entry
      · rcases inductionHypothesis with
          all | ⟨before, refused, after, rfl, earlier, refuses⟩
        · exact .inl (List.forall_mem_cons.mpr ⟨accepted, all⟩)
        · exact
            .inr
              ⟨entry :: before, refused, after, rfl,
                List.forall_mem_cons.mpr ⟨accepted, earlier⟩, refuses⟩
      · exact .inr ⟨[], entry, rest, rfl, by simp, accepted⟩

/-- Accepted conditions pass their checks. -/
theorem validateConditions_of_accepted
    (clause : Clause)
    (index : Nat)
    {conditions : List PayloadCondition}
    (accepted : ∀ condition ∈ conditions, ConditionAccepted condition) :
    validateConditions clause index conditions =
      .ok (conditions.map PayloadCondition.denoted) := by
  induction conditions generalizing index with
  | nil =>
      rfl
  | cons condition rest inductionHypothesis =>
      rw [List.forall_mem_cons] at accepted
      rw [validateConditions, validate_of_accepted accepted.1]
      dsimp only
      rw [inductionHypothesis (index + 1) accepted.2]
      rfl

/-- The first condition that breaks a rule is the one that is reported, with its index. -/
theorem validateConditions_of_breaks
    (clause : Clause)
    (index : Nat)
    {before after : List PayloadCondition}
    {condition : PayloadCondition}
    {reason : String}
    (accepted : ∀ earlier ∈ before, ConditionAccepted earlier)
    (breaks : ConditionBreaks condition reason) :
    ∃ fault,
      validateConditions clause index (before ++ condition :: after) =
          .error (.inCondition clause (index + before.length) fault) ∧
        fault.message = reason := by
  induction before generalizing index with
  | nil =>
      obtain ⟨fault, refused, words⟩ := validate_of_breaks breaks
      refine ⟨fault, ?_, words⟩
      rw [List.nil_append, validateConditions, refused]
      rfl
  | cons earlier rest inductionHypothesis =>
      rw [List.forall_mem_cons] at accepted
      obtain ⟨fault, refused, words⟩ :=
        inductionHypothesis (index + 1) accepted.2
      refine ⟨fault, ?_, words⟩
      rw [List.cons_append, validateConditions,
        validate_of_accepted accepted.1]
      dsimp only
      rw [refused, List.length_cons, Nat.add_assoc,
        Nat.add_comm 1 rest.length]

end QueryAgent
