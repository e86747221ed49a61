import QueryAgent.Proofs.Sql.Names
import QueryAgent.Proofs.Sql.Written

namespace QueryAgent.Sql

open Text

/-!
# Clauses in a text

What follows a column tells its operator, since no phrase of an operator begins
another; what follows a condition tells whether the clause goes on; and each
clause that may follow opens with another initial.  The text of a clause
therefore tells its conditions or its columns, and where it ends.
-/

/-- What stands between a column and its marker, or behind a column without one. -/
def phrase : Operator → String
  | .equal => " = $"
  | .notEqual => " != $"
  | .greaterThan => " > $"
  | .greaterOrEqual => " >= $"
  | .lessThan => " < $"
  | .lessOrEqual => " <= $"
  | .like => " LIKE $"
  | .isIn => " = ANY($"
  | .isNull => " IS NULL"
  | .isNotNull => " IS NOT NULL"
  | .unsupported _ => ""

/-- What stands behind the phrase of an operator. -/
def phraseEnd
    (number : Nat) : Operator → List Char
  | .isNull => []
  | .isNotNull => []
  | .isIn => decimalList number ++ [')']
  | _ => decimalList number

/-- The operators that have a phrase. -/
def knownOperators : List Operator :=
  [.equal, .notEqual, .greaterThan, .greaterOrEqual, .lessThan,
    .lessOrEqual, .like, .isIn, .isNull, .isNotNull]

/-- No phrase begins another. -/
theorem phrase_determines :
    ∀ operator ∈ knownOperators, ∀ other ∈ knownOperators,
      (phrase operator).toList <+: (phrase other).toList →
      operator = other := by
  decide

/-- What begins with two phrases begins with one. -/
theorem phrase_append_inj
    {operator other : Operator}
    (known : operator ∈ knownOperators)
    (otherKnown : other ∈ knownOperators)
    {after behind : List Char}
    (same :
      (phrase operator).toList ++ after =
        (phrase other).toList ++ behind) :
    operator = other ∧ after = behind := by
  have sameOperator : operator = other := by
    have first :
        (phrase operator).toList <+: (phrase other).toList ++ behind :=
      ⟨after, same⟩
    have second :
        (phrase other).toList <+: (phrase other).toList ++ behind :=
      List.prefix_append _ _
    rcases List.prefix_or_prefix_of_prefix first second with
        shorter | longer
    · exact phrase_determines operator known other otherKnown shorter
    · exact (phrase_determines other otherKnown operator known longer).symm
  subst sameOperator
  exact ⟨rfl, List.append_cancel_left same⟩

/-- Every phrase is set off by a blank. -/
theorem head?_phrase :
    ∀ operator ∈ knownOperators,
      (phrase operator).toList.head? = some ' ' := by
  decide

/-- A written condition is its column, the phrase of its operator and what ends it. -/
theorem toList_renderFrom_of_written
    (number : Nat)
    {condition : Condition}
    {pieces : List Piece}
    (written : Written .bindArray condition pieces) :
    (renderFrom (.numbered "$") number pieces).toList =
      condition.column.toList
        ++ ((phrase condition.operator).toList
          ++ phraseEnd number condition.operator) := by
  cases written with
  | comparison compares given =>
      rename_i operator _
      cases operator <;> cases compares <;>
        simp [renderFrom, PlaceholderStyle.marker, phrase, phraseEnd, decimal]
  | isNull =>
      simp [renderFrom, phrase, phraseEnd]
  | isNotNull =>
      simp [renderFrom, phrase, phraseEnd]
  | array whole =>
      simp [renderFrom, PlaceholderStyle.marker, phrase, phraseEnd, decimal]
  | noItems expanded =>
      cases expanded
  | items expanded =>
      cases expanded

/-- A condition that is written has an operator with a phrase. -/
theorem mem_knownOperators_of_written
    {policy : ListPolicy}
    {condition : Condition}
    {pieces : List Piece}
    (written : Written policy condition pieces) :
    condition.operator ∈ knownOperators := by
  cases written with
  | comparison compares given =>
      rename_i operator _
      cases operator <;> cases compares <;>
        simp [knownOperators]
  | _ =>
      simp [knownOperators]

/-- Conditions on one column by one operator. -/
def SameQuestion
    (first second : Condition) : Prop :=
  first.column = second.column ∧ first.operator = second.operator

/-- The text of a condition tells its column and its operator, and where it ends. -/
theorem sameQuestion_of_text
    (number : Nat)
    {first second : Condition}
    {pieces others : List Piece}
    (firstWord : IsWord first.column)
    (secondWord : IsWord second.column)
    (firstWritten : Written .bindArray first pieces)
    (secondWritten : Written .bindArray second others)
    {after behind : List Char}
    (same :
      (renderFrom (.numbered "$") number pieces).toList ++ after =
        (renderFrom (.numbered "$") number others).toList ++ behind) :
    SameQuestion first second ∧ after = behind := by
  have phraseEnds :
      ∀ operator ∈ knownOperators, ∀ rest : List Char,
        EndsRun isWordCharacter ((phrase operator).toList ++ rest) := by
    intro operator known rest
    simp [EndsRun, head?_phrase operator known, isWordCharacter]
  have firstKnown := mem_knownOperators_of_written firstWritten
  have secondKnown := mem_knownOperators_of_written secondWritten
  rw [toList_renderFrom_of_written number firstWritten,
    toList_renderFrom_of_written number secondWritten] at same
  simp only [List.append_assoc] at same
  obtain ⟨sameColumn, sameRest⟩ :=
    append_inj_of_endsRun firstWord.characters secondWord.characters
      (phraseEnds _ firstKnown _) (phraseEnds _ secondKnown _) same
  obtain ⟨sameOperator, sameEnd⟩ :=
    phrase_append_inj firstKnown secondKnown sameRest
  rw [sameOperator] at sameEnd
  exact
    ⟨⟨String.toList_inj.mp sameColumn, sameOperator⟩,
      List.append_cancel_left sameEnd⟩

/-- A written condition binds one value when its operator takes one, else none. -/
theorem length_boundValues_of_written
    {condition : Condition}
    {pieces : List Piece}
    (written : Written .bindArray condition pieces) :
    (boundValues pieces).length =
      if condition.operator.takesValue then 1 else 0 := by
  cases written with
  | comparison compares given =>
      rename_i operator _
      cases operator <;> cases compares <;>
        rfl
  | noItems expanded =>
      cases expanded
  | items expanded =>
      cases expanded
  | _ =>
      rfl

/-- Conditions that ask alike bind equally many values. -/
theorem length_boundValues_of_sameQuestion
    {first second : Condition}
    {pieces others : List Piece}
    (sameQuestion : SameQuestion first second)
    (firstWritten : Written .bindArray first pieces)
    (secondWritten : Written .bindArray second others) :
    (boundValues pieces).length = (boundValues others).length := by
  rw [length_boundValues_of_written firstWritten,
    length_boundValues_of_written secondWritten, sameQuestion.2]

/-- Lists of conditions that ask alike bind equally many values. -/
theorem length_flatMap_boundValues
    {first second : List Condition}
    {parts others : List (List Piece)}
    (sameQuestions : List.Forall₂ SameQuestion first second)
    (firstWritten : List.Forall₂ (Written .bindArray) first parts)
    (secondWritten : List.Forall₂ (Written .bindArray) second others) :
    (parts.flatMap boundValues).length =
      (others.flatMap boundValues).length := by
  induction sameQuestions generalizing parts others with
  | nil =>
      cases firstWritten
      cases secondWritten
      rfl
  | cons sameHead _ inductionHypothesis =>
      cases firstWritten with
      | cons firstHead firstRest =>
          cases secondWritten with
          | cons secondHead secondRest =>
              simp only [List.flatMap_cons, List.length_append,
                length_boundValues_of_sameQuestion sameHead
                  firstHead secondHead,
                inductionHypothesis firstRest secondRest]

/-- The text of the conditions behind the first one of a clause. -/
def furtherText
    (number : Nat)
    (parts : List (List Piece)) : List Char :=
  (renderFrom (.numbered "$") number
    (parts.flatMap fun next => .text " AND " :: next)).toList

/-- Each further condition stands behind a conjunction. -/
theorem furtherText_cons
    (number : Nat)
    (part : List Piece)
    (rest : List (List Piece)) :
    furtherText number (part :: rest) =
      ' ' :: 'A' :: 'N' :: 'D' :: ' '
        :: ((renderFrom (.numbered "$") number part).toList
          ++ furtherText (number + (boundValues part).length) rest) := by
  simp [furtherText, renderFrom, renderFrom_append]

/-- The text of further conditions tells their columns and operators, and where they end. -/
theorem sameQuestions_of_furtherText
    {initials : List Char}
    (noConjunction : 'A' ∉ initials)
    (number : Nat)
    {first second : List Condition}
    {parts others : List (List Piece)}
    (firstWords : ∀ condition ∈ first, IsWord condition.column)
    (secondWords : ∀ condition ∈ second, IsWord condition.column)
    (firstWritten : List.Forall₂ (Written .bindArray) first parts)
    (secondWritten : List.Forall₂ (Written .bindArray) second others)
    {after behind : List Char}
    (continues : Continues initials after)
    (otherContinues : Continues initials behind)
    (same :
      furtherText number parts ++ after =
        furtherText number others ++ behind) :
    List.Forall₂ SameQuestion first second ∧ after = behind := by
  induction firstWritten generalizing number second others with
  | nil =>
      cases secondWritten with
      | nil =>
          exact ⟨.nil, same⟩
      | cons secondHead secondRest =>
          rw [furtherText_cons] at same
          exact (continues.ne noConjunction _ same).elim
  | cons firstHead firstRest inductionHypothesis =>
      cases secondWritten with
      | nil =>
          rw [furtherText_cons] at same
          exact (otherContinues.ne noConjunction _ same.symm).elim
      | cons secondHead secondRest =>
          rw [List.forall_mem_cons] at firstWords secondWords
          rw [furtherText_cons, furtherText_cons] at same
          simp only [List.cons_append, List.append_assoc,
            List.cons.injEq, true_and] at same
          obtain ⟨sameHead, sameRest⟩ :=
            sameQuestion_of_text number firstWords.1 secondWords.1
              firstHead secondHead same
          rw [length_boundValues_of_sameQuestion sameHead
            firstHead secondHead] at sameRest
          obtain ⟨sameTail, sameEnd⟩ :=
            inductionHypothesis _ firstWords.2 secondWords.2
              secondRest sameRest
          exact ⟨.cons sameHead sameTail, sameEnd⟩

/-- The text of a clause. -/
def clauseText
    (number : Nat)
    (keyword : String)
    (parts : List (List Piece)) : List Char :=
  (renderFrom (.numbered "$") number (clauseOfParts keyword parts)).toList

/-- A clause that is not empty is its keyword, its first condition and the further ones. -/
theorem clauseText_cons
    (number : Nat)
    (keyword : String)
    (part : List Piece)
    (rest : List (List Piece)) :
    clauseText number keyword (part :: rest) =
      keyword.toList
        ++ ((renderFrom (.numbered "$") number part).toList
          ++ furtherText (number + (boundValues part).length) rest) := by
  rw [clauseText, clauseOfParts, joined_cons]
  · simp [renderFrom, renderFrom_append, furtherText]
  · simp

/-- A clause of conditions is missing or opens with its keyword. -/
theorem clauseText_opens
    (number : Nat)
    {keyword : String}
    {initial : Char}
    {word : List Char}
    (spelled : keyword.toList = ' ' :: initial :: word)
    (parts : List (List Piece)) :
    clauseText number keyword parts = [] ∨
      ∃ rest, clauseText number keyword parts = ' ' :: initial :: rest := by
  cases parts with
  | nil =>
      exact .inl rfl
  | cons part rest =>
      rw [clauseText_cons, spelled]
      exact .inr ⟨_, rfl⟩

/-- The text of a clause tells its conditions, and where it ends. -/
theorem sameQuestions_of_clauseText
    {initials : List Char}
    (noConjunction : 'A' ∉ initials)
    (number : Nat)
    {keyword : String}
    {initial : Char}
    {word : List Char}
    (spelled : keyword.toList = ' ' :: initial :: word)
    (foreign : initial ∉ initials)
    {first second : List Condition}
    {parts others : List (List Piece)}
    (firstWords : ∀ condition ∈ first, IsWord condition.column)
    (secondWords : ∀ condition ∈ second, IsWord condition.column)
    (firstWritten : List.Forall₂ (Written .bindArray) first parts)
    (secondWritten : List.Forall₂ (Written .bindArray) second others)
    {after behind : List Char}
    (continues : Continues initials after)
    (otherContinues : Continues initials behind)
    (same :
      clauseText number keyword parts ++ after =
        clauseText number keyword others ++ behind) :
    List.Forall₂ SameQuestion first second ∧ after = behind := by
  cases firstWritten with
  | nil =>
      cases secondWritten with
      | nil =>
          exact ⟨.nil, same⟩
      | cons secondHead secondRest =>
          rw [clauseText_cons, spelled] at same
          exact (continues.ne foreign _ same).elim
  | @cons _ part _ rest firstHead firstRest =>
      cases secondWritten with
      | nil =>
          rw [clauseText_cons, spelled] at same
          exact (otherContinues.ne foreign _ same.symm).elim
      | @cons _ other _ others secondHead secondRest =>
          rw [clauseText_cons, clauseText_cons] at same
          simp only [List.append_assoc] at same
          have sameConditions := List.append_cancel_left same
          -- With a conjunction in front the first condition is a further one.
          have asFurther :
              furtherText number (part :: rest) ++ after =
                furtherText number (other :: others) ++ behind := by
            rw [furtherText_cons, furtherText_cons]
            simpa using sameConditions
          exact
            sameQuestions_of_furtherText noConjunction number
              firstWords secondWords
              (.cons firstHead firstRest) (.cons secondHead secondRest)
              continues otherContinues asFurther

/-- Columns with what separates each from the one before it. -/
def furtherColumns
    (columns : List String) : List Char :=
  columns.flatMap fun column => ',' :: ' ' :: column.toList

/-- Separated columns are the first one and the further ones. -/
theorem toList_intercalate_cons
    (column : String)
    (rest : List String) :
    (", ".intercalate (column :: rest)).toList =
      column.toList ++ furtherColumns rest := by
  induction rest generalizing column with
  | nil =>
      simp [furtherColumns]
  | cons next rest inductionHypothesis =>
      rw [String.intercalate_cons_cons, String.toList_append,
        String.toList_append, inductionHypothesis next]
      simp [furtherColumns]

/-- Further columns do not go on with the word before them. -/
theorem endsRun_furtherColumns
    (columns : List String)
    {initials : List Char}
    {after : List Char}
    (continues : Continues initials after) :
    EndsRun isWordCharacter (furtherColumns columns ++ after) := by
  cases columns with
  | nil =>
      exact endsRun_of_continues rfl continues
  | cons column rest =>
      simp [furtherColumns, EndsRun, isWordCharacter]

/-- The text of further columns tells them, and where they end. -/
theorem furtherColumns_inj
    {initials : List Char}
    {first second : List String}
    (firstWords : ∀ column ∈ first, IsWord column)
    (secondWords : ∀ column ∈ second, IsWord column)
    {after behind : List Char}
    (continues : Continues initials after)
    (otherContinues : Continues initials behind)
    (same :
      furtherColumns first ++ after = furtherColumns second ++ behind) :
    first = second ∧ after = behind := by
  have noSeparator :
      ∀ {text : List Char}, Continues initials text →
        ∀ rest, text ≠ ',' :: rest := by
    rintro text (rfl | ⟨_, _, _, rfl⟩) rest shape <;>
      cases shape
  induction first generalizing second with
  | nil =>
      cases second with
      | nil =>
          exact ⟨rfl, same⟩
      | cons column rest =>
          exact (noSeparator continues _ same).elim
  | cons column rest inductionHypothesis =>
      cases second with
      | nil =>
          exact (noSeparator otherContinues _ same.symm).elim
      | cons other others =>
          rw [List.forall_mem_cons] at firstWords secondWords
          have sameColumns :
              column.toList ++ (furtherColumns rest ++ after) =
                other.toList ++ (furtherColumns others ++ behind) := by
            simpa [furtherColumns] using same
          obtain ⟨sameColumn, sameRest⟩ :=
            append_inj_of_endsRun
              firstWords.1.characters secondWords.1.characters
              (endsRun_furtherColumns rest continues)
              (endsRun_furtherColumns others otherContinues)
              sameColumns
          obtain ⟨sameTail, sameEnd⟩ :=
            inductionHypothesis firstWords.2 secondWords.2 sameRest
          rw [String.toList_inj.mp sameColumn, sameTail]
          exact ⟨rfl, sameEnd⟩

/-- The keyword of the columns grouped by, with its initial in front. -/
theorem toList_groupKeyword :
    " GROUP BY ".toList = ' ' :: 'G' :: "ROUP BY ".toList := by
  simp

/-- The columns grouped by are written behind their keyword. -/
theorem toList_renderFrom_groupPieces
    (number : Nat)
    (column : String)
    (rest : List String) :
    (renderFrom (.numbered "$") number
        (groupPieces (column :: rest))).toList =
      " GROUP BY ".toList ++ (column.toList ++ furtherColumns rest) := by
  simp only [groupPieces, renderFrom, String.append_empty]
  rw [String.toList_append, toList_intercalate_cons]

/-- The columns grouped by are missing or open with their keyword. -/
theorem groupText_opens
    (number : Nat)
    (columns : List String) :
    (renderFrom (.numbered "$") number (groupPieces columns)).toList = [] ∨
      ∃ rest,
        (renderFrom (.numbered "$") number (groupPieces columns)).toList =
          ' ' :: 'G' :: rest := by
  cases columns with
  | nil =>
      exact .inl rfl
  | cons column rest =>
      rw [toList_renderFrom_groupPieces, toList_groupKeyword]
      exact .inr ⟨_, rfl⟩

/-- The text of the columns grouped by tells them, and where they end. -/
theorem groupBy_eq_of_text
    {initials : List Char}
    (foreign : 'G' ∉ initials)
    (number : Nat)
    {first second : List String}
    (firstWords : ∀ column ∈ first, IsWord column)
    (secondWords : ∀ column ∈ second, IsWord column)
    {after behind : List Char}
    (continues : Continues initials after)
    (otherContinues : Continues initials behind)
    (same :
      (renderFrom (.numbered "$") number (groupPieces first)).toList
          ++ after =
        (renderFrom (.numbered "$") number (groupPieces second)).toList
          ++ behind) :
    first = second ∧ after = behind := by
  cases first with
  | nil =>
      cases second with
      | nil =>
          exact ⟨rfl, same⟩
      | cons column rest =>
          rw [toList_renderFrom_groupPieces, toList_groupKeyword] at same
          exact (continues.ne foreign _ same).elim
  | cons column rest =>
      cases second with
      | nil =>
          rw [toList_renderFrom_groupPieces, toList_groupKeyword] at same
          exact (otherContinues.ne foreign _ same.symm).elim
      | cons other others =>
          rw [toList_renderFrom_groupPieces,
            toList_renderFrom_groupPieces] at same
          simp only [List.append_assoc] at same
          have sameColumns := List.append_cancel_left same
          -- With a separator in front the first column is a further one.
          have asFurther :
              furtherColumns (column :: rest) ++ after =
                furtherColumns (other :: others) ++ behind := by
            simpa [furtherColumns] using sameColumns
          exact
            furtherColumns_inj firstWords secondWords
              continues otherContinues asFurther

/-- A limit is missing or opens with its keyword. -/
theorem continues_limit
    (number : Nat)
    (query : Query) :
    Continues ['L']
      (renderFrom (.numbered "$") number (limitPieces query)).toList := by
  unfold limitPieces
  cases query.effectiveLimit with
  | none =>
      exact .inl rfl
  | some limit =>
      refine .inr ⟨'L', List.mem_cons_self, ?_⟩
      simp [renderFrom]

end QueryAgent.Sql
