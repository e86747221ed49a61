import QueryAgent.Proofs.Sql.Pieces
import QueryAgent.Proofs.Text.Decimal

namespace QueryAgent.Sql

open Text

/-!
# Reading markers back

A reader who knows the mark of a style cuts a text at every mark and takes the
digits behind a numbered mark for its number.  On the text of pieces this finds
the markers that were written and nothing else, provided that no words hold the
mark and that no words behind a marker begin with a digit.
-/

/-- The mark that a style writes at the places of parameters. -/
def PlaceholderStyle.mark : PlaceholderStyle → String
  | .positional mark => mark
  | .numbered mark => mark

/-- A marker in a text: the digits that belong to it, and what follows them. -/
structure Marked where
  label : List Char
  following : List Char
deriving Repr, DecidableEq

/-- A text cut at its markers: what stands before the first one, then each of them. -/
structure CutText where
  opening : List Char
  marked : List Marked
deriving Repr, DecidableEq

/-- How much of what follows a mark belongs to the marker. -/
def PlaceholderStyle.labelIn
    (style : PlaceholderStyle)
    (after : List Char) : List Char :=
  match style with
  | .positional _ => []
  | .numbered _ => after.takeWhile Char.isDigit

/-- Cuts a text at every mark. -/
def cutText
    (style : PlaceholderStyle)
    (mark : Char) : List Char → CutText
  | [] =>
      ⟨[], []⟩
  | character :: rest =>
      let cut := cutText style mark rest
      if character = mark then
        let label := style.labelIn cut.opening
        ⟨[], ⟨label, cut.opening.drop label.length⟩ :: cut.marked⟩
      else
        ⟨character :: cut.opening, cut.marked⟩

/-- The markers of a text from left to right. -/
def CutText.markers
    (cut : CutText)
    (mark : Char) : List String :=
  cut.marked.map fun marked => String.ofList (mark :: marked.label)

/-- The numbers that the markers of a text carry, none for one without digits. -/
def CutText.numbers
    (cut : CutText) : List (Option Nat) :=
  cut.marked.map fun marked => readDecimal? marked.label

/-- Markers with a text in the place of each; one without a text stays. -/
def fillMarked
    (mark : Char) : List Marked → List String → List Char
  | [], _ =>
      []
  | marked :: rest, [] =>
      mark :: marked.label ++ marked.following ++ fillMarked mark rest []
  | marked :: rest, replacement :: replacements =>
      replacement.toList ++ marked.following
        ++ fillMarked mark rest replacements

/-- The text in which the markers are replaced in their order. -/
def CutText.fill
    (cut : CutText)
    (mark : Char)
    (replacements : List String) : String :=
  String.ofList (cut.opening ++ fillMarked mark cut.marked replacements)

/-- Words without the mark are no part of a marker. -/
theorem cutText_append
    (style : PlaceholderStyle)
    {mark : Char}
    {content : List Char}
    (unmarked : mark ∉ content)
    (after : List Char) :
    cutText style mark (content ++ after) =
      ⟨content ++ (cutText style mark after).opening,
        (cutText style mark after).marked⟩ := by
  induction content with
  | nil =>
      rfl
  | cons character rest inductionHypothesis =>
      rw [List.mem_cons, not_or] at unmarked
      have different : character ≠ mark := Ne.symm unmarked.1
      simp [cutText, different, inductionHypothesis unmarked.2]

/-- There are as many markers as marks. -/
theorem length_marked
    (style : PlaceholderStyle)
    (mark : Char)
    (characters : List Char) :
    (cutText style mark characters).marked.length =
      characters.count mark := by
  induction characters with
  | nil =>
      rfl
  | cons character rest inductionHypothesis =>
      by_cases isMark : character = mark <;>
        simp [cutText, isMark, inductionHypothesis]

/-- What stands before the first marker begins as the text does. -/
theorem endsRun_opening
    {inClass : Char → Bool}
    (style : PlaceholderStyle)
    (mark : Char)
    {characters : List Char}
    (ends : EndsRun inClass characters) :
    EndsRun inClass (cutText style mark characters).opening := by
  cases characters with
  | nil =>
      exact ends
  | cons character rest =>
      by_cases isMark : character = mark
      · simp [cutText, isMark, EndsRun]
      · simpa [cutText, isMark, EndsRun] using ends

/-- The digits that a style writes behind its mark. -/
def PlaceholderStyle.labelOf
    (style : PlaceholderStyle)
    (number : Nat) : List Char :=
  match style with
  | .positional _ => []
  | .numbered _ => decimalList number

/-- A marker is the mark of its style and the digits of its number. -/
theorem toList_marker
    {style : PlaceholderStyle}
    {mark : Char}
    (marks : style.mark = String.singleton mark)
    (number : Nat) :
    (style.marker number).toList = mark :: style.labelOf number := by
  cases style <;>
    simp_all [PlaceholderStyle.mark, PlaceholderStyle.marker,
      PlaceholderStyle.labelOf, decimal]

/-- A marker that no digit follows is cut off as it was written. -/
theorem cutText_marker_append
    {style : PlaceholderStyle}
    {mark : Char}
    (marks : style.mark = String.singleton mark)
    (noDigit : mark.isDigit = false)
    (number : Nat)
    {after : List Char}
    (ends : EndsRun Char.isDigit after) :
    cutText style mark ((style.marker number).toList ++ after) =
      ⟨[], ⟨style.labelOf number, (cutText style mark after).opening⟩
        :: (cutText style mark after).marked⟩ := by
  have unmarked : mark ∉ style.labelOf number := by
    intro member
    cases style with
    | positional _ =>
        simp [PlaceholderStyle.labelOf] at member
    | numbered _ =>
        have digit : mark.isDigit = true :=
          isDigit_of_mem_decimalList member
        simp [noDigit] at digit
  have label :
      style.labelIn
          (style.labelOf number ++ (cutText style mark after).opening) =
        style.labelOf number := by
    cases style with
    | positional _ =>
        rfl
    | numbered _ =>
        exact
          takeWhile_isDigit_decimalList_append number
            (endsRun_opening _ mark ends)
  rw [toList_marker marks, List.cons_append, cutText,
    cutText_append style unmarked]
  simp [label]

/-- Pieces behind which a number may end: none, or words that begin with no digit. -/
def EndsMarker : List Piece → Prop
  | [] => True
  | .text content :: _ =>
      content.toList ≠ [] ∧ EndsRun Char.isDigit content.toList
  | .bound _ :: _ => False

/-- Pieces whose words hold no mark and begin with no digit behind a marker. -/
def Legible
    (mark : Char) : List Piece → Prop
  | [] => True
  | .text content :: rest => mark ∉ content.toList ∧ Legible mark rest
  | .bound _ :: rest => EndsMarker rest ∧ Legible mark rest

/-- Words that end a marker still do when they are rendered. -/
theorem endsRun_renderFrom
    (style : PlaceholderStyle)
    (number : Nat)
    {pieces : List Piece}
    (ends : EndsMarker pieces) :
    EndsRun Char.isDigit (renderFrom style number pieces).toList := by
  cases pieces with
  | nil =>
      simp [renderFrom, EndsRun]
  | cons piece rest =>
      cases piece with
      | bound value =>
          exact ends.elim
      | text content =>
          obtain ⟨nonempty, outside⟩ := ends
          rw [renderFrom, String.toList_append]
          intro character first
          obtain ⟨head, tail, shape⟩ := List.exists_cons_of_ne_nil nonempty
          rw [shape] at first outside
          exact outside character first

/-- The text of pieces with a text in the place of every value. -/
def renderInPlace
    (literal : Param → String) : List Piece → String
  | [] =>
      ""
  | .text content :: rest =>
      content ++ renderInPlace literal rest
  | .bound value :: rest =>
      literal value ++ renderInPlace literal rest

/-- Pieces one behind the other are written in place one behind the other. -/
@[simp] theorem renderInPlace_append
    (literal : Param → String)
    (first second : List Piece) :
    renderInPlace literal (first ++ second) =
      renderInPlace literal first ++ renderInPlace literal second := by
  induction first with
  | nil =>
      simp [renderInPlace]
  | cons piece rest inductionHypothesis =>
      cases piece <;>
        simp [renderInPlace, inductionHypothesis, String.append_assoc]

section Rendered

variable
  {style : PlaceholderStyle}
  {mark : Char}
  (marks : style.mark = String.singleton mark)
  (noDigit : mark.isDigit = false)

include marks noDigit

/-- The labels in the text of legible pieces count their values. -/
theorem labels_renderFrom
    (number : Nat)
    {pieces : List Piece}
    (legible : Legible mark pieces) :
    (cutText style mark
          (renderFrom style number pieces).toList).marked.map Marked.label =
      (List.range' number (boundValues pieces).length).map
        style.labelOf := by
  induction pieces generalizing number with
  | nil =>
      rfl
  | cons piece rest inductionHypothesis =>
      cases piece with
      | text content =>
          rw [renderFrom, String.toList_append,
            cutText_append style legible.1]
          exact inductionHypothesis number legible.2
      | bound value =>
          have ends := endsRun_renderFrom style (number + 1) legible.1
          rw [renderFrom, String.toList_append,
            cutText_marker_append marks noDigit number ends]
          simp [boundValues, List.range'_succ,
            inductionHypothesis (number + 1) legible.2]

/-- Texts filled in for the markers stand where the values were bound. -/
theorem fill_renderFrom
    (literal : Param → String)
    (number : Nat)
    {pieces : List Piece}
    (legible : Legible mark pieces) :
    (cutText style mark (renderFrom style number pieces).toList).fill
        mark ((boundValues pieces).map literal) =
      renderInPlace literal pieces := by
  induction pieces generalizing number with
  | nil =>
      rfl
  | cons piece rest inductionHypothesis =>
      cases piece with
      | text content =>
          have filled := inductionHypothesis number legible.2
          rw [renderFrom, String.toList_append,
            cutText_append style legible.1, renderInPlace, ← filled]
          simp [CutText.fill, boundValues, String.ofList_append]
      | bound value =>
          have filled := inductionHypothesis (number + 1) legible.2
          have ends := endsRun_renderFrom style (number + 1) legible.1
          rw [renderFrom, String.toList_append,
            cutText_marker_append marks noDigit number ends,
            renderInPlace, ← filled]
          simp [CutText.fill, fillMarked, boundValues,
            String.ofList_append]

end Rendered

end QueryAgent.Sql
