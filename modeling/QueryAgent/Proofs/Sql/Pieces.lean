import QueryAgent.Sql.Statement

namespace QueryAgent.Sql

/-!
# Lists of pieces

How the text and the values of a statement follow from its parts: pieces one
behind the other are rendered one behind the other, the later ones numbered on
from where the earlier ones stop.
-/

/-- A list of parts begins with its first part; a separator stands before every other. -/
theorem joined_cons
    (between : String)
    (part : List Piece)
    (rest : List (List Piece)) :
    joined between (part :: rest) =
      part ++ rest.flatMap (fun next => .text between :: next) := by
  induction rest generalizing part with
  | nil =>
      simp [joined]
  | cons next rest inductionHypothesis =>
      rw [joined, inductionHypothesis next, List.flatMap_cons]
      simp

/-- The values of two lists of pieces follow each other. -/
@[simp] theorem boundValues_append
    (first second : List Piece) :
    boundValues (first ++ second) =
      boundValues first ++ boundValues second := by
  induction first with
  | nil =>
      rfl
  | cons piece rest inductionHypothesis =>
      cases piece <;>
        simp [boundValues, inductionHypothesis]

/-- Joined parts bind what the parts bind. -/
theorem boundValues_joined
    (between : String)
    (parts : List (List Piece)) :
    boundValues (joined between parts) = parts.flatMap boundValues := by
  induction parts with
  | nil =>
      rfl
  | cons part rest inductionHypothesis =>
      cases rest with
      | nil =>
          simp [joined]
      | cons next rest =>
          simp [joined, boundValues, inductionHypothesis]

/-- The second of two lists is numbered on from the values of the first. -/
theorem renderFrom_append
    (style : PlaceholderStyle)
    (number : Nat)
    (first second : List Piece) :
    renderFrom style number (first ++ second) =
      renderFrom style number first
        ++ renderFrom style (number + (boundValues first).length) second := by
  induction first generalizing number with
  | nil =>
      simp [renderFrom, boundValues]
  | cons piece rest inductionHypothesis =>
      cases piece with
      | text content =>
          simp [renderFrom, boundValues, inductionHypothesis,
            String.append_assoc]
      | bound value =>
          have shifted :
              number + 1 + (boundValues rest).length =
                number + ((boundValues rest).length + 1) := by
            omega
          simp [renderFrom, boundValues, inductionHypothesis, shifted,
            String.append_assoc]

end QueryAgent.Sql
