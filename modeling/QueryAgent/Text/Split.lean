namespace QueryAgent.Text

/-!
# Splitting

Texts cut at every separator, at the first one, or at the last one.
-/

/-- The parts between separators; a text without any is one part. -/
def splitAll
    (isSeparator : Char → Bool) : List Char → List (List Char)
  | [] =>
      [[]]
  | character :: rest =>
      if isSeparator character then
        [] :: splitAll isSeparator rest
      else
        match splitAll isSeparator rest with
        | part :: parts =>
            (character :: part) :: parts
        | [] =>
            [[character]]

/-- What stands before the first separator and after it, none without one. -/
def splitFirst?
    (separator : Char)
    (characters : List Char) : Option (List Char × List Char) :=
  match characters.dropWhile (· ≠ separator) with
  | [] =>
      none
  | _ :: after =>
      some (characters.takeWhile (· ≠ separator), after)

/-- What stands before the last separator and after it, none without one. -/
def splitLast?
    (separator : Char)
    (characters : List Char) : Option (List Char × List Char) :=
  (splitFirst? separator characters.reverse).map fun parts =>
    (parts.2.reverse, parts.1.reverse)

/-- What follows a text at the front, none when it does not stand there. -/
def afterFront? : List Char → List Char → Option (List Char)
  | [], characters =>
      some characters
  | _ :: _, [] =>
      none
  | expected :: rest, character :: characters =>
      if expected = character then
        afterFront? rest characters
      else
        none

/-- Whether a text occurs in another. -/
def occursIn
    (part : List Char) : List Char → Bool
  | [] =>
      part.isEmpty
  | character :: rest =>
      (afterFront? part (character :: rest)).isSome || occursIn part rest

/-- Every text has a part. -/
theorem splitAll_ne_nil
    (isSeparator : Char → Bool)
    (characters : List Char) :
    splitAll isSeparator characters ≠ [] := by
  cases characters with
  | nil =>
      simp [splitAll]
  | cons character rest =>
      unfold splitAll
      split
      · simp
      · split <;> simp

end QueryAgent.Text
