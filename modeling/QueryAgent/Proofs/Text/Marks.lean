namespace QueryAgent.Text

/-!
# Signs in front of numbers

A plus sign, a minus sign or nothing stands in front of a number.  What stands
there is split off again from anything that opens with a digit.
-/

/-- What stands in front of a number. -/
inductive Mark where
  | absent
  | plus
  | minus
deriving DecidableEq

namespace Mark

/-- The mark in front of a text, and what is behind it. -/
def split : List Char → Mark × List Char
  | '+' :: rest =>
      (.plus, rest)
  | '-' :: rest =>
      (.minus, rest)
  | characters =>
      (.absent, characters)

/-- A number with the sign of its mark. -/
def signed
    (mark : Mark)
    (number : Nat) : Int :=
  if mark = .minus then
    -number
  else
    number

/-- The characters of a mark. -/
def text : Mark → List Char
  | .absent => []
  | .plus => ['+']
  | .minus => ['-']

/-- A mark is split off what does not open with one. -/
theorem split_append
    (mark : Mark)
    {digits : List Char}
    (opens : ∀ first ∈ digits.head?, first.isDigit = true) :
    split (mark.text ++ digits) = (mark, digits) := by
  cases mark with
  | plus | minus =>
      rfl
  | absent =>
      rw [text, List.nil_append]
      unfold split
      split
      next rest =>
          cases opens '+' rfl
      next rest =>
          cases opens '-' rfl
      · rfl

/-- Nothing but a sign stands in a mark. -/
theorem not_mem_text
    {character : Char}
    (notPlus : character ≠ '+')
    (notMinus : character ≠ '-')
    (mark : Mark) :
    character ∉ mark.text := by
  cases mark <;> simp [text, notPlus, notMinus]

end Mark

end QueryAgent.Text
