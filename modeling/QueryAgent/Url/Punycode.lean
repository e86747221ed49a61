import QueryAgent.Text.Digits
import QueryAgent.Text.Split

namespace QueryAgent.Url.Punycode

/-!
# Labels in ASCII

A label beyond ASCII is written as its ASCII characters and then, for each
other one in the order of code points, how many steps lie between its place
and the one before it.  Reading a label puts the characters back one by one.
-/

/-- The character of a digit in base 36. -/
def digitChar
    (digit : Nat) : Char :=
  if digit < 26 then
    Char.ofNat (97 + digit)
  else
    Char.ofNat (22 + digit)

/-- From which value on a digit is not the last one. -/
def threshold
    (place bias : Nat) : Nat :=
  if place ≤ bias then
    1
  else if bias + 26 ≤ place then
    26
  else
    place - bias

/-- A threshold is at least one. -/
theorem threshold_pos
    (place bias : Nat) :
    1 ≤ threshold place bias := by
  unfold threshold
  split
  · omega
  · split <;> omega

/-- A number in digits whose last is below its threshold. -/
def digits
    (bias place number : Nat) : List Char :=
  let limit := threshold place bias
  if number < limit then
    [digitChar number]
  else
    digitChar (limit + (number - limit) % (36 - limit))
      :: digits bias (place + 36) ((number - limit) / (36 - limit))
termination_by number
decreasing_by
  have positive := threshold_pos place bias
  calc (number - threshold place bias) / (36 - threshold place bias)
      ≤ number - threshold place bias := Nat.div_le_self _ _
    _ < number := by omega

/-- Halvings of a step that has grown large, counted in places. -/
def settle
    (step places : Nat) : Nat × Nat :=
  if 455 < step then
    settle (step / 35) (places + 36)
  else
    (step, places)
termination_by step
decreasing_by omega

/-- The bias after a step. -/
def adapt
    (step handled : Nat)
    (isFirst : Bool) : Nat :=
  let damped := if isFirst then step / 700 else step / 2
  let (settled, places) := settle (damped + damped / handled) 0
  places + 36 * settled / (settled + 38)

/-- How far the encoding of a label has come. -/
structure Progress where
  written : List Char
  step : Nat
  bias : Nat
  handled : Nat

/-- Passes over one character of the label while the given code point is placed. -/
def pass
    (plain codePoint : Nat)
    (progress : Progress)
    (character : Char) : Progress :=
  if character.toNat < codePoint then
    { progress with step := progress.step + 1 }
  else if character.toNat = codePoint then
    { written := progress.written ++ digits progress.bias 36 progress.step
      step := 0
      bias := adapt progress.step (progress.handled + 1) (progress.handled = plain)
      handled := progress.handled + 1 }
  else
    progress

/-- Places each code point in turn, from the given one on. -/
def place
    (label : List Char)
    (plain : Nat) : List Nat → Nat → Progress → Progress
  | [], _, progress =>
      progress
  | codePoint :: rest, next, progress =>
      let started :=
        { progress with step := progress.step + (codePoint - next) * (progress.handled + 1) }
      let passed := label.foldl (pass plain codePoint) started
      place label plain rest (codePoint + 1) { passed with step := passed.step + 1 }

/-- Adds a number at its place, once. -/
def insertOnce
    (number : Nat) : List Nat → List Nat
  | [] =>
      [number]
  | other :: rest =>
      if number < other then
        number :: other :: rest
      else if number = other then
        other :: rest
      else
        other :: insertOnce number rest

/-- A label as ASCII characters, a hyphen, and the steps to the other ones. -/
def encode
    (label : List Char) : List Char :=
  let plain := label.filter (fun character => character.toNat < 0x80)
  let others := label.filter (fun character => 0x80 ≤ character.toNat)
  let codePoints := others.foldl (fun placed other => insertOnce other.toNat placed) []
  plain ++ (if plain.isEmpty then [] else ['-'])
    ++ (place label plain.length codePoints 128 ⟨[], 0, 72, plain.length⟩).written

/-- The value of a digit in base 36, none of any other character. -/
def digitValue?
    (character : Char) : Option Nat :=
  if character.isDigit then
    some (character.toNat - 22)
  else if character.isLower then
    some (character.toNat - 97)
  else if character.isUpper then
    some (character.toNat - 65)
  else
    none

/-- Reads a number up to the digit below its threshold, with what follows it. -/
def readNumber
    (bias : Nat) : Nat → Nat → List Char → Option (Nat × List Char)
  | _, _, [] =>
      none
  | place, weight, character :: rest =>
      match digitValue? character with
      | none =>
          none
      | some digit =>
          let limit := threshold place bias
          if digit < limit then
            some (digit * weight, rest)
          else
            (readNumber bias (place + 36) (weight * (36 - limit)) rest).map
              fun (number, after) => (digit * weight + number, after)

/-- A number takes at least one digit. -/
theorem readNumber_rest_length
    {bias place weight number : Nat}
    {characters after : List Char}
    (found : readNumber bias place weight characters = some (number, after)) :
    after.length < characters.length := by
  induction characters generalizing place weight number after with
  | nil =>
      simp [readNumber] at found
  | cons character rest inductionHypothesis =>
      unfold readNumber at found
      split at found
      · simp at found
      · dsimp only at found
        split at found
        · simp only [Option.some.injEq, Prod.mk.injEq] at found
          rw [← found.2]
          exact Nat.lt_succ_self _
        · obtain ⟨⟨later, left⟩, read, same⟩ := Option.map_eq_some_iff.mp found
          simp only [Prod.mk.injEq] at same
          rw [← same.2]
          exact Nat.lt_succ_of_lt (inductionHypothesis read)

/-- Puts characters into a label, each so many steps after the one before it. -/
def insertAll
    (label : List Char)
    (codePoint place bias : Nat)
    (steps : List Char) : Option (List Char) :=
  if steps.isEmpty then
    some label
  else
    match found : readNumber bias 36 1 steps with
    | none =>
        none
    | some (step, after) =>
        let places := label.length + 1
        let reached := place + step
        let next := codePoint + reached / places
        if next.isValidChar then
          have := readNumber_rest_length found
          insertAll (label.insertIdx (reached % places) (Char.ofNat next)) next
            (reached % places + 1) (adapt step places (place = 0)) after
        else
          none
termination_by steps.length

/-- The label that an ASCII form stands for, none when it stands for none. -/
def decode?
    (content : List Char) : Option (List Char) :=
  match Text.splitLast? '-' content with
  | some (plain, steps) =>
      if plain.isEmpty then none else insertAll plain 128 0 72 steps
  | none =>
      insertAll [] 128 0 72 content

end QueryAgent.Url.Punycode
