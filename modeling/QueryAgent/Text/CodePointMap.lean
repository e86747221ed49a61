import QueryAgent.Text.CodePointSet

namespace QueryAgent.Text

/-!
# Replacements of code points

What stands for a character in another form of a text.  A replacement is
written as a run, the sign `>` and the code points that take its place, joined
by plus signs; nothing stands behind the sign when nothing takes its place.
Through a run the replacement moves on with the code point; a run that ends in
`/2` holds every second code point only.
-/

/-- What takes the place of the code points of a run. -/
structure Replacement where
  run : CodePointRun
  step : Nat
  targets : List Nat
deriving Repr, DecidableEq

namespace Replacement

/-- Whether a code point is replaced. -/
def contains
    (replacement : Replacement)
    (code : Nat) : Bool :=
  replacement.run.contains code && (code - replacement.run.first) % replacement.step == 0

/-- What takes the place of a code point of the run. -/
def replace
    (replacement : Replacement)
    (code : Nat) : List Char :=
  replacement.targets.map fun target =>
    Char.ofNat (target + (code - replacement.run.first))

/-- Reads a replacement, none when a word is not written as one. -/
def ofWord?
    (word : List Char) : Option Replacement := do
  let (source, targets) ← splitFirst? '>' word
  let (run, step) :=
    match splitFirst? '/' source with
    | some (run, _) => (run, 2)
    | none => (source, 1)
  let run ← CodePointRun.ofWord? run
  let targets := (splitAll (· == '+') targets).filter (fun target => !target.isEmpty)
  some ⟨run, step, targets.filterMap readHexadecimal?⟩

end Replacement

/-- Replacements for some code points; the others have none. -/
structure CodePointMap where
  replacements : List Replacement
deriving Repr, DecidableEq

namespace CodePointMap

/-- The replacements that some lines hold. -/
def ofWords
    (lines : List String) : CodePointMap where
  replacements := (wordsOf lines).filterMap Replacement.ofWord?

/-- What takes the place of a character, none when it stays. -/
def find?
    (map : CodePointMap)
    (character : Char) : Option (List Char) :=
  (map.replacements.find? (fun replacement => replacement.contains character.toNat)).map
    fun replacement => replacement.replace character.toNat

end CodePointMap

end QueryAgent.Text
