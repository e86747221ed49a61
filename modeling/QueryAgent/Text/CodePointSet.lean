import QueryAgent.Text.Digits
import QueryAgent.Text.Split

namespace QueryAgent.Text

/-!
# Sets of code points

A set given by runs of neighbouring members.  A run is written as its first
and its last member in base sixteen with a hyphen between them, and one member
alone without a hyphen; blanks separate runs.
-/

/-- Neighbouring code points from the first to the last. -/
structure CodePointRun where
  first : Nat
  last : Nat
deriving Repr, DecidableEq

namespace CodePointRun

/-- Whether a code point lies in a run. -/
def contains
    (run : CodePointRun)
    (code : Nat) : Bool :=
  run.first ≤ code && code ≤ run.last

/-- Reads a run, none when a word is not written as one. -/
def ofWord?
    (word : List Char) : Option CodePointRun :=
  match splitFirst? '-' word with
  | some (first, last) => do
      let first ← readHexadecimal? first
      let last ← readHexadecimal? last
      some ⟨first, last⟩
  | none =>
      (readHexadecimal? word).map fun only => ⟨only, only⟩

end CodePointRun

/-- A set of code points, given by its runs. -/
structure CodePointSet where
  runs : List CodePointRun
deriving Repr, DecidableEq

/-- The words of some lines. -/
def wordsOf
    (lines : List String) : List (List Char) :=
  lines.flatMap fun line => splitAll (· == ' ') line.toList

namespace CodePointSet

/-- The set of the runs that some lines hold. -/
def ofRuns
    (lines : List String) : CodePointSet where
  runs := (wordsOf lines).filterMap CodePointRun.ofWord?

/-- A character is a member when its code point lies in a run. -/
def contains
    (members : CodePointSet)
    (character : Char) : Bool :=
  members.runs.any (fun run => run.contains character.toNat)

end CodePointSet

end QueryAgent.Text
