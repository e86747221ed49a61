import QueryAgent.Text.CombiningClass
import QueryAgent.Text.Composition

namespace QueryAgent.Text

/-!
# The composed form of a text

Texts that differ only in how their characters are composed have one composed
form: every character is taken apart, the marks of each letter are put in
order, and then whatever composes is composed.
-/

/-- More steps than any character needs to be taken apart. -/
def componentDepth : Nat := 4

/-- A character taken apart in at most so many steps. -/
def takeApart : Nat → Char → List Char
  | 0, character =>
      [character]
  | depth + 1, character =>
      match components? character with
      | some parts =>
          parts.flatMap (takeApart depth)
      | none =>
          [character]

/-- A character with its combining class. -/
structure ClassedChar where
  combining : Nat
  character : Char
deriving Repr, DecidableEq

/-- A character with the class it has. -/
def ClassedChar.ofChar
    (character : Char) : ClassedChar :=
  ⟨combiningClass character, character⟩

/-- Adds a character to a reversed text, before the marks of higher classes at its end. -/
def addInOrder
    (added : ClassedChar) : List ClassedChar → List ClassedChar
  | [] =>
      [added]
  | last :: before =>
      if 0 < added.combining && added.combining < last.combining then
        last :: addInOrder added before
      else
        added :: last :: before

/-- A text taken apart, with the marks of each letter in the order of their classes. -/
def inOrder
    (text : List Char) : List ClassedChar :=
  ((text.flatMap (takeApart componentDepth)).foldl
    (fun reversed character => addInOrder (.ofChar character) reversed) []).reverse

/-- A text on its way to its composed form, reversed up to the last letter. -/
structure Composing where
  written : List Char
  letter : Option Char
  marks : List ClassedChar
deriving Repr, DecidableEq

namespace Composing

/-- Nothing composed so far. -/
def empty : Composing :=
  ⟨[], none, []⟩

/-- The text so far, reversed. -/
def reversed
    (composing : Composing) : List Char :=
  composing.marks.map ClassedChar.character ++ composing.letter.toList ++ composing.written

/-- A mark after the letter keeps a character of no higher class away from it. -/
def reaches
    (composing : Composing)
    (added : ClassedChar) : Bool :=
  match composing.marks with
  | [] => true
  | last :: _ => last.combining < added.combining

/-- The letter that the last one and a character compose, when the character reaches it. -/
def composed?
    (composing : Composing)
    (added : ClassedChar) : Option Char := do
  let letter ← composing.letter
  if composing.reaches added then
    compose? letter added.character
  else
    none

/-- Goes on with one more character. -/
def add
    (composing : Composing)
    (added : ClassedChar) : Composing :=
  match composing.composed? added with
  | some letter =>
      { composing with letter := some letter }
  | none =>
      if added.combining = 0 then
        ⟨composing.reversed, some added.character, []⟩
      else
        { composing with marks := added :: composing.marks }

end Composing

/-- The composed form of a text. -/
def composedForm
    (text : List Char) : List Char :=
  ((inOrder text).foldl Composing.add .empty).reversed.reverse

end QueryAgent.Text
