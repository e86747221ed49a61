namespace QueryAgent.Text

/-!
# Blank characters

The characters with the `White_Space` property, and what it means to trim them
from a text.  A name or a column counts as missing when nothing is left of it.
-/

/-- A character with the `White_Space` property. -/
def isBlank
    (character : Char) : Bool :=
  let code := character.toNat
  (0x09 ≤ code && code ≤ 0x0d)
    || code == 0x20
    || code == 0x85
    || code == 0xa0
    || code == 0x1680
    || (0x2000 ≤ code && code ≤ 0x200a)
    || code == 0x2028
    || code == 0x2029
    || code == 0x202f
    || code == 0x205f
    || code == 0x3000

/-- Drops the blanks at the front. -/
def trimStartList
    (characters : List Char) : List Char :=
  characters.dropWhile isBlank

/-- Drops the blanks at the back. -/
def trimEndList
    (characters : List Char) : List Char :=
  (characters.reverse.dropWhile isBlank).reverse

/-- Drops the blanks at both ends. -/
def trimList
    (characters : List Char) : List Char :=
  trimEndList (trimStartList characters)

/-- The text without the blanks at its ends. -/
def trim
    (text : String) : String :=
  String.ofList (trimList text.toList)

/-- A text that holds nothing but blanks. -/
def allBlank
    (text : String) : Bool :=
  text.toList.all isBlank

/-- Keeps a text that holds something besides blanks. -/
def nonBlank?
    (text : Option String) : Option String :=
  text.filter (fun kept => !allBlank kept)

end QueryAgent.Text
