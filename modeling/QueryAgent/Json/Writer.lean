import QueryAgent.Json.Basic
import QueryAgent.Number.Shortest

namespace QueryAgent.Json

/-!
# Written JSON

The compact form holds no blanks; the pretty form gives each item and member a
line of its own.  In texts only quotes, backslashes and controls are escaped.
-/

/-- Doubles keep a point; the power of ten appears below `1e-5` and from `1e16`. -/
def floatLayout : Number.FloatLayout where
  positional := some (-5, 15)
  keepsPoint := true

/-- A double as a JSON number; JSON has no infinities and nothing for a NaN. -/
def writeFloat
    (value : Number.Binary64) : String :=
  if value.isFinite then
    floatLayout.render value
  else
    "null"

/-- One character inside the quotes. -/
def writeChar
    (character : Char) : List Char :=
  if character = '"' || character = '\\' then
    ['\\', character]
  else if character = '\n' then
    ['\\', 'n']
  else if character = '\t' then
    ['\\', 't']
  else if character = '\r' then
    ['\\', 'r']
  else if character.toNat = 8 then
    ['\\', 'b']
  else if character.toNat = 12 then
    ['\\', 'f']
  else if character.toNat < 32 then
    '\\' :: 'u' :: '0' :: '0' :: Text.hexByte (UInt8.ofNat character.toNat)
  else
    [character]

/-- A text in quotes. -/
def writeText
    (text : String) : List Char :=
  '"' :: (text.toList.flatMap writeChar ++ ['"'])

/-- Parts with a separator between each two. -/
def separated
    (separator : List Char) : List (List Char) → List Char
  | [] =>
      []
  | [part] =>
      part
  | part :: next :: rest =>
      part ++ separator ++ separated separator (next :: rest)

/-- A value that is neither a list nor an object. -/
def writeAtom : Json → List Char
  | .null =>
      "null".toList
  | .boolean true =>
      "true".toList
  | .boolean false =>
      "false".toList
  | .integer value =>
      (Text.integer value).toList
  | .float value =>
      (writeFloat value).toList
  | .text value =>
      writeText value
  | .list _ =>
      []
  | .object _ =>
      []

mutual

/-- The compact form of a value. -/
def writeCompact : Json → List Char
  | .list items =>
      '[' :: (separated [','] (writeItems items) ++ [']'])
  | .object members =>
      '\x7b' :: (separated [','] (writeMembers members) ++ ['\x7d'])
  | .null =>
      writeAtom .null
  | .boolean value =>
      writeAtom (.boolean value)
  | .integer value =>
      writeAtom (.integer value)
  | .float value =>
      writeAtom (.float value)
  | .text value =>
      writeAtom (.text value)

/-- The compact form of each item. -/
def writeItems : List Json → List (List Char)
  | [] =>
      []
  | item :: rest =>
      writeCompact item :: writeItems rest

/-- The compact form of each member. -/
def writeMembers : List (String × Json) → List (List Char)
  | [] =>
      []
  | (name, value) :: rest =>
      (writeText name ++ ':' :: writeCompact value) :: writeMembers rest

end

/-- The text of a value without blanks. -/
def compact
    (value : Json) : String :=
  String.ofList (writeCompact value)

/-- A line break and two spaces for each level. -/
def lineBreak
    (level : Nat) : List Char :=
  '\n' :: List.replicate (2 * level) ' '

/-- Parts on lines of their own between two brackets, nothing between them if there are none. -/
def bracketed
    (opening closing : Char)
    (level : Nat)
    (parts : List (List Char)) : List Char :=
  match parts with
  | [] =>
      [opening, closing]
  | parts =>
      opening :: (lineBreak (level + 1)
        ++ separated (',' :: lineBreak (level + 1)) parts
        ++ lineBreak level ++ [closing])

mutual

/-- The pretty form of a value that begins at the given level. -/
def writePretty
    (level : Nat) : Json → List Char
  | .list items =>
      bracketed '[' ']' level (writePrettyItems (level + 1) items)
  | .object members =>
      bracketed '\x7b' '\x7d' level (writePrettyMembers (level + 1) members)
  | .null =>
      writeAtom .null
  | .boolean value =>
      writeAtom (.boolean value)
  | .integer value =>
      writeAtom (.integer value)
  | .float value =>
      writeAtom (.float value)
  | .text value =>
      writeAtom (.text value)

/-- The pretty form of each item. -/
def writePrettyItems
    (level : Nat) : List Json → List (List Char)
  | [] =>
      []
  | item :: rest =>
      writePretty level item :: writePrettyItems level rest

/-- The pretty form of each member. -/
def writePrettyMembers
    (level : Nat) : List (String × Json) → List (List Char)
  | [] =>
      []
  | (name, value) :: rest =>
      (writeText name ++ ':' :: ' ' :: writePretty level value)
        :: writePrettyMembers level rest

end

/-- The text of a value with a line for each item and member. -/
def pretty
    (value : Json) : String :=
  String.ofList (writePretty 0 value)

end QueryAgent.Json
