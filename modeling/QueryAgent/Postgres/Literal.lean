import QueryAgent.Number.Plain
import QueryAgent.Query.Param

namespace QueryAgent.Postgres

/-!
# Parameters as texts

Parameters travel as texts that the server reads as whatever type the place
asks for.  A list is an array literal: every element is quoted except the
absent one.
-/

/-- One character between the quotes of an element. -/
def escapeElementChar
    (character : Char) : List Char :=
  if character = '"' || character = '\\' then
    ['\\', character]
  else
    [character]

/-- A text as an element in quotes. -/
def quoteElement
    (content : List Char) : List Char :=
  '"' :: (content.flatMap escapeElementChar ++ ['"'])

mutual

/-- The text of a parameter; an absent value has none and leaves it empty. -/
def paramText : Param → List Char
  | .null =>
      []
  | .boolean value =>
      if value then "true".toList else "false".toList
  | .integer value =>
      (Text.integer value.toInt).toList
  | .float value =>
      (Number.plainText value).toList
  | .text content =>
      content.toList
  | .list items =>
      '\x7b' :: ([','].intercalate (elementTexts items) ++ ['\x7d'])

/-- The elements of an array literal. -/
def elementTexts : List Param → List (List Char)
  | [] =>
      []
  | .null :: rest =>
      "NULL".toList :: elementTexts rest
  | item :: rest =>
      quoteElement (paramText item) :: elementTexts rest

end

/-- What is sent for a parameter, nothing for an absent value. -/
def sentText? : Param → Option String
  | .null =>
      none
  | param =>
      some (String.ofList (paramText param))

end QueryAgent.Postgres
