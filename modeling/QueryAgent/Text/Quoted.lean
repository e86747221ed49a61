import QueryAgent.Text.Digits
import QueryAgent.Text.Unprintable

namespace QueryAgent.Text

/-!
# Texts quoted for a message

A text in double quotes in which everything that would not show as itself is
written as an escape.
-/

/-- An escape by code point, in hexadecimal between braces. -/
def codePointEscape
    (character : Char) : List Char :=
  '\\' :: 'u' :: '\x7b' :: (hexadecimalList character.toNat ++ ['\x7d'])

/-- One character as it shows between the quotes. -/
def quotedChar
    (character : Char) : List Char :=
  if character.toNat = 0 then
    ['\\', '0']
  else if character = '\t' then
    ['\\', 't']
  else if character = '\r' then
    ['\\', 'r']
  else if character = '\n' then
    ['\\', 'n']
  else if character = '\\' || character = '"' then
    ['\\', character]
  else if graphemeExtending.contains character || unprintable.contains character then
    codePointEscape character
  else
    [character]

/-- The text in double quotes with escapes. -/
def quoted
    (text : String) : String :=
  String.ofList ('"' :: (text.toList.flatMap quotedChar ++ ['"']))

end QueryAgent.Text
