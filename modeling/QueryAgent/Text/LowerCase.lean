import QueryAgent.Text.Letter

namespace QueryAgent.Text

/-!
# Lower case

Unicode's default lower-casing.  One letter depends on what stands around it: a
capital sigma at the end of a word takes the final form.
-/

/-- The lower case of one character, whatever stands around it. -/
def lowerChar
    (character : Char) : List Char :=
  (lowerCases.find? character).getD [character]

/-- The nearest character that is not passed over has case. -/
def startsCased
    (characters : List Char) : Bool :=
  match characters.dropWhile caseIgnorable.contains with
  | nearest :: _ =>
      cased.contains nearest
  | [] =>
      false

/-- Lower case of a text, given the reversed characters before it. -/
def lowerCaseAfter
    (before : List Char) : List Char → List Char
  | [] =>
      []
  | character :: rest =>
      let lowered :=
        if character.toNat = 0x3a3 && startsCased before && !startsCased rest then
          [Char.ofNat 0x3c2]
        else
          lowerChar character
      lowered ++ lowerCaseAfter (character :: before) rest

/-- The text in lower case. -/
def lowerCase
    (text : String) : String :=
  String.ofList (lowerCaseAfter [] text.toList)

end QueryAgent.Text
