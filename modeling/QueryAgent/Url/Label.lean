import QueryAgent.Text.CanonicalForm
import QueryAgent.Text.Direction
import QueryAgent.Text.Joining
import QueryAgent.Url.NameTable
import QueryAgent.Url.Punycode

namespace QueryAgent.Url

/-!
# Labels

A name is made of labels.  A label beyond ASCII is written in an ASCII form
that begins with a mark of its own, and the characters it shows have to keep
rules so that no two labels are mistaken for one another.
-/

/-- ASCII characters that no name can hold. -/
def isForbiddenInName
    (character : Char) : Bool :=
  character.toNat ≤ 0x20 || character.toNat = 0x7f
    || "#%/:<>?@[\\]^|".toList.contains character

/-- What a name holds for a character, none when it can hold nothing for it. -/
def nameForm?
    (character : Char) : Option (List Char) :=
  match nameReplacements.find? character with
  | some form =>
      some form
  | none =>
      if refusedInNames.contains character then none else some [character]

/-- A character that a name holds as it is, other than the dot between labels. -/
def staysInName
    (character : Char) : Bool :=
  nameForm? character = some [character] && !isForbiddenInName character && character ≠ '.'

/-- The character that keeps letters from joining. -/
def nonJoiner : Char := Char.ofNat 0x200c

/-- The character that makes letters join. -/
def joiner : Char := Char.ofNat 0x200d

/-- The class of marks that take the vowel from a letter. -/
def vowelKiller : Nat := 9

/-- Joiners show only after a mark that kills a vowel or between letters that would join. -/
def joinersShow
    (before : List Char) : List Char → Bool
  | [] =>
      true
  | character :: rest =>
      let afterKiller := (before.head?.map Text.combiningClass) == some vowelKiller
      let joinsBefore :=
        (before.find? (fun c => !Text.joinTransparent.contains c)).any Text.joinsNext.contains
      let joinsAfter :=
        (rest.find? (fun c => !Text.joinTransparent.contains c)).any
          Text.joinsPrevious.contains
      let shows :=
        if character = nonJoiner then
          afterKiller || (joinsBefore && joinsAfter)
        else if character = joiner then
          afterKiller
        else
          true
      shows && joinersShow (character :: before) rest

/-- The most characters of a label beyond ASCII. -/
def greatestLabel : Nat := 1000

/-- The most characters of an ASCII form behind its mark. -/
def greatestAsciiForm : Nat := 2000

/-- A label beyond ASCII that keeps the rules for what it shows. -/
def isShowable
    (label : List Char) : Bool :=
  !(label.head?.any leadingRefused.contains) && joinersShow [] label
    && label.length ≤ greatestLabel

/-- A label: the characters it shows, and the ASCII characters it is written in. -/
structure Label where
  shown : List Char
  written : List Char
deriving Repr, DecidableEq

namespace Label

/-- What the ASCII form of a label begins with. -/
def asciiMark : List Char := "xn--".toList

/-- The label that an ASCII form behind its mark stands for. -/
def ofAsciiForm?
    (content : List Char) : Option Label := do
  if content.isEmpty || content.getLast? = some '-' || greatestAsciiForm < content.length then
    none
  else
    let shown ← Punycode.decode? content
    if shown.all staysInName && Text.composedForm shown = shown && isShowable shown then
      some ⟨shown, asciiMark ++ content⟩
    else
      none

/-- The label that some characters are, none when they are no label. -/
def ofChars?
    (content : List Char) : Option Label :=
  let isPlain := content.all (fun character => character.toNat < 0x80)
  if asciiMark.isPrefixOf content then
    if isPlain then ofAsciiForm? (content.drop asciiMark.length) else none
  else if isPlain then
    some ⟨content, content⟩
  else if isShowable content then
    some ⟨content, asciiMark ++ Punycode.encode content⟩
  else
    none

/-- How the characters of a label run, without the marks at its end. -/
def runs
    (label : Label) : List Text.Direction :=
  ((label.shown.map Text.Direction.ofChar).reverse.dropWhile (· == .mark)).reverse

/-- A label with a character that runs from right to left. -/
def hasRightToLeft
    (label : Label) : Bool :=
  label.shown.any fun character =>
    let direction := Text.Direction.ofChar character
    direction == .rightToLeft || direction == .arabicNumber

/-- A label that runs one way from its first character to its last. -/
def runsOneWay
    (label : Label) : Bool :=
  let runs := label.runs
  match label.shown.head?.map Text.Direction.ofChar, runs.getLast? with
  | none, _ =>
      true
  | some .leftToRight, some last =>
      (last == .leftToRight || last == .europeanNumber)
        && !runs.contains .rightToLeft && !runs.contains .arabicNumber
  | some .rightToLeft, some last =>
      (last == .rightToLeft || last == .europeanNumber || last == .arabicNumber)
        && !runs.contains .leftToRight
        && !(runs.contains .europeanNumber && runs.contains .arabicNumber)
  | _, _ =>
      false

end Label

end QueryAgent.Url
