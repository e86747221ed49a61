import QueryAgent.Text.Alphanumeric
import QueryAgent.Text.Blank

namespace QueryAgent.Logging

/-!
# Patterns

A field may be compared with a pattern, which is a regular expression.  This
module says which texts are one.  What would need an equals sign, a comma or a
closing brace cannot stand in the value of a field, so that there are no
counted repetitions and no looking ahead.
-/

/-- Why a text cannot serve as a pattern. -/
inductive PatternFault where
  | malformed
  | wordBoundary
deriving Repr, DecidableEq

/-- The words of a fault. -/
def PatternFault.message : PatternFault → String
  | .malformed =>
      "error building NFA"
  | .wordBoundary =>
      "unsupported regex feature for DFAs: cannot build DFAs for regexes with Unicode word "
        ++ "boundaries; switch to ASCII word boundaries, or heuristically enable Unicode word "
        ++ "boundaries or use a different regex engine"

namespace Pattern

/-- What flags switch in a part of a pattern, as far as it matters here. -/
structure Modes where
  /-- Blanks and comments between parts are passed over. -/
  spaced : Bool
  /-- Sets hold characters of every script. -/
  unicode : Bool
deriving Repr, DecidableEq

/-- Drops blanks, and comments up to the end of their line. -/
def dropSpacing
    (inComment : Bool) : List Char → List Char
  | [] =>
      []
  | character :: rest =>
      if inComment then
        dropSpacing (character ≠ '\n') rest
      else if Text.isBlank character then
        dropSpacing false rest
      else if character = '#' then
        dropSpacing true rest
      else
        character :: rest

/-- Goes to the next part. -/
def Modes.passOver
    (modes : Modes)
    (source : List Char) : List Char :=
  if modes.spaced then dropSpacing false source else source

/-- What an escape stands for. -/
inductive Escape where
  | literal (code : Nat)
  | members
  | place (ofWord : Bool)
deriving Repr, DecidableEq

/-- Reads so many digits in base sixteen, after those already read. -/
def readCode?
    (modes : Modes) : Nat → Nat → List Char → Option (Nat × List Char)
  | 0, code, source =>
      some (code, source)
  | digits + 1, code, source =>
      match modes.passOver source with
      | [] =>
          none
      | character :: rest =>
          (Text.hexValue? character).bind fun digit =>
            readCode? modes digits (code * 16 + digit) rest

/-- Reads a character given by its number. -/
def readNumbered?
    (modes : Modes)
    (digits : Nat)
    (source : List Char) : Option (Escape × List Char) := do
  let (code, rest) ← readCode? modes digits 0 source
  if code.isValidChar && (modes.unicode || digits ≠ 2 || code < 0x80) then
    some (.literal code, rest)
  else
    none

/-- Reads the letter of a general category. -/
def readCategory?
    (modes : Modes)
    (source : List Char) : Option (Escape × List Char) :=
  match modes.passOver source with
  | [] =>
      none
  | letter :: rest =>
      if modes.unicode && "CLMNPSZclmnpsz".toList.contains letter then
        some (.members, rest)
      else
        none

/-- The number of a control character that is named by a letter. -/
def controlCode? : Char → Option Nat
  | 'a' => some 7
  | 't' => some 9
  | 'n' => some 10
  | 'v' => some 11
  | 'f' => some 12
  | 'r' => some 13
  | _ => none

/-- Reads an escape after its backslash. -/
def readEscape?
    (modes : Modes) : List Char → Option (Escape × List Char)
  | [] =>
      none
  | letter :: rest =>
      if letter = 'x' then
        readNumbered? modes 2 rest
      else if letter = 'u' then
        readNumbered? modes 4 rest
      else if letter = 'U' then
        readNumbered? modes 8 rest
      else if letter = 'p' || letter = 'P' then
        readCategory? modes rest
      else if ['d', 's', 'w'].contains letter then
        some (.members, rest)
      else if ['D', 'S', 'W'].contains letter then
        if modes.unicode then some (.members, rest) else none
      else if ['b', 'B', '<', '>'].contains letter then
        some (.place true, rest)
      else if ['A', 'z'].contains letter then
        some (.place false, rest)
      else if letter.toNat < 0x80 && !letter.isAlphanum then
        some (.literal letter.toNat, rest)
      else
        (controlCode? letter).map fun code => (.literal code, rest)

/-- Reads one item of a set. -/
def readItem?
    (modes : Modes) : List Char → Option (Escape × List Char)
  | [] =>
      none
  | '\\' :: rest =>
      readEscape? modes rest
  | character :: rest =>
      if modes.unicode || character.toNat < 0x80 then
        some (.literal character.toNat, rest)
      else
        none

/-- An item by itself, which must not be a place. -/
def standsAlone?
    (item : Escape)
    (rest : List Char) : Option (List Char) :=
  match item with
  | .place _ =>
      none
  | _ =>
      some rest

/-- What follows the items from one character to another. -/
def readRange?
    (modes : Modes)
    (source : List Char) : Option (List Char) := do
  let (first, rest) ← readItem? modes source
  match modes.passOver rest with
  | [] =>
      none
  | '-' :: after =>
      match modes.passOver after with
      | [] =>
          none
      | next :: others =>
          if next = ']' || next = '-' then
            standsAlone? first ('-' :: after)
          else do
            let (last, rest) ← readItem? modes (next :: others)
            match first, last with
            | .literal least, .literal greatest =>
                if least ≤ greatest then some rest else none
            | _, _ =>
                none
  | rest =>
      standsAlone? first rest

/-- The sets with names. -/
def namedSets : List String :=
  ["alnum", "alpha", "ascii", "blank", "cntrl", "digit", "graph", "lower", "print", "punct",
    "space", "upper", "word", "xdigit"]

/-- What follows a set given by its name, after its bracket. -/
def afterNamed? : List Char → Option (List Char)
  | ':' :: rest =>
      let unsigned := if rest.head? = some '^' then rest.drop 1 else rest
      match unsigned.span (· ≠ ':') with
      | (name, ':' :: ']' :: after) =>
          if namedSets.contains (String.ofList name) then some after else none
      | _ =>
          none
  | _ =>
      none

/-- Passes over a sign at the front of a set. -/
def dropSign
    (modes : Modes)
    (sign : Char)
    (source : List Char) : List Char :=
  match source with
  | character :: rest =>
      if character = sign then modes.passOver rest else source
  | [] =>
      []

/-- Drops the hyphens at the front of a set. -/
def dropHyphens
    (modes : Modes) : Nat → List Char → List Char
  | 0, source =>
      source
  | fuel + 1, source =>
      match source with
      | '-' :: rest =>
          dropHyphens modes fuel (modes.passOver rest)
      | source =>
          source

/-- What follows the opening of a set: a sign, and members that cannot stand elsewhere. -/
def afterOpening?
    (modes : Modes)
    (source : List Char) : Option (List Char) :=
  let signed := modes.passOver source
  let unsigned := dropSign modes '^' signed
  let items := dropHyphens modes unsigned.length unsigned
  let rest := if items.length = unsigned.length then dropSign modes ']' items else items
  if rest.isEmpty || (signed.head? = some '^' && !modes.unicode) then
    none
  else
    some rest

/-- What follows a set, with sets within it and fuel for each of its parts. -/
def afterSet?
    (modes : Modes) : Nat → Nat → List Char → Option (List Char)
  | 0, _, _ =>
      none
  | fuel + 1, depth, source =>
      match modes.passOver source with
      | [] =>
          none
      | '[' :: rest =>
          match if depth = 0 then none else afterNamed? rest with
          | some after =>
              afterSet? modes fuel depth after
          | none =>
              (afterOpening? modes rest).bind (afterSet? modes fuel (depth + 1))
      | ']' :: rest =>
          if depth ≤ 1 then
            some rest
          else
            afterSet? modes fuel (depth - 1) rest
      | '&' :: '&' :: rest =>
          afterSet? modes fuel depth rest
      | '-' :: '-' :: rest =>
          afterSet? modes fuel depth rest
      | '~' :: '~' :: rest =>
          afterSet? modes fuel depth rest
      | items =>
          (readRange? modes items).bind (afterSet? modes fuel depth)

/-- What has been read of a pattern. -/
structure Reading where
  modes : Modes
  /-- The modes of the groups around. -/
  outer : List Modes
  /-- The names that groups have. -/
  names : List (List Char)
  /-- Whether what stands before can be repeated. -/
  repeatable : Bool
  /-- Whether a place is given by where a word of any script begins or ends. -/
  boundary : Bool
deriving Repr, DecidableEq

namespace Reading

/-- Before a pattern. -/
def start : Reading where
  modes := ⟨false, true⟩
  outer := []
  names := []
  repeatable := false
  boundary := false

/-- Goes into a group. -/
def entered
    (reading : Reading)
    (modes : Modes) : Reading :=
  { reading with
    modes := modes
    outer := reading.modes :: reading.outer
    repeatable := false }

/-- Leaves a group, unless there is none. -/
def left?
    (reading : Reading) : Option Reading :=
  match reading.outer with
  | [] =>
      none
  | modes :: outer =>
      some { reading with modes := modes, outer := outer, repeatable := true }

end Reading

/-- Whether flags are known, given once, and end with none that is taken back. -/
def areFlags
    (flags : List Char) : Bool :=
  flags.all (fun flag => "imsUuRx-".toList.contains flag)
    && decide flags.Nodup
    && flags.getLast? ≠ some '-'

/-- A mode as flags leave it. -/
def switched
    (flags : List Char)
    (flag : Char)
    (before : Bool) : Bool :=
  if flags.contains flag then
    (flags.takeWhile (· ≠ '-')).contains flag
  else
    before

/-- The modes as flags leave them. -/
def Modes.switch
    (modes : Modes)
    (flags : List Char) : Modes where
  spaced := switched flags 'x' modes.spaced
  unicode := switched flags 'u' modes.unicode

/-- Whether a group can have a name. -/
def isName : List Char → Bool
  | [] =>
      false
  | first :: rest =>
      (first = '_' || Text.isAlphabetic first)
        && rest.all (fun character =>
          ['_', '.', '[', ']'].contains character || Text.isAlphanumeric character)

/-- Reads the name of a group up to its bracket. -/
def enterNamed?
    (reading : Reading)
    (source : List Char) : Option (Reading × List Char) :=
  match source.span (· ≠ '>') with
  | (name, _ :: rest) =>
      if isName name && !reading.names.contains name then
        some ({ reading.entered reading.modes with names := name :: reading.names }, rest)
      else
        none
  | _ =>
      none

/-- Reads flags, which hold for a group or from here on. -/
def readFlags?
    (reading : Reading)
    (source : List Char) : Option (Reading × List Char) :=
  let (flags, rest) := source.span (fun character => character ≠ ':' && character ≠ ')')
  let modes := reading.modes.switch flags
  if areFlags flags then
    match rest with
    | ':' :: after =>
        some (reading.entered modes, after)
    | ')' :: after =>
        if flags.isEmpty then
          none
        else
          some ({ reading with modes := modes, repeatable := false }, after)
    | _ =>
        none
  else
    none

/-- Reads what opens a group, after its bracket. -/
def openGroup?
    (reading : Reading)
    (source : List Char) : Option (Reading × List Char) :=
  match reading.modes.passOver source with
  | '?' :: 'P' :: '<' :: rest =>
      enterNamed? reading rest
  | '?' :: '<' :: rest =>
      enterNamed? reading rest
  | '?' :: rest =>
      readFlags? reading rest
  | rest =>
      some (reading.entered reading.modes, rest)

/-- Reads one part of a pattern. -/
def readPart?
    (reading : Reading) : List Char → Option (Reading × List Char)
  | [] =>
      none
  | '(' :: rest =>
      openGroup? reading rest
  | ')' :: rest =>
      reading.left?.map fun reading => (reading, rest)
  | '|' :: rest =>
      some ({ reading with repeatable := false }, rest)
  | '[' :: rest => do
      let after ← afterSet? reading.modes (rest.length + 2) 0 ('[' :: rest)
      some ({ reading with repeatable := true }, after)
  | '\\' :: rest => do
      let (escape, after) ← readEscape? reading.modes rest
      let boundary := escape = .place true && reading.modes.unicode
      some ({ reading with repeatable := true, boundary := reading.boundary || boundary }, after)
  | character :: rest =>
      if ['?', '*', '+'].contains character then
        if reading.repeatable then some (reading, rest) else none
      else if character = '\x7b' || (character = '.' && !reading.modes.unicode) then
        none
      else
        some ({ reading with repeatable := true }, rest)

/-- Reads parts to the end, with fuel for each of them. -/
def readParts? : Nat → Reading → List Char → Option Reading
  | 0, _, _ =>
      none
  | fuel + 1, reading, source =>
      match reading.modes.passOver source with
      | [] =>
          if reading.outer.isEmpty then some reading else none
      | parts =>
          (readPart? reading parts).bind fun next => readParts? fuel next.1 next.2

/-- Whether a text is a pattern that can be searched for. -/
def check
    (content : List Char) : Except PatternFault Unit :=
  match readParts? (content.length + 1) .start content with
  | none =>
      .error .malformed
  | some reading =>
      if reading.boundary then .error .wordBoundary else .ok ()

end Pattern

end QueryAgent.Logging
