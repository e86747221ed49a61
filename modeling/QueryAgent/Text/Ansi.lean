import QueryAgent.Text.Digits

namespace QueryAgent.Text

/-!
# Styled texts

Bold, dimmed and coloured texts for a terminal, as escape sequences around
them; and the removal of such sequences.
-/

/-- The character that begins an escape sequence. -/
def escapeChar : Char :=
  Char.ofNat 27

/-- A colour of a terminal. -/
inductive Color where
  | red
  | green
  | blue
  | magenta
  | cyan
deriving Repr, DecidableEq

/-- The code of a colour. -/
def Color.code : Color → Nat
  | .red => 31
  | .green => 32
  | .blue => 34
  | .magenta => 35
  | .cyan => 36

/-- How a text looks. -/
structure Style where
  bold : Bool
  dimmed : Bool
  color : Option Color
deriving Repr, DecidableEq

namespace Style

/-- A text as it is. -/
def plain : Style :=
  ⟨false, false, none⟩

/-- A text in bold. -/
def inBold : Style :=
  ⟨true, false, none⟩

/-- A dimmed text. -/
def inDim : Style :=
  ⟨false, true, none⟩

/-- A text in a colour. -/
def inColor
    (color : Color) : Style :=
  ⟨false, false, some color⟩

/-- A bold text in a colour. -/
def inBoldColor
    (color : Color) : Style :=
  ⟨true, false, some color⟩

/-- The codes of a style in the order in which they are written. -/
def codes
    (style : Style) : List Nat :=
  (if style.bold then [1] else [])
    ++ (if style.dimmed then [2] else [])
    ++ (style.color.map Color.code).toList

/-- Codes with semicolons between them. -/
def codeList : List Nat → List Char
  | [] =>
      []
  | [code] =>
      decimalList code
  | code :: next :: rest =>
      decimalList code ++ ';' :: codeList (next :: rest)

/-- The sequence that begins a style. -/
def opening
    (style : Style) : List Char :=
  escapeChar :: '[' :: (codeList style.codes ++ ['m'])

/-- The sequence that ends every style. -/
def reset : List Char :=
  [escapeChar, '[', '0', 'm']

/-- Begins the style anew after each sequence that ends one. -/
def reopen
    (opening : List Char) : List Char → List Char
  | [] =>
      []
  | first :: '[' :: '0' :: 'm' :: rest =>
      if first = escapeChar then
        reset ++ opening ++ reopen opening rest
      else
        first :: reopen opening ('[' :: '0' :: 'm' :: rest)
  | first :: rest =>
      first :: reopen opening rest

/-- A text in a style when styles are shown, and as it is otherwise. -/
def paint
    (style : Style)
    (shown : Bool)
    (text : String) : String :=
  if shown && !style.codes.isEmpty then
    String.ofList (style.opening ++ reopen style.opening text.toList ++ reset)
  else
    text

end Style

/-- Passes over a sequence up to the letter that ends it. -/
def skipSequence : List Char → List Char
  | [] =>
      []
  | character :: rest =>
      if character = 'm' then
        rest
      else
        skipSequence rest

/-- What is left of a sequence is no longer than the sequence. -/
theorem skipSequence_length
    (characters : List Char) :
    (skipSequence characters).length ≤ characters.length := by
  induction characters with
  | nil =>
      simp [skipSequence]
  | cons character rest inductionHypothesis =>
      simp only [skipSequence, List.length_cons]
      split
      · exact Nat.le_succ _
      · exact Nat.le_succ_of_le inductionHypothesis

/-- A text without its escape sequences. -/
def withoutEscapes : List Char → List Char
  | [] =>
      []
  | character :: rest =>
      if character = escapeChar then
        have := skipSequence_length rest
        withoutEscapes (skipSequence rest)
      else
        character :: withoutEscapes rest
termination_by characters => characters.length
decreasing_by
  all_goals
    simp only [List.length_cons]
    omega

end QueryAgent.Text
