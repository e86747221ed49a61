namespace QueryAgent.Mock

/-!
# LIKE patterns

A percent sign stands for any text, an underscore for any one character, and
every other character for itself.
-/

/-- Some suffix of a text, the text itself included, passes a test. -/
def anySuffix
    (test : List Char → Bool) : List Char → Bool
  | [] =>
      test []
  | character :: rest =>
      test (character :: rest) || anySuffix test rest

/-- The whole text is an instance of the pattern. -/
def matchesPattern : List Char → List Char → Bool
  | [], text =>
      text.isEmpty
  | '%' :: pattern, text =>
      anySuffix (matchesPattern pattern) text
  | wanted :: pattern, text =>
      match text with
      | [] =>
          false
      | character :: rest =>
          (wanted == '_' || wanted == character) && matchesPattern pattern rest

/-- Whether a text is like a pattern. -/
def like
    (text pattern : String) : Bool :=
  matchesPattern pattern.toList text.toList

end QueryAgent.Mock
