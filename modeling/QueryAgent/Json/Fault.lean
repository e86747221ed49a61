namespace QueryAgent.Json

/-!
# Faults of written JSON

The ways in which a text can fail to be JSON.  A part that is only passed over
is read less closely than one whose value is wanted, so some faults show
differently there.
-/

/-- Why a text stops being JSON at some place. -/
inductive Fault where
  | valueMissing
  | valueExpected
  | wordCut
  | wordMisspelled
  | numberCut
  | numberMalformed
  | numberTooLarge
  | textUnclosed
  | controlCharacter
  | escapeUnknown
  | escapeMalformed
  | surrogateAlone
  | surrogateUnpaired
  | bytesNotText
  | listUnclosed
  | listCutAfterComma
  | listTrailingComma
  | listSeparatorExpected
  | objectUnclosed
  | objectCutAfterComma
  | objectTrailingComma
  | objectSeparatorExpected
  | keyNotText
  | colonExpected
  | trailingCharacters
  | nestingTooDeep
deriving Repr, DecidableEq

/-- The words of a fault. -/
def Fault.message : Fault → String
  | .valueMissing => "EOF while parsing a value"
  | .valueExpected => "expected value"
  | .wordCut => "EOF while parsing a value"
  | .wordMisspelled => "expected ident"
  | .numberCut => "EOF while parsing a value"
  | .numberMalformed => "invalid number"
  | .numberTooLarge => "number out of range"
  | .textUnclosed => "EOF while parsing a string"
  | .controlCharacter =>
      "control character (\\u0000-\\u001F) found while parsing a string"
  | .escapeUnknown => "invalid escape"
  | .escapeMalformed => "invalid escape"
  | .surrogateAlone => "lone leading surrogate in hex escape"
  | .surrogateUnpaired => "unexpected end of hex escape"
  | .bytesNotText => "invalid unicode code point"
  | .listUnclosed => "EOF while parsing a list"
  | .listCutAfterComma => "EOF while parsing a value"
  | .listTrailingComma => "trailing comma"
  | .listSeparatorExpected => "expected `,` or `]`"
  | .objectUnclosed => "EOF while parsing an object"
  | .objectCutAfterComma => "EOF while parsing a value"
  | .objectTrailingComma => "trailing comma"
  | .objectSeparatorExpected => "expected `,` or `\x7d`"
  | .keyNotText => "key must be a string"
  | .colonExpected => "expected `:`"
  | .trailingCharacters => "trailing characters"
  | .nestingTooDeep => "recursion limit exceeded"

/-- What a fault counts as in a part that is only passed over. -/
def Fault.whenSkipping : Fault → Fault
  | .numberCut => .numberMalformed
  | .listTrailingComma => .valueExpected
  | .objectTrailingComma => .keyNotText
  | .objectCutAfterComma => .objectUnclosed
  | fault => fault

/-- What a fault counts as after the last item that a record has room for. -/
def Fault.whenComplete : Fault → Fault
  | .listSeparatorExpected => .trailingCharacters
  | .listCutAfterComma => .trailingCharacters
  | fault => fault

end QueryAgent.Json
