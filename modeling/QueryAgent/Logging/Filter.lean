import QueryAgent.Error
import QueryAgent.Logging.Field
import QueryAgent.Text.Utf8

namespace QueryAgent.Logging

/-!
# Log filters

A filter is a list of directives, each a level for what it names.  A later
directive replaces an earlier one for the same.
-/

/-- How much is logged. -/
inductive Level where
  | off
  | error
  | warn
  | info
  | debug
  | trace
deriving Repr, DecidableEq

namespace Level

/-- The levels in the order of their numbers. -/
def all : List Level :=
  [.off, .error, .warn, .info, .debug, .trace]

/-- The name of a level. -/
def name : Level → String
  | .off => "off"
  | .error => "error"
  | .warn => "warn"
  | .info => "info"
  | .debug => "debug"
  | .trace => "trace"

/-- The level of a number or of a name in any case. -/
def ofText?
    (content : String) : Option Level :=
  match Text.readNatural? content.toList with
  | some number =>
      all[number]?
  | none =>
      let lowered := String.ofList (content.toList.map Char.toLower)
      all.find? (fun level => level.name = lowered)

end Level

/-- What a directive names, and its level. -/
structure Directive where
  target : Option String
  span : Option String
  field : Option Field
  level : Level
deriving Repr, DecidableEq

/-- Why a directive cannot be read. -/
inductive DirectiveFault where
  | malformed
  | level
  | field (cause : PatternFault)
deriving Repr, DecidableEq

/-- The words of a fault. -/
def DirectiveFault.message : DirectiveFault → String
  | .malformed =>
      "invalid filter directive"
  | .level =>
      "error parsing level filter: expected one of \"off\", \"error\", \"warn\", \"info\", "
        ++ "\"debug\", \"trace\", or a number 0-5"
  | .field cause =>
      "invalid field filter: " ++ cause.message

namespace Directive

/-- Reads a level; an empty one lets everything through. -/
def readLevel
    (content : List Char) : Except DirectiveFault Level :=
  if content.isEmpty then
    .ok .trace
  else
    match Level.ofText? (String.ofList content) with
    | some level =>
        .ok level
    | none =>
        .error .level

/--
A directive with blanks around it.  Its parts are found in the characters
without those blanks, and taken by their bytes from the same place of the
characters with them; what is left over belongs to a part that reaches to the
end.
-/
structure Source where
  whole : List Char
  /-- The bytes of what has been read. -/
  offset : Nat
  left : List Char

namespace Source

/-- The characters of a directive, blanks around it included. -/
def ofCharacters
    (content : List Char) : Source :=
  ⟨content, 0, Text.trimList content⟩

/-- Everything up to the end. -/
def toEnd
    (source : Source) : List Char :=
  (Text.splitAtByte source.offset source.whole).2

/-- The same source after some characters. -/
def past
    (source : Source)
    (characters : List Char) : Source :=
  { source with
    offset := source.offset + Text.byteCount characters
    left := source.left.drop characters.length }

/-- What is taken up to one of the given characters, and the source from it on. -/
def cutAt
    (ends : Char → Bool)
    (source : Source) : List Char × Source :=
  let found := source.left.takeWhile (fun character => !ends character)
  ((Text.splitAtByte (Text.byteCount found) source.toEnd).1, source.past found)

/-- The same source after the character at its front. -/
def next
    (source : Source) : Source :=
  source.past (source.left.take 1)

end Source

/-- Reads what may follow a span: nothing, or a level. -/
def readTail
    (directive : Directive)
    (source : Source) : Except DirectiveFault Directive :=
  match source.left with
  | [] =>
      .ok directive
  | '=' :: _ => do
      let level ← readLevel source.next.toEnd
      .ok { directive with level := level }
  | _ =>
      .error .malformed

/-- A text, nothing when it is empty. -/
def named?
    (content : List Char) : Option String :=
  if content.isEmpty then none else some (String.ofList content)

/-- Reads a field in braces and the end of the span that it stands in. -/
def readField
    (target span : Option String)
    (source : Source) : Except DirectiveFault Directive := do
  let (content, rest) := source.cutAt (· == '\x7d')
  if rest.left.isEmpty || content.isEmpty then
    .error .malformed
  else
    let field ← (Field.read content).mapError .field
    let rest := rest.next
    if rest.left.head? = some ']' then
      readTail ⟨target, span, some field, .trace⟩ rest.next
    else
      .error .malformed

/-- Reads a span in brackets, with a field in braces or without. -/
def readSpan
    (target : Option String)
    (source : Source) : Except DirectiveFault Directive :=
  let (span, rest) := source.cutAt (fun c => c == ']' || c == '\x7b')
  match rest.left with
  | ']' :: _ =>
      readTail ⟨target, some (String.ofList span), none, .trace⟩ rest.next
  | _ :: _ =>
      readField target (named? span) rest.next
  | [] =>
      .error .malformed

/-- A character with which a target can begin. -/
def startsTarget
    (character : Char) : Bool :=
  Text.isAlphanumeric character || ['-', ':', '_'].contains character

/-- A level by itself, or a target for which everything is let through. -/
def ofWord
    (word : List Char) : Directive :=
  match Level.ofText? (String.ofList word) with
  | some level =>
      ⟨none, none, none, level⟩
  | none =>
      ⟨some (String.ofList word), none, none, .trace⟩

/-- Reads a target and what follows it. -/
def readTarget
    (source : Source) : Except DirectiveFault Directive :=
  let (target, rest) := source.cutAt (fun c => c == '=' || c == '[')
  match rest.left with
  | '=' :: _ => do
      let level ← readLevel rest.next.toEnd
      .ok ⟨some (String.ofList target), none, none, level⟩
  | _ :: _ =>
      readSpan (some (String.ofList target)) rest.next
  | [] =>
      .ok (ofWord source.toEnd)

/-- Reads a directive. -/
def read
    (content : List Char) : Except DirectiveFault Directive :=
  let source := Source.ofCharacters content
  match source.left with
  | [] =>
      .error .malformed
  | '[' :: _ =>
      readSpan none source.next
  | first :: _ =>
      if startsTarget first then
        readTarget source
      else
        .error .malformed

/-- Whether two directives name the same. -/
def namesSame
    (directive other : Directive) : Bool :=
  directive.target = other.target && directive.span = other.span
    && match directive.field, other.field with
      | some field, some otherField => field.isSame otherField
      | none, none => true
      | _, _ => false

/-- What a directive names, as it is written. -/
def scopeText
    (directive : Directive) : String :=
  let field :=
    match directive.field with
    | some field => "\x7b" ++ field.written ++ "\x7d"
    | none => ""
  directive.target.getD ""
    ++ if directive.span.isSome || directive.field.isSome then
        "[" ++ directive.span.getD "" ++ field ++ "]"
      else
        ""

/-- A directive as it is written. -/
def written
    (directive : Directive) : String :=
  let scope := directive.scopeText
  (if scope.isEmpty then "" else scope ++ "=") ++ directive.level.name

/-- Whether a directive has to look at spans as they come. -/
def isDynamic
    (directive : Directive) : Bool :=
  directive.span.isSome || directive.field.isSome

/-- Whether a directive can be settled once for all. -/
def isStatic
    (directive : Directive) : Bool :=
  directive.span.isNone && (directive.field.bind Field.value).isNone

end Directive

/-- Adds a directive in place of one that names the same. -/
def addDirective
    (directives : List Directive)
    (directive : Directive) : List Directive :=
  directives.filter (fun other => !other.namesSame directive) ++ [directive]

/-- The directives of a filter, those settled once for all first. -/
structure Filter where
  settled : List Directive
  dynamic : List Directive
deriving Repr, DecidableEq

namespace Filter

/-- Reads directives with commas between them; the first that cannot be read is the fault. -/
def read
    (content : String) : Except DirectiveFault Filter := do
  let parts := (Text.splitAll (· == ',') content.toList).filter (fun part => !part.isEmpty)
  let directives ← parts.mapM Directive.read
  .ok
    { settled := (directives.filter Directive.isStatic).foldl addDirective []
      dynamic := (directives.filter Directive.isDynamic).foldl addDirective [] }

/-- The directives as they are written. -/
def written
    (filter : Filter) : List String :=
  (filter.settled ++ filter.dynamic).map Directive.written

/-- The parts of the program that would say too much. -/
def quietened : List String :=
  ["tokio_postgres=warn", "mysql_async=warn", "hyper=warn", "reqwest=warn"]

/-- The filter of a level, with what says too much kept quiet. -/
def ofLevel
    (level : String) : Result Filter :=
  let content := ",".intercalate (level :: quietened)
  match read content with
  | .ok filter =>
      .ok filter
  | .error fault =>
      .error (.configuration
        ("Invalid log filter '" ++ content ++ "': " ++ fault.message))

/-- The filter that the environment asks for when it can be read, else that of the level. -/
def choose
    (environment : Option String)
    (level : String) : Result Filter :=
  match environment.map read with
  | some (.ok filter) =>
      .ok filter
  | _ =>
      ofLevel level

end Filter

end QueryAgent.Logging
