import QueryAgent.Json.Reader
import QueryAgent.Json.Writer
import QueryAgent.Text.Quoted

namespace QueryAgent.Json

/-!
# Decoding documents

What a program expects a document to be, and the first thing in the order of
writing that is not so.  A record is read from an object, in which unknown
members are passed over, or from a list of its fields in their order.
-/

/-- What was found in a document, as far as an error tells. -/
inductive Found where
  | null
  | boolean (value : Bool)
  | integer (value : Int)
  | float (value : Number.Binary64)
  | text (value : String)
  | list
  | object
deriving Repr, DecidableEq

/-- The words for what was found. -/
def Found.message : Found → String
  | .null =>
      "null"
  | .boolean value =>
      "boolean `" ++ (if value then "true" else "false") ++ "`"
  | .integer value =>
      "integer `" ++ Text.integer value ++ "`"
  | .float value =>
      "floating point `" ++ writeFloat value ++ "`"
  | .text value =>
      "string " ++ Text.quoted value
  | .list =>
      "sequence"
  | .object =>
      "map"

/-- Why a document is not what was expected. -/
inductive DecodeError where
  | fault (cause : Fault)
  | invalidType (found : Found) (expected : String)
  | invalidInteger (value : Int) (expected : String)
  | invalidLength (length : Nat) (expected : String)
  | missingField (name : String)
  | duplicateField (name : String)
  | unknownVariant (name : String) (variants : List String)
  | noVariant (typeName : String)
deriving Repr, DecidableEq

/-- The variants an error offers: two with "or", more as a list. -/
def offeredVariants (variants : List String) : String :=
  let named := variants.map (fun variant => "`" ++ variant ++ "`")
  match named with
  | [only] =>
      only
  | [first, second] =>
      first ++ " or " ++ second
  | several =>
      "one of " ++ ", ".intercalate several

/-- The words of a decoding error. -/
def DecodeError.message : DecodeError → String
  | .fault cause =>
      cause.message
  | .invalidType found expected =>
      "invalid type: " ++ found.message ++ ", expected " ++ expected
  | .invalidInteger value expected =>
      "invalid value: integer `" ++ Text.integer value ++ "`, expected " ++ expected
  | .invalidLength length expected =>
      "invalid length " ++ Text.decimal length ++ ", expected " ++ expected
  | .missingField name =>
      "missing field `" ++ name ++ "`"
  | .duplicateField name =>
      "duplicate field `" ++ name ++ "`"
  | .unknownVariant name variants =>
      "unknown variant `" ++ name ++ "`, expected " ++ offeredVariants variants
  | .noVariant typeName =>
      "data did not match any variant of untagged enum " ++ typeName

/-- How deep lists and objects may nest where their values are wanted. -/
def nestingLimit : Nat := 128

/-- A way to decode a value, given how deep it may still nest. -/
abbrev Decoder (α : Type) :=
  Nat → Node → Except DecodeError α

/-- What a text spells. -/
def TextLiteral.read
    (literal : TextLiteral) : Except DecodeError String :=
  match literal.content with
  | .ok content =>
      .ok content
  | .error fault =>
      .error (.fault fault)

/-- Passes over a text. -/
def TextLiteral.skip
    (literal : TextLiteral) : Except DecodeError Unit :=
  match literal.skipping with
  | none =>
      .ok ()
  | some fault =>
      .error (.fault fault.whenSkipping)

/-- The value of a written number. -/
def NumberLiteral.read
    (literal : NumberLiteral) : Except DecodeError Json :=
  match literal.value with
  | .ok number =>
      .ok number
  | .error fault =>
      .error (.fault fault)

/-- Accepts the end of a list or an object when nothing is wrong with it. -/
def endsWell : Option Fault → Except DecodeError Unit
  | none =>
      .ok ()
  | some fault =>
      .error (.fault fault)

/-- Opens a list or an object, which takes one level of nesting. -/
def enter
    (depth : Nat) : Except DecodeError Nat :=
  match depth with
  | inner + 2 =>
      .ok (inner + 1)
  | _ =>
      .error (.fault .nestingTooDeep)

mutual

/-- Passes over a value of any kind and depth. -/
def Node.skip : Node → Except DecodeError Unit
  | .null =>
      .ok ()
  | .boolean _ =>
      .ok ()
  | .number _ =>
      .ok ()
  | .text literal =>
      literal.skip
  | .list items ending => do
      skipItems items
      endsWell (ending.map Fault.whenSkipping)
  | .object members ending => do
      skipMembers members
      endsWell (ending.map Fault.whenSkipping)
  | .keyless _ =>
      .error (.fault .keyNotText)
  | .broken fault =>
      .error (.fault fault.whenSkipping)

/-- Passes over items. -/
def skipItems : List Node → Except DecodeError Unit
  | [] =>
      .ok ()
  | item :: rest => do
      item.skip
      skipItems rest

/-- Passes over members. -/
def skipMembers : List (TextLiteral × Node) → Except DecodeError Unit
  | [] =>
      .ok ()
  | (name, value) :: rest => do
      name.skip
      value.skip
      skipMembers rest

end

mutual

/-- Decodes a value of any kind. -/
def Node.any
    (depth : Nat) : Node → Except DecodeError Json
  | .null =>
      .ok .null
  | .boolean value =>
      .ok (.boolean value)
  | .number literal =>
      literal.read
  | .text literal => do
      let content ← literal.read
      .ok (.text content)
  | .list items ending => do
      let inner ← enter depth
      let values ← anyItems inner items
      endsWell ending
      .ok (.list values)
  | .object members ending => do
      let inner ← enter depth
      let entries ← anyMembers inner members
      endsWell ending
      .ok (Json.ofMembers entries)
  | .keyless _ => do
      let _ ← enter depth
      .error (.fault .keyNotText)
  | .broken fault =>
      .error (.fault fault)

/-- Decodes items of any kind. -/
def anyItems
    (depth : Nat) : List Node → Except DecodeError (List Json)
  | [] =>
      .ok []
  | item :: rest => do
      let value ← item.any depth
      let values ← anyItems depth rest
      .ok (value :: values)

/-- Decodes members of any kind. -/
def anyMembers
    (depth : Nat) : List (TextLiteral × Node) → Except DecodeError (List (String × Json))
  | [] =>
      .ok []
  | (name, value) :: rest => do
      let name ← name.read
      let value ← value.any depth
      let entries ← anyMembers depth rest
      .ok ((name, value) :: entries)

end

/-- The error for a value that is not of the expected kind. -/
def Node.mismatch
    (expected : String) : Node → DecodeError
  | .null =>
      .invalidType .null expected
  | .boolean value =>
      .invalidType (.boolean value) expected
  | .number literal =>
      match literal.value with
      | .ok (.integer value) =>
          .invalidType (.integer value) expected
      | .ok (.float value) =>
          .invalidType (.float value) expected
      | .ok _ =>
          .invalidType .null expected
      | .error fault =>
          .fault fault
  | .text literal =>
      match literal.content with
      | .ok content =>
          .invalidType (.text content) expected
      | .error fault =>
          .fault fault
  | .list _ _ =>
      .invalidType .list expected
  | .object _ _ =>
      .invalidType .object expected
  | .keyless _ =>
      .invalidType .object expected
  | .broken fault =>
      .fault fault

/-- Decodes a text. -/
def decodeText : Decoder String
  | _, .text literal =>
      literal.read
  | _, node =>
      .error (node.mismatch "a string")

/-- Decodes a truth value. -/
def decodeBoolean : Decoder Bool
  | _, .boolean value =>
      .ok value
  | _, node =>
      .error (node.mismatch "a boolean")

/-- Decodes nothing but null. -/
def decodeNull : Decoder Unit
  | _, .null =>
      .ok ()
  | _, node =>
      .error (node.mismatch "unit")

/-- Decodes an integer between two bounds. -/
def decodeInteger
    (expected : String)
    (least greatest : Int) : Decoder Int
  | _, .number literal =>
      match literal.value with
      | .ok (.integer value) =>
          if least ≤ value ∧ value ≤ greatest then
            .ok value
          else
            .error (.invalidInteger value expected)
      | _ =>
          .error ((Node.number literal).mismatch expected)
  | _, node =>
      .error (node.mismatch expected)

/-- Decodes a signed integer of 64 bits. -/
def decodeInt64 : Decoder Int64 := fun depth node =>
  (decodeInteger "i64" (-(Nat.pow 2 63 : Nat)) (Nat.pow 2 63 - 1 : Nat) depth node).map Int64.ofInt

/-- Decodes a natural number below a power of two. -/
def decodeNatural
    (expected : String)
    (bits : Nat) : Decoder Nat := fun depth node =>
  (decodeInteger expected 0 (Nat.pow 2 bits - 1 : Nat) depth node).map Int.toNat

/-- Decodes null as nothing and anything else as a value. -/
def decodeOptional
    (decode : Decoder α) : Decoder (Option α)
  | _, .null =>
      .ok none
  | depth, node =>
      (decode depth node).map some

/-- Decodes each item. -/
def decodeItems
    (decode : Decoder α)
    (depth : Nat) : List Node → Except DecodeError (List α)
  | [] =>
      .ok []
  | item :: rest => do
      let value ← decode depth item
      let values ← decodeItems decode depth rest
      .ok (value :: values)

/-- Decodes a list of values of one kind. -/
def decodeList
    (decode : Decoder α) : Decoder (List α)
  | depth, .list items ending => do
      let inner ← enter depth
      let values ← decodeItems decode inner items
      endsWell ending
      .ok values
  | _, node =>
      .error (node.mismatch "a sequence")

/-- Decodes the values of members. -/
def decodeEntries
    (decode : Decoder α)
    (depth : Nat) :
    List (TextLiteral × Node) → Except DecodeError (List (String × α))
  | [] =>
      .ok []
  | (name, value) :: rest => do
      let name ← name.read
      let value ← decode depth value
      let entries ← decodeEntries decode depth rest
      .ok ((name, value) :: entries)

/-- Decodes an object with any names and values of one kind. -/
def decodeMap
    (decode : Decoder α) : Decoder (List (String × α))
  | depth, .object members ending => do
      let inner ← enter depth
      let entries ← decodeEntries decode inner members
      endsWell ending
      .ok (sortEntries entries)
  | depth, .keyless _ => do
      let _ ← enter depth
      .error (.fault .keyNotText)
  | _, node =>
      .error (node.mismatch "a map")

/-- Picks a variant by its name. -/
def pickVariant
    (variants : List (String × α))
    (name : String) : Except DecodeError α :=
  match variants.lookup name with
  | some value =>
      .ok value
  | none =>
      .error (.unknownVariant name (variants.map (·.1)))

/--
Decodes the name of a variant, or an object with that name and null as its only
member.
-/
def decodeVariant
    (variants : List (String × α)) : Decoder α
  | _, .text literal => do
      let name ← literal.read
      pickVariant variants name
  | depth, .object members ending => do
      let inner ← enter depth
      match members with
      | [] =>
          match ending with
          | some .objectUnclosed =>
              .error (.fault .valueMissing)
          | _ =>
              .error (.fault .valueExpected)
      | (name, value) :: rest =>
          let name ← name.read
          let variant ← pickVariant variants name
          decodeNull inner value
          match rest, ending with
          | [], none =>
              .ok variant
          | [], some .objectUnclosed =>
              .error (.fault .objectUnclosed)
          | _, _ =>
              .error (.fault .valueExpected)
  | depth, .keyless found => do
      let _ ← enter depth
      .error (found.mismatch "variant identifier")
  | _, .broken .valueMissing =>
      .error (.fault .valueMissing)
  | _, _ =>
      .error (.fault .valueExpected)

/-- A field of a record that is being filled in. -/
structure Field (σ : Type) where
  /-- The name an error gives. -/
  name : String
  /-- Every name under which the field may be given. -/
  accepted : List String
  /-- Whether a list may end before the field. -/
  mayEndBefore : Bool
  /-- Whether the field has been filled in. -/
  isGiven : σ → Bool
  /-- Fills the field in. -/
  fill : Nat → Node → σ → Except DecodeError σ

/-- What a record is called and which fields it has, in their order. -/
structure Record (σ : Type) where
  name : String
  fields : List (Field σ)

/-- The words for a list that must hold every field. -/
def Record.expectedLength
    (record : Record σ) : String :=
  record.name ++ " with " ++ Text.decimal record.fields.length
    ++ if record.fields.length = 1 then " element" else " elements"

/-- Fills in fields from members in the order in which they arrive. -/
def Record.fillMembers
    (record : Record σ)
    (depth : Nat) :
    List (TextLiteral × Node) → σ → Except DecodeError σ
  | [], filled =>
      .ok filled
  | (name, value) :: rest, filled => do
      let name ← name.read
      match record.fields.find? (fun field => field.accepted.contains name) with
      | none =>
          value.skip
          record.fillMembers depth rest filled
      | some field =>
          if field.isGiven filled then
            .error (.duplicateField field.name)
          else
            let filled ← field.fill depth value filled
            record.fillMembers depth rest filled

/-- Fills in fields from items in the order of the fields. -/
def Record.fillItems
    (record : Record σ)
    (depth : Nat)
    (ending : Option Fault) :
    List (Field σ) → List Node → σ → Except DecodeError σ
  | [], [], filled => do
      endsWell (ending.map Fault.whenComplete)
      .ok filled
  | [], _ :: _, _ =>
      .error (.fault .trailingCharacters)
  | field :: fields, [], filled => do
      endsWell ending
      match (field :: fields).findIdx? (fun field => !field.mayEndBefore) with
      | none =>
          .ok filled
      | some missing =>
          .error
            (.invalidLength
              (record.fields.length - (fields.length + 1) + missing)
              record.expectedLength)
  | field :: fields, item :: items, filled => do
      let filled ← field.fill depth item filled
      record.fillItems depth ending fields items filled

/-- Decodes a record, starting from one without any field. -/
def Record.decode
    (record : Record σ)
    (blank : σ)
    (finish : σ → Except DecodeError α) : Decoder α
  | depth, .object members ending => do
      let inner ← enter depth
      let filled ← record.fillMembers inner members blank
      endsWell ending
      finish filled
  | depth, .list items ending => do
      let inner ← enter depth
      let filled ← record.fillItems inner ending record.fields items blank
      finish filled
  | depth, .keyless _ => do
      let _ ← enter depth
      .error (.fault .keyNotText)
  | _, node =>
      .error (node.mismatch record.name)

/-- A field that must have been given. -/
def required
    (name : String) : Option α → Except DecodeError α
  | some value =>
      .ok value
  | none =>
      .error (.missingField name)

/-- Decodes a whole document. -/
def Document.decode
    (document : Document)
    (decode : Decoder α) : Except DecodeError α := do
  let value ← decode nestingLimit document.root
  endsWell document.trailing
  .ok value

/-- Decodes the document that a text holds. -/
def decodeString
    (decode : Decoder α)
    (source : String) : Except DecodeError α :=
  (read source).decode decode

/-- Decodes a value of any kind. -/
def decodeAny : Decoder Json := Node.any

end QueryAgent.Json
