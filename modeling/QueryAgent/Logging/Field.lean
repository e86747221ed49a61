import QueryAgent.Logging.Pattern
import QueryAgent.Number.Plain
import QueryAgent.Text.Split

namespace QueryAgent.Logging

/-!
# Fields of filters

A directive may ask for a field, and for the value that it has.
-/

/-- What a field is compared with: a value of the first kind that its text fits. -/
inductive FieldValue where
  | truth (value : Bool)
  | natural (value : Nat)
  | integer (value : Int)
  | double (value : Number.Binary64)
  | pattern (content : String)
deriving Repr, DecidableEq

namespace FieldValue

/-- The value of an integer or of a double. -/
def ofNumber?
    (content : String) : Option FieldValue :=
  match Text.readNaturalBelow? 64 content, Text.readIntegerWithin? 64 content with
  | some value, _ =>
      some (.natural value)
  | none, some value =>
      some (.integer value)
  | none, none =>
      (Number.readPlain? content.toList).map .double

/-- Reads a value; what is none of the others has to be a pattern. -/
def read
    (content : List Char) : Except PatternFault FieldValue :=
  let written := String.ofList content
  match written with
  | "true" =>
      .ok (.truth true)
  | "false" =>
      .ok (.truth false)
  | _ =>
      match ofNumber? written with
      | some value =>
          .ok value
      | none =>
          (Pattern.check content).map fun _ => .pattern written

/-- A value as it is written, numbers in their plain spelling. -/
def written : FieldValue → String
  | .truth value => if value then "true" else "false"
  | .natural value => Text.decimal value
  | .integer value => Text.integer value
  | .double value => Number.plainText value
  | .pattern content => content

/-- Whether two values are the same; zeros of either sign are. -/
def isSame : FieldValue → FieldValue → Bool
  | .double first, .double second =>
      (first.isNaN && second.isNaN) || first.compare? second = some .eq
  | first, second =>
      first = second

end FieldValue

/-- A field by its name, and by its value when one is asked for. -/
structure Field where
  name : String
  value : Option FieldValue
deriving Repr, DecidableEq

namespace Field

/-- Reads a field; what follows a second equals sign is left out. -/
def read
    (content : List Char) : Except PatternFault Field :=
  match Text.splitAll (· == '=') content with
  | name :: value :: _ =>
      (FieldValue.read value).map fun value => ⟨String.ofList name, some value⟩
  | _ =>
      .ok ⟨String.ofList content, none⟩

/-- A field as it is written. -/
def written
    (field : Field) : String :=
  match field.value with
  | some value =>
      field.name ++ "=" ++ value.written
  | none =>
      field.name

/-- Whether two fields have one name and ask for the same value. -/
def isSame
    (first second : Field) : Bool :=
  first.name = second.name
    && match first.value, second.value with
      | some value, some other => value.isSame other
      | none, none => true
      | _, _ => false

end Field

end QueryAgent.Logging
