import QueryAgent.Json.Decode

namespace QueryAgent

/-!
# Parameters

The values that a query binds.  In JSON a parameter is a value without objects.
-/

/-- A value bound to a place of a statement. -/
inductive Param where
  | null
  | boolean (value : Bool)
  | integer (value : Int64)
  | float (value : Number.Binary64)
  | text (value : String)
  | list (items : List Param)
deriving Repr, Inhabited

namespace Param

/-- A list, which some places do not take. -/
def isList : Param → Bool
  | .list _ => true
  | _ => false

/-- The absent value. -/
def isNull : Param → Bool
  | .null => true
  | _ => false

mutual

/-- The parameter that a JSON value denotes; integers past 64 bits with sign are doubles. -/
def ofJson? : Json → Option Param
  | .null =>
      some .null
  | .boolean value =>
      some (.boolean value)
  | .integer value =>
      if value ≤ Int64.maxValue.toInt then
        some (.integer (Int64.ofInt value))
      else
        some (.float (Number.Binary64.ofInt value))
  | .float value =>
      some (.float value)
  | .text value =>
      some (.text value)
  | .list items =>
      (ofItems? items).map .list
  | .object _ =>
      none

/-- The parameters that JSON items denote, none when one denotes none. -/
def ofItems? : List Json → Option (List Param)
  | [] =>
      some []
  | item :: rest =>
      match ofJson? item, ofItems? rest with
      | some param, some params =>
          some (param :: params)
      | _, _ =>
          none

end

mutual

/-- The JSON value of a parameter. -/
def toJson : Param → Json
  | .null =>
      .null
  | .boolean value =>
      .boolean value
  | .integer value =>
      .integer value.toInt
  | .float value =>
      .float value
  | .text value =>
      .text value
  | .list items =>
      .list (toItems items)

/-- The JSON values of parameters. -/
def toItems : List Param → List Json
  | [] =>
      []
  | param :: rest =>
      toJson param :: toItems rest

end

/-- Decodes a parameter. -/
def decode : Json.Decoder Param := fun depth node => do
  let json ← node.any depth
  match ofJson? json with
  | some param =>
      .ok param
  | none =>
      .error (.noVariant "SqlParam")

end Param

end QueryAgent
