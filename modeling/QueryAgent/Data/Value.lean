import QueryAgent.Json.Decode
import QueryAgent.Text.Base64
import QueryAgent.Text.Utf8

namespace QueryAgent

/-!
# Cell values

What a cell of a result holds once a backend's own form has been left behind.
Dates and times are texts in ISO 8601 form.
-/

/-- The value of a cell. -/
inductive Value where
  | text (content : String)
  | integer (value : Int64)
  | float (value : Number.Binary64)
  | boolean (value : Bool)
  | date (content : String)
  | dateTime (content : String)
  | json (document : Json)
  | null
deriving Repr, Inhabited

namespace Value

/-- Bytes as the text they spell, or in base 64 when they spell none. -/
def ofBytes
    (bytes : List UInt8) : Value :=
  match Text.decodeUtf8 bytes with
  | .ok characters =>
      .text (String.ofList characters)
  | .error _ =>
      .text (String.ofList (Text.encodeBase64 bytes))

/-- The JSON value of a cell; a double that is no number has none and becomes null. -/
def toJson : Value → Json
  | .text content =>
      .text content
  | .date content =>
      .text content
  | .dateTime content =>
      .text content
  | .integer value =>
      .integer value.toInt
  | .float value =>
      if value.isFinite then
        .float value
      else
        .null
  | .boolean value =>
      .boolean value
  | .json document =>
      document
  | .null =>
      .null

/-- The cell that a JSON value denotes; integers past 64 bits with sign are doubles. -/
def ofJson : Json → Value
  | .null =>
      .null
  | .boolean value =>
      .boolean value
  | .integer value =>
      if value ≤ Int64.maxValue.toInt then
        .integer (Int64.ofInt value)
      else
        .float (Number.Binary64.ofInt value)
  | .float value =>
      .float value
  | .text content =>
      .text content
  | .list items =>
      .json (.list items)
  | .object members =>
      .json (.object members)

/-- Decodes a cell. -/
def decode : Json.Decoder Value := fun depth node =>
  (node.any depth).map ofJson

end Value

end QueryAgent
