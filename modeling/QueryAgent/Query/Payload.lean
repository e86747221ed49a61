import QueryAgent.Query.Param

namespace QueryAgent

/-!
# Query descriptions

The shape of a query description in JSON, before any of its rules are checked.
Some fields go by two names, and null stands for an absent field.
-/

/-- A condition as it is described. -/
structure PayloadCondition where
  column : String
  operator : Option String
  value : Option Param
deriving Repr

/-- A query as it is described. -/
structure Payload where
  table : String
  schema : Option String
  projection : Option String
  conditions : List PayloadCondition
  groupBy : List String
  having : List PayloadCondition
  limit : Option Int64
deriving Repr

namespace PayloadCondition

/-- The fields of a condition that have been given. -/
structure Draft where
  column : Option String
  operator : Option (Option String)
  value : Option (Option Param)

/-- The fields of a condition in their order. -/
def record : Json.Record Draft where
  name := "struct RawCondition"
  fields :=
    [{ name := "column"
       accepted := ["column"]
       mayEndBefore := true
       isGiven := fun draft => draft.column.isSome
       fill := fun depth node draft => do
         let column ← Json.decodeText depth node
         .ok { draft with column := some column } },
     { name := "type"
       accepted := ["type", "operator"]
       mayEndBefore := true
       isGiven := fun draft => draft.operator.isSome
       fill := fun depth node draft => do
         let operator ← Json.decodeOptional Json.decodeText depth node
         .ok { draft with operator := some operator } },
     { name := "value"
       accepted := ["value"]
       mayEndBefore := true
       isGiven := fun draft => draft.value.isSome
       fill := fun depth node draft => do
         let value ← Json.decodeOptional Param.decode depth node
         .ok { draft with value := some value } }]

/-- Decodes a condition; every field may be absent. -/
def decode : Json.Decoder PayloadCondition :=
  record.decode ⟨none, none, none⟩ fun draft =>
    .ok
      { column := draft.column.getD ""
        operator := draft.operator.join
        value := draft.value.join }

end PayloadCondition

namespace Payload

/-- The fields of a query that have been given. -/
structure Draft where
  table : Option String
  schema : Option (Option String)
  projection : Option (Option String)
  conditions : Option (Option (List PayloadCondition))
  groupBy : Option (Option (List String))
  having : Option (Option (List PayloadCondition))
  limit : Option (Option Int64)

/-- The fields of a query in their order. -/
def record : Json.Record Draft where
  name := "struct RawQuery"
  fields :=
    [{ name := "table"
       accepted := ["table"]
       mayEndBefore := true
       isGiven := fun draft => draft.table.isSome
       fill := fun depth node draft => do
         let table ← Json.decodeText depth node
         .ok { draft with table := some table } },
     { name := "schema_name"
       accepted := ["schema_name", "schema"]
       mayEndBefore := true
       isGiven := fun draft => draft.schema.isSome
       fill := fun depth node draft => do
         let schema ← Json.decodeOptional Json.decodeText depth node
         .ok { draft with schema := some schema } },
     { name := "select"
       accepted := ["select", "projection"]
       mayEndBefore := true
       isGiven := fun draft => draft.projection.isSome
       fill := fun depth node draft => do
         let projection ← Json.decodeOptional Json.decodeText depth node
         .ok { draft with projection := some projection } },
     { name := "conditions"
       accepted := ["conditions"]
       mayEndBefore := true
       isGiven := fun draft => draft.conditions.isSome
       fill := fun depth node draft => do
         let conditions ←
           Json.decodeOptional (Json.decodeList PayloadCondition.decode) depth node
         .ok { draft with conditions := some conditions } },
     { name := "group_by"
       accepted := ["group_by", "groupBy"]
       mayEndBefore := true
       isGiven := fun draft => draft.groupBy.isSome
       fill := fun depth node draft => do
         let groupBy ← Json.decodeOptional (Json.decodeList Json.decodeText) depth node
         .ok { draft with groupBy := some groupBy } },
     { name := "having"
       accepted := ["having"]
       mayEndBefore := true
       isGiven := fun draft => draft.having.isSome
       fill := fun depth node draft => do
         let having ←
           Json.decodeOptional (Json.decodeList PayloadCondition.decode) depth node
         .ok { draft with having := some having } },
     { name := "limit"
       accepted := ["limit"]
       mayEndBefore := true
       isGiven := fun draft => draft.limit.isSome
       fill := fun depth node draft => do
         let limit ← Json.decodeOptional Json.decodeInt64 depth node
         .ok { draft with limit := some limit } }]

/-- Decodes a query description; every field may be absent. -/
def decode : Json.Decoder Payload :=
  record.decode ⟨none, none, none, none, none, none, none⟩ fun draft =>
    .ok
      { table := draft.table.getD ""
        schema := draft.schema.join
        projection := draft.projection.join
        conditions := draft.conditions.join.getD []
        groupBy := draft.groupBy.join.getD []
        having := draft.having.join.getD []
        limit := draft.limit.join }

end Payload

end QueryAgent
