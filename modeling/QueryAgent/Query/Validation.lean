import QueryAgent.Error
import QueryAgent.Query.Basic
import QueryAgent.Query.Payload
import QueryAgent.Text.Blank

namespace QueryAgent

/-!
# Valid queries

The rules a description must keep to be a query.  They are checked in one
order: the table, each condition, each condition on groups, each column grouped
by; within a condition the column, the operator, the value.
-/

/-- The two lists of conditions. -/
inductive Clause where
  | condition
  | having
deriving Repr, DecidableEq

/-- The name of a list of conditions. -/
def Clause.name : Clause → String
  | .condition => "condition"
  | .having => "having"

/-- The rule that a condition breaks. -/
inductive ConditionFault where
  | columnRequired
  | typeRequired
  | valueRequired (operator : Operator)
  | scalarItemsRequired
  | listRequired
  | scalarRequired (operator : Operator)
deriving Repr, DecidableEq

/-- The words of a rule that a condition breaks. -/
def ConditionFault.message : ConditionFault → String
  | .columnRequired =>
      "column is required"
  | .typeRequired =>
      "type is required"
  | .valueRequired operator =>
      "value is required for '" ++ operator.name ++ "'"
  | .scalarItemsRequired =>
      "'in' values must be scalars"
  | .listRequired =>
      "'in' requires an array value"
  | .scalarRequired operator =>
      "'" ++ operator.name ++ "' requires a scalar value"

/-- The rule that a description breaks, and where. -/
inductive Violation where
  | tableRequired
  | inCondition (clause : Clause) (index : Nat) (fault : ConditionFault)
  | groupColumnRequired (index : Nat)
deriving Repr, DecidableEq

/-- The words of a violation. -/
def Violation.message : Violation → String
  | .tableRequired =>
      "table is required"
  | .inCondition clause index fault =>
      clause.name ++ "[" ++ Text.decimal index ++ "]: " ++ fault.message
  | .groupColumnRequired index =>
      "group_by[" ++ Text.decimal index ++ "]: column is required"

/-- The operator that a condition names, none when the name is blank. -/
def PayloadCondition.operator?
    (condition : PayloadCondition) : Option Operator :=
  match condition.operator with
  | none =>
      none
  | some name =>
      let trimmed := Text.trim name
      if trimmed.isEmpty then
        none
      else
        some (Operator.ofName trimmed)

/-- The rule that a value breaks for an operator, none when it is right. -/
def valueFault?
    (operator : Operator)
    (value : Option Param) : Option ConditionFault :=
  if operator.takesValue then
    match operator, value with
    | _, none =>
        some (.valueRequired operator)
    | .isIn, some (.list items) =>
        if items.any Param.isList then
          some .scalarItemsRequired
        else
          none
    | .isIn, some _ =>
        some .listRequired
    | _, some (.list _) =>
        some (.scalarRequired operator)
    | _, some _ =>
        none
  else
    none

/-- The condition that a description of one denotes. -/
def PayloadCondition.validate
    (condition : PayloadCondition) : Except ConditionFault Condition :=
  if Text.allBlank condition.column then
    .error .columnRequired
  else
    match condition.operator? with
    | none =>
        .error .typeRequired
    | some operator =>
        let value := condition.value.filter (fun value => !value.isNull)
        match valueFault? operator value with
        | some fault =>
            .error fault
        | none =>
            .ok ⟨condition.column, operator, value⟩

/-- The conditions of a clause, checked in order from an index. -/
def validateConditions
    (clause : Clause)
    (index : Nat) :
    List PayloadCondition → Except Violation (List Condition)
  | [] =>
      .ok []
  | condition :: rest =>
      match condition.validate with
      | .error fault =>
          .error (.inCondition clause index fault)
      | .ok condition =>
          match validateConditions clause (index + 1) rest with
          | .error violation =>
              .error violation
          | .ok conditions =>
              .ok (condition :: conditions)

/-- The query that a description denotes. -/
def Payload.validate
    (payload : Payload) : Except Violation Query :=
  if Text.allBlank payload.table then
    .error .tableRequired
  else do
    let conditions ← validateConditions .condition 0 payload.conditions
    let having ← validateConditions .having 0 payload.having
    match payload.groupBy.findIdx? Text.allBlank with
    | some index =>
        .error (.groupColumnRequired index)
    | none =>
        .ok
          { table := payload.table
            schema := Text.nonBlank? payload.schema
            projection := Text.nonBlank? payload.projection
            conditions := conditions
            groupBy := payload.groupBy
            having := having
            limit := payload.limit }

/-- Why a text is not a query. -/
inductive ParseError where
  | malformed (cause : Json.DecodeError)
  | invalid (violation : Violation)
deriving Repr, DecidableEq

/-- Reads a query from the text of its description. -/
def Query.parse
    (payload : String) : Except ParseError Query :=
  match Json.decodeString Payload.decode payload with
  | .error cause =>
      .error (.malformed cause)
  | .ok payload =>
      match payload.validate with
      | .error violation =>
          .error (.invalid violation)
      | .ok query =>
          .ok query

/-- The error that is reported for a text that is not a query. -/
def ParseError.toAgentError : ParseError → AgentError
  | .malformed cause =>
      .query (.malformedPayload cause.message)
  | .invalid violation =>
      .query (.invalidQuery violation.message)

/-- Reads a query, reporting failure as an error of the agent. -/
def Query.ofPayload
    (payload : String) : Result Query :=
  (Query.parse payload).mapError ParseError.toAgentError

end QueryAgent
