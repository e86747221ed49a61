import QueryAgent.Error
import QueryAgent.Query.Basic
import QueryAgent.Sql.Dialect
import QueryAgent.Text.Blank

namespace QueryAgent.Sql

/-!
# Statements

A query becomes pieces of SQL with the places of its parameters between them,
and the pieces become a text with markers and a list of parameters.  Names of
tables and columns are written as they are; values are only ever bound.
-/

/-- A part of a statement: text, or the place of a parameter. -/
inductive Piece where
  | text (content : String)
  | bound (value : Param)
deriving Repr, Inhabited

/-- The text of a statement and the parameters bound to its markers. -/
structure Statement where
  text : String
  parameters : List Param
deriving Repr, Inhabited

/-- Why a query cannot be compiled. -/
inductive CompileError where
  | tableRequired
  | unsupportedOperator (name : String)
  | valueRequired (operator : Operator) (column : String)
  | listRequired (column : String)
deriving Repr, DecidableEq

/-- The error that is reported for a query that cannot be compiled. -/
def CompileError.toAgentError : CompileError → AgentError
  | .tableRequired =>
      .query (.invalidQuery "table is required")
  | .unsupportedOperator name =>
      .query (.unsupportedOperator name)
  | .valueRequired operator column =>
      .query (.invalidQuery
        ("value is required for '" ++ operator.name ++ "' on column '" ++ column ++ "'"))
  | .listRequired column =>
      .query (.invalidQuery
        ("'in' on column '" ++ column ++ "' requires an array value"))

/-- Parts with a text between each two. -/
def joined
    (between : String) : List (List Piece) → List Piece
  | [] =>
      []
  | [part] =>
      part
  | part :: next :: rest =>
      part ++ .text between :: joined between (next :: rest)

/-- The value that an operator compares with. -/
def requiredValue
    (condition : Condition) : Except CompileError Param :=
  match condition.value with
  | none =>
      .error (.valueRequired condition.operator condition.column)
  | some .null =>
      .error (.valueRequired condition.operator condition.column)
  | some value =>
      .ok value

/-- A comparison of a column with one bound value. -/
def comparison
    (condition : Condition)
    (sign : String) : Except CompileError (List Piece) := do
  let value ← requiredValue condition
  .ok [.text (condition.column ++ " " ++ sign ++ " "), .bound value]

/-- Membership of a column in a list, which is bound whole or item by item. -/
def membership
    (policy : ListPolicy)
    (condition : Condition) : Except CompileError (List Piece) := do
  match ← requiredValue condition with
  | .list items =>
      match policy, items with
      | .bindArray, items =>
          .ok [.text (condition.column ++ " = ANY("), .bound (.list items), .text ")"]
      | .expand, [] =>
          .ok [.text "1 = 0"]
      | .expand, items =>
          .ok
            (.text (condition.column ++ " IN (")
              :: joined ", " (items.map (fun item => [Piece.bound item]))
              ++ [.text ")"])
  | _ =>
      .error (.listRequired condition.column)

/-- The pieces of one condition. -/
def conditionPieces
    (policy : ListPolicy)
    (condition : Condition) : Except CompileError (List Piece) :=
  match condition.operator with
  | .equal => comparison condition "="
  | .notEqual => comparison condition "!="
  | .greaterThan => comparison condition ">"
  | .greaterOrEqual => comparison condition ">="
  | .lessThan => comparison condition "<"
  | .lessOrEqual => comparison condition "<="
  | .like => comparison condition "LIKE"
  | .isNull => .ok [.text (condition.column ++ " IS NULL")]
  | .isNotNull => .ok [.text (condition.column ++ " IS NOT NULL")]
  | .isIn => membership policy condition
  | .unsupported name => .error (.unsupportedOperator name)

/-- The pieces of each condition. -/
def conditionList
    (policy : ListPolicy) :
    List Condition → Except CompileError (List (List Piece))
  | [] =>
      .ok []
  | condition :: rest => do
      let pieces ← conditionPieces policy condition
      let others ← conditionList policy rest
      .ok (pieces :: others)

/-- A clause of conditions, nothing when there are none. -/
def clausePieces
    (policy : ListPolicy)
    (keyword : String)
    (conditions : List Condition) : Except CompileError (List Piece) := do
  match conditions with
  | [] =>
      .ok []
  | conditions =>
      let parts ← conditionList policy conditions
      .ok (.text keyword :: joined " AND " parts)

/-- What is selected; all columns when nothing is named. -/
def selection
    (query : Query) : String :=
  (Text.nonBlank? query.projection).getD "*"

/-- The table with its schema, if it has one. -/
def source
    (query : Query) : String :=
  match Text.nonBlank? query.schema with
  | some schema =>
      schema ++ "." ++ query.table
  | none =>
      query.table

/-- The columns grouped by, nothing when there are none. -/
def groupPieces
    (groupBy : List String) : List Piece :=
  match groupBy with
  | [] =>
      []
  | columns =>
      [.text (" GROUP BY " ++ ", ".intercalate columns)]

/-- The limit, nothing when it does not count. -/
def limitPieces
    (query : Query) : List Piece :=
  match query.effectiveLimit with
  | some limit =>
      [.text " LIMIT ", .bound (.integer limit)]
  | none =>
      []

/-- The pieces of a whole query. -/
def queryPieces
    (policy : ListPolicy)
    (query : Query) : Except CompileError (List Piece) :=
  if Text.allBlank query.table then
    .error .tableRequired
  else do
    let conditions ← clausePieces policy " WHERE " query.conditions
    let having ← clausePieces policy " HAVING " query.having
    .ok
      (.text ("SELECT " ++ selection query ++ " FROM " ++ source query)
        :: conditions ++ groupPieces query.groupBy ++ having ++ limitPieces query)

/-- The text of pieces, with markers numbered from the given number. -/
def renderFrom
    (style : PlaceholderStyle)
    (number : Nat) : List Piece → String
  | [] =>
      ""
  | .text content :: rest =>
      content ++ renderFrom style number rest
  | .bound _ :: rest =>
      style.marker number ++ renderFrom style (number + 1) rest

/-- The values at the places of pieces. -/
def boundValues : List Piece → List Param
  | [] =>
      []
  | .text _ :: rest =>
      boundValues rest
  | .bound value :: rest =>
      value :: boundValues rest

/-- The statement of pieces. -/
def Statement.ofPieces
    (style : PlaceholderStyle)
    (pieces : List Piece) : Statement where
  text := renderFrom style 1 pieces
  parameters := boundValues pieces

/-- Compiles a query to a statement of a dialect. -/
def Dialect.compile
    (dialect : Dialect)
    (query : Query) : Except CompileError Statement :=
  (queryPieces dialect.listPolicy query).map
    (Statement.ofPieces dialect.placeholders)

/-- Compiles a query, reporting failure as an error of the agent. -/
def Dialect.statement
    (dialect : Dialect)
    (query : Query) : Result Statement :=
  (dialect.compile query).mapError CompileError.toAgentError

/-- The JSON value of a statement. -/
def Statement.toJson
    (statement : Statement) : Json :=
  .object
    [("text", .text statement.text),
      ("parameters", .list (Param.toItems statement.parameters))]

end QueryAgent.Sql
