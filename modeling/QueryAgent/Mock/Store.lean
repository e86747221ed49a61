import QueryAgent.Error
import QueryAgent.Mock.Comparison
import QueryAgent.Text.Blank

namespace QueryAgent.Mock

/-!
# Tables in memory

Tables by name, and the selection that a query makes from one of them: the rows
that satisfy every condition, as many as the limit allows, each cut down to the
columns asked for.
-/

/-- Tables in the order of their names. -/
abbrev Tables :=
  List (String × List Row)

/-- Adds a table given by column names and rows of cells in their order. -/
def Tables.add
    (tables : Tables)
    (name : String)
    (columns : List String)
    (rows : List (List Value)) : Tables :=
  insertEntry name (rows.map (fun cells => Row.ofCells (columns.zip cells))) tables

/-- The tables that are there from the start. -/
def Tables.initial : Tables :=
  let users := Tables.add [] "users" ["id", "name", "email", "age", "active"]
    [[.integer 1, .text "Alice Johnson", .text "alice@example.com", .integer 30, .boolean true],
      [.integer 2, .text "Bob Smith", .text "bob@example.com", .integer 25, .boolean true],
      [.integer 3, .text "Charlie Brown", .null, .integer 35, .boolean false]]
  users.add "products" ["id", "name", "price", "category"]
    [[.integer 1, .text "Laptop",
        .float (Number.Binary64.ofDecimal false 99999 (-2)), .text "Electronics"],
      [.integer 2, .text "Coffee Mug",
        .float (Number.Binary64.ofDecimal false 125 (-1)), .text "Kitchen"]]

/-- The characters up to each comma. -/
def splitAtCommas : List Char → List (List Char)
  | [] =>
      [[]]
  | character :: rest =>
      if character = ',' then
        [] :: splitAtCommas rest
      else
        match splitAtCommas rest with
        | [] =>
            [[character]]
        | part :: parts =>
            (character :: part) :: parts

/-- The columns that a query asks for, none when it asks for all. -/
def projectedColumns?
    (query : Query) : Option (List String) :=
  match query.projection with
  | none =>
      none
  | some projection =>
      let trimmed := Text.trimList projection.toList
      if trimmed = ['*'] then
        none
      else
        some ((splitAtCommas trimmed).map
          (fun column => String.ofList (Text.trimList column)))

/-- The cells of the columns asked for, or the first column that is not there. -/
def pickCells
    (row : Row) : List String → Except String (List (String × Value))
  | [] =>
      .ok []
  | column :: rest => do
      match row.cell? column with
      | none =>
          .error column
      | some cell =>
          let cells ← pickCells row rest
          .ok ((column, cell) :: cells)

/-- A row cut down to the columns asked for. -/
def projectRow
    (columns : Option (List String))
    (row : Row) : Except String Row :=
  match columns with
  | none =>
      .ok row
  | some columns =>
      (pickCells row columns).map Row.ofCells

/-- Each row cut down to the columns asked for. -/
def projectRows
    (columns : Option (List String)) : List Row → Except String (List Row)
  | [] =>
      .ok []
  | row :: rest => do
      let row ← projectRow columns row
      let rows ← projectRows columns rest
      .ok (row :: rows)

/-- As many rows as a limit allows. -/
def limitRows
    (limit : Option Int64)
    (rows : List Row) : List Row :=
  match limit with
  | none =>
      rows
  | some limit =>
      rows.take limit.toInt.toNat

/-- The rows that satisfy every condition, as many as the limit allows. -/
def selectRows
    (query : Query)
    (rows : List Row) : List Row :=
  limitRows query.effectiveLimit
    (rows.filter (fun row => query.conditions.all (satisfies row)))

/-- Why a selection fails. -/
inductive SelectError where
  | noSuchTable (name : String)
  | groupingUnsupported
  | noSuchColumn (name : String)
deriving Repr, DecidableEq

/-- The error that is reported for a selection that fails. -/
def SelectError.toAgentError : SelectError → AgentError
  | .noSuchTable name =>
      .connector (.executionFailed ("relation \"" ++ name ++ "\" does not exist"))
  | .groupingUnsupported =>
      .connector (.unsupportedOperation "grouping is not supported by MockConnector")
  | .noSuchColumn name =>
      .connector (.executionFailed ("column \"" ++ name ++ "\" does not exist"))

/-- The rows that a query selects. -/
def Tables.select
    (tables : Tables)
    (query : Query) : Except SelectError ResultSet :=
  match findNamed? query.table tables with
  | none =>
      .error (.noSuchTable query.table)
  | some rows =>
      if !query.groupBy.isEmpty || !query.having.isEmpty then
        .error .groupingUnsupported
      else
        match projectRows (projectedColumns? query) (selectRows query rows) with
        | .error column =>
            .error (.noSuchColumn column)
        | .ok rows =>
            .ok (ResultSet.ofRows rows)

end QueryAgent.Mock
