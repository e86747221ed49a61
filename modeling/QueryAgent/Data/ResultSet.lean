import QueryAgent.Data.Value

namespace QueryAgent

/-!
# Result sets

Rows keyed by column, and how many there are.  Of two cells of one column the
last one stays.
-/

/-- The cells of a row in the order of their columns. -/
structure Row where
  cells : List (String × Value)
  ordered : EntriesOrdered cells

namespace Row

/-- The row of the given cells; of cells of one column the last one stays. -/
def ofCells
    (cells : List (String × Value)) : Row where
  cells := sortEntries cells
  ordered := sortEntries_ordered cells

/-- The cell of a column, none when the row has no such column. -/
def cell?
    (row : Row)
    (column : String) : Option Value :=
  findNamed? column row.cells

/-- The JSON object of a row. -/
def toJson
    (row : Row) : Json :=
  .object (row.cells.map (fun cell => (cell.1, cell.2.toJson)))

/-- Decodes a row from an object with any columns. -/
def decode : Json.Decoder Row := fun depth node =>
  (Json.decodeMap Value.decode depth node).map ofCells

end Row

/-- The rows that a query selected, with their number. -/
structure ResultSet where
  rows : List Row
  rowCount : Nat

namespace ResultSet

/-- The result set of the given rows. -/
def ofRows
    (rows : List Row) : ResultSet where
  rows := rows
  rowCount := rows.length

/-- The JSON value of a result set. -/
def toJson
    (results : ResultSet) : Json :=
  .object
    [("rows", .list (results.rows.map Row.toJson)),
      ("row_count", .integer results.rowCount)]

/-- The fields of a result set that have been given. -/
structure Draft where
  rows : Option (List Row)
  rowCount : Option Nat

/-- The fields of a result set in their order. -/
def record : Json.Record Draft where
  name := "struct ResultSet"
  fields :=
    [{ name := "rows"
       accepted := ["rows"]
       mayEndBefore := false
       isGiven := fun draft => draft.rows.isSome
       fill := fun depth node draft => do
         let rows ← Json.decodeList Row.decode depth node
         .ok { draft with rows := some rows } },
     { name := "row_count"
       accepted := ["row_count"]
       mayEndBefore := false
       isGiven := fun draft => draft.rowCount.isSome
       fill := fun depth node draft => do
         let rowCount ← Json.decodeNatural "usize" 64 depth node
         .ok { draft with rowCount := some rowCount } }]

/-- Decodes a result set; the count is taken as it is given. -/
def decode : Json.Decoder ResultSet :=
  record.decode ⟨none, none⟩ fun draft => do
    let rows ← Json.required "rows" draft.rows
    let rowCount ← Json.required "row_count" draft.rowCount
    .ok ⟨rows, rowCount⟩

end ResultSet

end QueryAgent
