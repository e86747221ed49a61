import QueryAgent.Data.ResultSet
import QueryAgent.Proofs.Json.Values

namespace QueryAgent

/-!
# Result sets read back

The text of a result set is decoded to the same rows in the same order, under
the same columns and with the same count, given that its finite doubles come back
from their own texts.  A text does not tell a date from another text, nor a JSON
scalar from a cell that holds the scalar, and it has no word for a double that is
no number: such cells come back as what the text says, and all others come back
as they were.
-/

namespace Value

/-- A cell that a backend can produce. -/
def Representable : Value → Prop
  | .json document =>
      document.Representable
  | _ =>
      True

/-- A cell that its text tells apart from all others. -/
inductive Lasting : Value → Prop where
  | text
      (content : String) :
      Lasting (.text content)
  | integer
      (value : Int64) :
      Lasting (.integer value)
  | float
      {value : Number.Binary64}
      (finite : value.isFinite = true) :
      Lasting (.float value)
  | boolean
      (value : Bool) :
      Lasting (.boolean value)
  | list
      (items : List Json) :
      Lasting (.json (.list items))
  | object
      (members : List (String × Json)) :
      Lasting (.json (.object members))
  | null :
      Lasting .null

/-- Which cell stands for another one once that has been written. -/
inductive ReplacedBy : Value → Value → Prop where
  | date
      (content : String) :
      ReplacedBy (.date content) (.text content)
  | dateTime
      (content : String) :
      ReplacedBy (.dateTime content) (.text content)
  | noNumber
      {value : Number.Binary64}
      (infinite : value.isFinite = false) :
      ReplacedBy (.float value) .null
  | jsonNull :
      ReplacedBy (.json .null) .null
  | jsonBoolean
      (value : Bool) :
      ReplacedBy (.json (.boolean value)) (.boolean value)
  | jsonInteger
      (value : Int64) :
      ReplacedBy (.json (.integer value.toInt)) (.integer value)
  | jsonGreatInteger
      {value : Int}
      (great : Int64.maxValue.toInt < value) :
      ReplacedBy (.json (.integer value)) (.float (Number.Binary64.ofInt value))
  | jsonFloat
      (value : Number.Binary64) :
      ReplacedBy (.json (.float value)) (.float value)
  | jsonText
      (content : String) :
      ReplacedBy (.json (.text content)) (.text content)

/-- What is put in place of a cell is another cell. -/
theorem ReplacedBy.ne
    {before after : Value}
    (replaced : before.ReplacedBy after) :
    after ≠ before := by
  cases replaced <;> simp

/-- What a cell is written as can be read. -/
theorem toJson_representable
    {cell : Value}
    (representable : cell.Representable) :
    cell.toJson.Representable := by
  cases cell with
  | text content =>
      exact .text content
  | date content =>
      exact .text content
  | dateTime content =>
      exact .text content
  | integer value =>
      exact Json.representable_toInt value
  | float value =>
      rw [toJson]
      split
      next finite =>
          exact .float finite
      next =>
          exact .null
  | boolean value =>
      exact .boolean value
  | json document =>
      exact representable
  | null =>
      exact .null

theorem ofJson_toInt
    (value : Int64) :
    ofJson (.integer value.toInt) = .integer value := by
  have fits : value.toInt ≤ Int64.maxValue.toInt :=
    Int.le_of_lt_add_one value.toInt_lt
  rw [ofJson, if_pos fits, Int64.ofInt_toInt]

/-- A lasting cell is the cell that its text denotes. -/
theorem Lasting.ofJson_toJson
    {cell : Value}
    (lasting : cell.Lasting) :
    ofJson cell.toJson = cell := by
  cases lasting with
  | integer value =>
      exact ofJson_toInt value
  | float finite =>
      rw [toJson, if_pos finite, ofJson]
  | text | boolean | list | object | null =>
      rfl

/-- The scalar in a JSON cell takes the place of the cell. -/
theorem replacedBy_of_integer
    {value : Int}
    (least : -(Json.leastMagnitude : Int) ≤ value) :
    ReplacedBy (.json (.integer value)) (ofJson (.integer value)) := by
  rw [ofJson]
  split
  next fits =>
      have unchanged : (Int64.ofInt value).toInt = value :=
        Int64.toInt_ofInt_of_le least (Int.lt_add_one_of_le fits)
      have replaced := ReplacedBy.jsonInteger (Int64.ofInt value)
      rwa [unchanged] at replaced
  next great =>
      exact .jsonGreatInteger (Int.not_le.mp great)

/-- A cell lasts, or the cell that its text denotes takes its place. -/
theorem lasting_or_replaced
    {cell : Value}
    (representable : cell.Representable) :
    cell.Lasting ∨ cell.ReplacedBy (ofJson cell.toJson) := by
  cases cell with
  | text content =>
      exact .inl (.text content)
  | integer value =>
      exact .inl (.integer value)
  | float value =>
      rw [toJson]
      split
      next finite =>
          exact .inl (.float finite)
      next infinite =>
          exact .inr (.noNumber (Bool.eq_false_iff.mpr infinite))
  | boolean value =>
      exact .inl (.boolean value)
  | date content =>
      exact .inr (.date content)
  | dateTime content =>
      exact .inr (.dateTime content)
  | json document =>
      cases representable with
      | null =>
          exact .inr .jsonNull
      | boolean value =>
          exact .inr (.jsonBoolean value)
      | integer least greatest =>
          exact .inr (replacedBy_of_integer least)
      | float finite =>
          exact .inr (.jsonFloat _)
      | text value =>
          exact .inr (.jsonText value)
      | list parts =>
          exact .inl (.list _)
      | object ordered parts =>
          exact .inl (.object _)
  | null =>
      exact .inl .null

/-- A cell is decoded from a document as the cell that the document denotes. -/
theorem decode_node
    {document : Json}
    (representable : document.Representable)
    (legible : document.Legible)
    {depth : Nat}
    (shallow : document.nesting < depth) :
    decode depth document.node = .ok (ofJson document) := by
  rw [decode, Json.any_node representable legible shallow]
  rfl

end Value

namespace Row

/-- A row that a backend can produce. -/
def Representable
    (row : Row) : Prop :=
  ∀ cell ∈ row.cells, cell.2.Representable

/-- The row that stands for another one once that has been written. -/
def reread
    (row : Row) : Row where
  cells := row.cells.map (fun cell => (cell.1, Value.ofJson cell.2.toJson))
  ordered := row.ordered.map (fun cell => Value.ofJson cell.toJson)

theorem ofCells_cells
    (row : Row) :
    ofCells row.cells = row := by
  obtain ⟨cells, ordered⟩ := row
  simp only [ofCells, sortEntries_of_ordered ordered]

/-- A row of lasting cells stands for itself. -/
theorem reread_of_lasting
    {row : Row}
    (lasting : ∀ cell ∈ row.cells, cell.2.Lasting) :
    row.reread = row := by
  obtain ⟨cells, ordered⟩ := row
  have unchanged :
      cells.map (fun cell => (cell.1, Value.ofJson cell.2.toJson)) = cells := by
    calc
      cells.map (fun cell => (cell.1, Value.ofJson cell.2.toJson)) = cells.map id :=
        List.map_congr_left fun cell member => by
          rw [(lasting cell member).ofJson_toJson]
          rfl
      _ = cells :=
        List.map_id cells
  simp only [reread, unchanged]

/-- A row is decoded cell by cell. -/
theorem decode_node
    {row : Row}
    (representable : row.Representable)
    (legible : row.toJson.Legible)
    {depth : Nat}
    (shallow : row.toJson.nesting < depth) :
    decode depth row.toJson.node = .ok row.reread := by
  rw [toJson, Json.legible_object_iff] at legible
  rw [toJson, Json.nesting] at shallow
  obtain ⟨depth, rfl⟩ : ∃ inner, depth = inner + 2 :=
    ⟨depth - 2, by omega⟩
  have decodes :
      ∀ member ∈ row.cells.map (fun cell => (cell.1, cell.2.toJson)),
        Value.decode (depth + 1) member.2.node = .ok (Value.ofJson member.2) := by
    intro member inRow
    have shallower : member.2.nesting < depth + 1 := by
      have := Json.nesting_le_nestingOfMembers inRow
      omega
    have legibleCell := legible member inRow
    obtain ⟨cell, inCells, rfl⟩ := List.mem_map.mp inRow
    exact
      Value.decode_node (Value.toJson_representable (representable cell inCells)) legibleCell
        shallower
  have decoded :
      Json.decodeMap Value.decode (depth + 2) row.toJson.node = .ok row.reread.cells := by
    rw [toJson, Json.node, Json.decodeMap_memberNodes (row.ordered.map Value.toJson) decodes,
      List.map_map]
    rfl
  rw [decode, decoded, Except.map, ofCells_cells]

end Row

namespace ResultSet

/-- A result set that a backend can produce. -/
structure Representable
    (results : ResultSet) : Prop where
  rows : ∀ row ∈ results.rows, row.Representable
  rowCount : results.rowCount < 2 ^ 64

/-- The result set that stands for another one once that has been written. -/
def reread
    (results : ResultSet) : ResultSet where
  rows := results.rows.map Row.reread
  rowCount := results.rowCount

/-- A result set of lasting cells stands for itself. -/
theorem reread_of_lasting
    {results : ResultSet}
    (lasting : ∀ row ∈ results.rows, ∀ cell ∈ row.cells, cell.2.Lasting) :
    results.reread = results := by
  obtain ⟨rows, rowCount⟩ := results
  have unchanged : rows.map Row.reread = rows := by
    calc
      rows.map Row.reread = rows.map id :=
        List.map_congr_left fun row member => Row.reread_of_lasting (lasting row member)
      _ = rows :=
        List.map_id rows
  simp only [reread, unchanged]

/-- A result set is decoded row by row. -/
theorem decode_node
    {results : ResultSet}
    (representable : results.Representable)
    (legible : results.toJson.Legible)
    {depth : Nat}
    (shallow : results.toJson.nesting < depth) :
    decode depth results.toJson.node = .ok results.reread := by
  have legibleRows : ∀ row ∈ results.rows.map Row.toJson, row.Legible := by
    rw [toJson, Json.legible_object_iff] at legible
    exact Json.legible_list_iff.mp (legible ("rows", _) (by simp))
  have inRows : (Json.list (results.rows.map Row.toJson)).nesting + 1 < depth := by
    simp only [toJson, Json.nesting, Json.nestingOfMembers] at shallow ⊢
    omega
  rw [Json.nesting] at inRows
  obtain ⟨depth, rfl⟩ : ∃ inner, depth = inner + 3 :=
    ⟨depth - 3, by omega⟩
  have decodes :
      ∀ row ∈ results.rows,
        Row.decode (depth + 1) row.toJson.node = .ok row.reread := by
    intro row member
    have shallower : row.toJson.nesting < depth + 1 := by
      have := Json.nesting_le_nestingOfItems (List.mem_map_of_mem (f := Row.toJson) member)
      omega
    exact
      Row.decode_node (representable.rows row member)
        (legibleRows row.toJson (List.mem_map_of_mem member)) shallower
  have rows :
      Json.decodeList Row.decode (depth + 2) (Json.node (.list (results.rows.map Row.toJson))) =
        .ok results.reread.rows := by
    rw [Json.node, Json.itemNodes_eq_map, List.map_map]
    exact Json.decodeList_map decodes
  have rowCount :=
    Json.decodeNatural_node "usize" (depth + 2) (Nat.le_refl 64) representable.rowCount
  have filled :
      record.fillMembers (depth + 2)
          [(.of "rows", Json.node (.list (results.rows.map Row.toJson))),
            (.of "row_count", Json.node (.integer results.rowCount))]
          ⟨none, none⟩ =
        .ok ⟨some results.reread.rows, some results.rowCount⟩ := by
    calc
      _ = record.fillMembers (depth + 2)
            [(.of "row_count", Json.node (.integer results.rowCount))]
            ⟨some results.reread.rows, none⟩ :=
        Json.Record.fillMembers_of_named rfl rfl (by simp only [rows]; rfl) _
      _ = record.fillMembers (depth + 2) []
            ⟨some results.reread.rows, some results.rowCount⟩ :=
        Json.Record.fillMembers_of_named rfl rfl (by simp only [rowCount]; rfl) _
      _ = _ :=
        rfl
  rw [toJson, Json.node, decode, Json.Record.decode]
  simp only [Json.memberNodes, Json.enter, bind, Except.bind, filled]
  rfl

/--
The text of a result set whose finite doubles come back from their own texts is
decoded to as many rows in the same order, and under the same columns to the
cells that the texts of the cells denote.  A lasting cell comes back as it was, so
a result set of lasting cells does; every other cell comes back as the one that
stands for it.
-/
theorem decodeString_compact_toJson
    {results : ResultSet}
    (representable : results.Representable)
    (legible : results.toJson.Legible)
    (shallow : results.toJson.nesting < Json.nestingLimit) :
    ∃ read,
      Json.decodeString decode (Json.compact results.toJson) = .ok read ∧
        read.rowCount = results.rowCount ∧
        read.rows.map Row.cells =
          results.rows.map
            (fun row => row.cells.map (fun cell => (cell.1, Value.ofJson cell.2.toJson))) ∧
        ((∀ row ∈ results.rows, ∀ cell ∈ row.cells, cell.2.Lasting) → read = results) ∧
        ∀ row ∈ results.rows, ∀ cell ∈ row.cells,
          cell.2.Lasting ∧ Value.ofJson cell.2.toJson = cell.2 ∨
            cell.2.ReplacedBy (Value.ofJson cell.2.toJson) ∧
              Value.ofJson cell.2.toJson ≠ cell.2 := by
  refine ⟨results.reread, ?decoded, rfl, ?cells, reread_of_lasting, ?changes⟩
  case decoded =>
    rw [Json.decodeString, Json.read_compact, Json.Document.decode,
      decode_node representable legible shallow]
    rfl
  case cells =>
    rw [reread, List.map_map]
    rfl
  case changes =>
    intro row inRows cell inCells
    have produced := representable.rows row inRows cell inCells
    rcases Value.lasting_or_replaced produced with lasting | replaced
    · exact .inl ⟨lasting, lasting.ofJson_toJson⟩
    · exact .inr ⟨replaced, replaced.ne⟩

/-- Rates of two days: a date, a double that is no number and a nested document. -/
def dailyRates : ResultSet :=
  ofRows
    [⟨[("day", .date "2024-02-29"), ("rate", .float ⟨0x3FB999999999999A⟩)],
        by unfold EntriesOrdered; decide +kernel⟩,
      ⟨[("day", .text "\"?\n"), ("rate", .float ⟨0x7FF8000000000000⟩),
          ("total", .json (.list [.integer (Nat.pow 2 63), .object []]))],
        by unfold EntriesOrdered; decide +kernel⟩]

/-- The date comes back as a text, and the double without a number as nothing. -/
theorem decodeString_compact_toJson_dailyRates :
    ∃ read,
      Json.decodeString decode (Json.compact dailyRates.toJson) = .ok read ∧
        read.rowCount = 2 ∧
        read.rows.map Row.cells =
          [[("day", .text "2024-02-29"), ("rate", .float ⟨0x3FB999999999999A⟩)],
            [("day", .text "\"?\n"), ("rate", .null),
              ("total", .json (.list [.integer (Nat.pow 2 63), .object []]))]] := by
  have total : (Json.list [.integer (Nat.pow 2 63), .object []]).Representable := by
    refine .list ?_
    simp only [List.mem_cons, List.not_mem_nil, or_false, forall_eq_or_imp, forall_eq]
    exact ⟨.integer (by decide) (by decide), .object (by simp [EntriesOrdered]) (by simp)⟩
  have representable : dailyRates.Representable := by
    refine ⟨fun row inRows cell inCells => ?_, by decide⟩
    simp only [dailyRates, ofRows, List.mem_cons, List.not_mem_nil, or_false] at inRows
    rcases inRows with rfl | rfl
    all_goals
      simp only [List.mem_cons, List.not_mem_nil, or_false] at inCells
    · rcases inCells with rfl | rfl <;> trivial
    · rcases inCells with rfl | rfl | rfl
      · trivial
      · trivial
      · exact total
  have legible : dailyRates.toJson.Legible := by
    have doubles : dailyRates.toJson.doubles = [⟨0x3FB999999999999A⟩] := by
      decide +kernel
    rw [Json.Legible, doubles, List.forall_mem_singleton]
    exact fun finite =>
      Json.readsBack_of_short finite
        ⟨by decide +kernel, by decide +kernel, by decide +kernel⟩
  have shallow : dailyRates.toJson.nesting < Json.nestingLimit := by
    decide
  obtain ⟨read, decoded, rowCount, cells, -, -⟩ :=
    decodeString_compact_toJson representable legible shallow
  exact ⟨read, decoded, rowCount, cells⟩

end ResultSet

end QueryAgent
