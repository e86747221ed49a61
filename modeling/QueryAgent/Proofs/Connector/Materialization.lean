import Mathlib.Data.List.Forall2
import QueryAgent.Proofs.Connector.Failures
import QueryAgent.Proofs.Json.Records

namespace QueryAgent

/-!
# Answers made into results

A server answers with columns and with rows of cells.  The result has a row for
each row of the answer, in the same order, and in it the name of each column
stands for the value of the last cell under that name.  A PostgreSQL cell may
not be readable; then the first such cell is reported and there is no result.
-/

/-! ## Rows -/

section
variable (name : κ → String) (holds : κ → γ → Value → Prop)

/-- A row that holds, under the names of columns, what cells hold. -/
structure HoldsCells
    (columns : List κ)
    (cells : List γ)
    (row : Row) : Prop where
  names :
    ∀ title, title ∈ row.cells.map (·.1) ↔ title ∈ columns.map name
  last :
    ∀ before column cell after,
      columns.zip cells = before ++ (column, cell) :: after →
        (∀ place ∈ after, name place.1 ≠ name column) →
          ∃ value, row.cell? (name column) = some value ∧ holds column cell value
  distinct :
    (columns.map name).Nodup →
      ∀ place ∈ columns.zip cells,
        ∃ value, row.cell? (name place.1) = some value ∧ holds place.1 place.2 value

/-- A result with the rows of an answer in their order, and with their number. -/
structure Materializes
    (columns : List κ)
    (answered : List (List γ))
    (results : ResultSet) : Prop where
  rowCount : results.rowCount = answered.length
  rows : List.Forall₂ (HoldsCells name holds columns) answered results.rows

end

/-- A list of places that stands for entries is cut where the entries are. -/
theorem forall₂_append_cons
    {alike : α → β → Prop}
    {before after : List α}
    {middle : α}
    {entries : List β}
    (stands : List.Forall₂ alike (before ++ middle :: after) entries) :
    ∃ earlier entry later,
      entries = earlier ++ entry :: later ∧
        alike middle entry ∧ List.Forall₂ alike after later := by
  induction before generalizing entries with
  | nil =>
      cases stands with
      | cons first rest =>
          exact ⟨[], _, _, rfl, first, rest⟩
  | cons head before inductionHypothesis =>
      cases stands with
      | @cons _ entry _ others _ rest =>
          obtain ⟨earlier, found, later, rfl, first, further⟩ := inductionHypothesis rest
          exact ⟨entry :: earlier, found, later, rfl, first, further⟩

/-- Under a name that no later entry has, an entry is found from the end. -/
theorem findNamed?_reverse_of_last
    {earlier later : List (String × α)}
    {entry : String × α}
    (last : ∀ other ∈ later, other.1 ≠ entry.1) :
    findNamed? entry.1 (earlier ++ entry :: later).reverse = some entry.2 := by
  have noneLater : findNamed? entry.1 later.reverse = none := by
    rw [← Option.not_isSome_iff_eq_none, isSome_findNamed?, List.mem_map]
    rintro ⟨other, member, same⟩
    exact last other (List.mem_reverse.mp member) same
  rw [List.reverse_append, List.reverse_cons, List.append_assoc,
    findNamed?_append, noneLater, Option.none_or]
  simp [findNamed?]

/-- Behind a place of distinct names no place has its name. -/
theorem name_ne_of_nodup
    {name : κ → String}
    {columns : List κ}
    {cells : List γ}
    (width : cells.length = columns.length)
    (distinct : (columns.map name).Nodup)
    {before after : List (κ × γ)}
    {place : κ × γ}
    (placed : columns.zip cells = before ++ place :: after) :
    ∀ other ∈ after, name other.1 ≠ name place.1 := by
  have names : columns = (columns.zip cells).map (·.1) :=
    (List.map_fst_zip (Nat.le_of_eq width.symm)).symm
  rw [names, placed] at distinct
  simp only [List.map_append, List.map_cons, List.nodup_append, List.nodup_cons] at distinct
  intro other member same
  refine distinct.2.1.1 ?_
  rw [← same]
  exact List.mem_map_of_mem (List.mem_map_of_mem member)

/-- A row of entries that stand for cells holds these cells. -/
theorem holdsCells_ofCells
    {name : κ → String}
    {holds : κ → γ → Value → Prop}
    {columns : List κ}
    {cells : List γ}
    {entries : List (String × Value)}
    (width : cells.length = columns.length)
    (stands :
      List.Forall₂
        (fun place entry => entry.1 = name place.1 ∧ holds place.1 place.2 entry.2)
        (columns.zip cells) entries) :
    HoldsCells name holds columns cells (Row.ofCells entries) := by
  have titles : entries.map (·.1) = columns.map name := by
    calc
      entries.map (·.1) = (columns.zip cells).map (fun place => name place.1) := by
        rw [← List.forall₂_eq_eq_eq, List.forall₂_map_left_iff, List.forall₂_map_right_iff]
        exact stands.flip.imp fun _ _ alike => alike.1
      _ = ((columns.zip cells).map (·.1)).map name :=
        List.map_map.symm
      _ = columns.map name := by
        rw [List.map_fst_zip (Nat.le_of_eq width.symm)]
  have last :
      ∀ before column cell after,
        columns.zip cells = before ++ (column, cell) :: after →
          (∀ place ∈ after, name place.1 ≠ name column) →
            ∃ value,
              (Row.ofCells entries).cell? (name column) = some value ∧
                holds column cell value := by
    intro before column cell after placed noneLater
    rw [placed] at stands
    obtain ⟨earlier, entry, later, rfl, ⟨titled, held⟩, further⟩ :=
      forall₂_append_cons stands
    refine ⟨entry.2, ?_, held⟩
    rw [Row.cell?, Row.ofCells, findNamed?_sortEntries, ← titled]
    refine findNamed?_reverse_of_last fun other member => ?_
    obtain ⟨index, bound, rfl⟩ := List.getElem_of_mem member
    have alike := further.get (further.length_eq ▸ bound) bound
    rw [List.get_eq_getElem, List.get_eq_getElem] at alike
    rw [alike.1, titled]
    exact noneLater _ (List.getElem_mem _)
  refine ⟨?names, last, ?distinct⟩
  case names =>
    intro title
    rw [← titles, ← isSome_findNamed?, ← isSome_findNamed?, Row.ofCells,
      findNamed?_sortEntries, isSome_findNamed?, isSome_findNamed?,
      List.map_reverse, List.mem_reverse]
  case distinct =>
    rintro distinct ⟨column, cell⟩ member
    obtain ⟨before, after, placed⟩ := List.mem_iff_append.mp member
    exact last before column cell after placed (name_ne_of_nodup width distinct placed)

/-! ## Replies in time -/

section
variable {state : Pooled ρ} {what : String} {reply : Reply ε β} {read : Except ε β → Result α}

/-- A reply that a connector does not give up waiting for. -/
def Reply.InTime
    (reply : Reply ε β)
    (state : Pooled ρ) : Prop :=
  ∀ limit ∈ state.limit, reply.duration ≤ limit

theorem conclude_of_inTime
    (inTime : reply.InTime state) :
    (state.conclude what reply read).result = read reply.outcome := by
  unfold Pooled.conclude withDeadline
  cases limit : state.limit with
  | none =>
      rfl
  | some milliseconds =>
      simp only [if_pos (inTime milliseconds limit)]

/-- A call that comes to something was replied to in time. -/
theorem inTime_of_conclude
    {value : α}
    (concluded : (state.conclude what reply read).result = .ok value) :
    reply.InTime state := by
  intro limit bounded
  unfold Pooled.conclude withDeadline at concluded
  rw [bounded] at concluded
  by_contra late
  simp only [if_neg late] at concluded
  cases concluded

end

/-! ## PostgreSQL -/

namespace Postgres

/-- What a cell of a column holds: nothing for null, else what its bytes are decoded to. -/
inductive CellHolds (column : Column) : Option (List UInt8) → Value → Prop where
  | null :
      CellHolds column none .null
  | decoded
      {bytes : List UInt8}
      {value : Value}
      (decodes : decodeColumn column.type bytes = .ok value) :
      CellHolds column (some bytes) value

/-- Every row of an answer has a cell for each column. -/
def Answer.Shaped
    (answer : Answer) : Prop :=
  ∀ cells ∈ answer.rows, cells.length = answer.columns.length

/-- Every cell under columns can be read. -/
def Readable
    (columns : List Column)
    (cells : List (Option (List UInt8))) : Prop :=
  ∀ place ∈ columns.zip cells, ∃ value, CellHolds place.1 place.2 value

/-- The first cell of a row that cannot be read, by its column and what is wrong with it. -/
inductive RowFails
    (columns : List Column)
    (cells : List (Option (List UInt8))) : Column → WireError → Prop where
  | inCell
      {before after : List (Column × Option (List UInt8))}
      {column : Column}
      {bytes : List UInt8}
      {cause : WireError}
      (placed : columns.zip cells = before ++ (column, some bytes) :: after)
      (earlier : ∀ place ∈ before, ∃ value, CellHolds place.1 place.2 value)
      (fails : decodeColumn column.type bytes = .error cause) :
      RowFails columns cells column cause

/-- The first cell of rows that cannot be read, in the first row that has one. -/
inductive RowsFail
    (columns : List Column)
    (rows : List (List (Option (List UInt8)))) : Column → WireError → Prop where
  | inRow
      {before after : List (List (Option (List UInt8)))}
      {cells : List (Option (List UInt8))}
      {column : Column}
      {cause : WireError}
      (placed : rows = before ++ cells :: after)
      (earlier : ∀ cells ∈ before, Readable columns cells)
      (fails : RowFails columns cells column cause) :
      RowsFail columns rows column cause

/-- The error for a cell that cannot be read names its column. -/
def unreadable
    (column : Column)
    (cause : WireError) : AgentError :=
  .connector (.executionFailed
    ("Failed to read column '" ++ column.name ++ "': " ++ cause.message))

/-- A row that cannot be read stays so behind a cell that can. -/
theorem RowFails.behind
    {columns : List Column}
    {cells : List (Option (List UInt8))}
    {column failing : Column}
    {cell : Option (List UInt8)}
    {value : Value}
    {cause : WireError}
    (holds : CellHolds column cell value)
    (fails : RowFails columns cells failing cause) :
    RowFails (column :: columns) (cell :: cells) failing cause := by
  cases fails with
  | @inCell before after _ bytes _ placed earlier fails =>
      have placedBehind :
          (column :: columns).zip (cell :: cells) =
            (column, cell) :: before ++ (failing, some bytes) :: after := by
        rw [List.zip_cons_cons, placed]
        rfl
      exact .inCell placedBehind (List.forall_mem_cons.mpr ⟨⟨value, holds⟩, earlier⟩) fails

/-- The cells of a row are read one by one, or the first that cannot be read is reported. -/
theorem readCells_or_fails
    (columns : List Column)
    (cells : List (Option (List UInt8))) :
    (∃ entries,
      readCells columns cells = .ok entries ∧
        List.Forall₂
          (fun place entry =>
            entry.1 = place.1.name ∧ CellHolds place.1 place.2 entry.2)
          (columns.zip cells) entries) ∨
      ∃ column cause,
        RowFails columns cells column cause ∧
          readCells columns cells = .error (unreadable column cause) := by
  fun_induction readCells columns cells with
  | case1 column columns cells inductionHypothesis =>
      rcases inductionHypothesis with ⟨entries, reads, stands⟩ | ⟨failing, cause, fails, reads⟩
      · left
        rw [reads]
        exact ⟨_, rfl, .cons ⟨rfl, .null⟩ stands⟩
      · right
        rw [reads]
        exact ⟨failing, cause, fails.behind .null, rfl⟩
  | case2 column columns bytes cells cause fails =>
      have placed :
          (column :: columns).zip (some bytes :: cells) =
            [] ++ (column, some bytes) :: columns.zip cells :=
        rfl
      exact .inr ⟨column, cause, .inCell placed (List.forall_mem_nil _) fails, rfl⟩
  | case3 column columns bytes cells value decodes inductionHypothesis =>
      rcases inductionHypothesis with ⟨entries, reads, stands⟩ | ⟨failing, cause, fails, reads⟩
      · left
        rw [reads]
        exact ⟨_, rfl, .cons ⟨rfl, .decoded decodes⟩ stands⟩
      · right
        rw [reads]
        exact ⟨failing, cause, fails.behind (.decoded decodes), rfl⟩
  | case4 columns cells noNull noBytes =>
      left
      refine ⟨[], rfl, ?_⟩
      cases columns with
      | nil =>
          exact .nil
      | cons column columns =>
          cases cells with
          | nil =>
              exact .nil
          | cons cell cells =>
              cases cell with
              | none =>
                  exact absurd rfl (noNull column columns cells rfl)
              | some bytes =>
                  exact absurd rfl (noBytes column columns bytes cells rfl)

/-- Entries that stand for the cells of a row show that these can be read. -/
theorem readable_of_entries
    {columns : List Column}
    {cells : List (Option (List UInt8))}
    {entries : List (String × Value)}
    (stands :
      List.Forall₂
        (fun place entry =>
          entry.1 = place.1.name ∧ CellHolds place.1 place.2 entry.2)
        (columns.zip cells) entries) :
    Readable columns cells := by
  intro place member
  obtain ⟨before, after, placed⟩ := List.mem_iff_append.mp member
  rw [placed] at stands
  obtain ⟨_, entry, _, _, ⟨_, holds⟩, _⟩ := forall₂_append_cons stands
  exact ⟨entry.2, holds⟩

/-- Rows are read one by one, or the first cell that cannot be read is reported. -/
theorem readRows_or_fails
    {columns : List Column}
    {answered : List (List (Option (List UInt8)))}
    (shaped : ∀ cells ∈ answered, cells.length = columns.length) :
    (∃ rows,
      readRows columns answered = .ok rows ∧
        (∀ cells ∈ answered, Readable columns cells) ∧
        List.Forall₂ (HoldsCells Column.name CellHolds columns) answered rows) ∨
      ∃ column cause,
        RowsFail columns answered column cause ∧
          readRows columns answered = .error (unreadable column cause) := by
  induction answered with
  | nil =>
      exact .inl ⟨[], rfl, nofun, .nil⟩
  | cons cells rest inductionHypothesis =>
      rw [readRows]
      rcases readCells_or_fails columns cells with
        ⟨entries, reads, stands⟩ | ⟨column, cause, fails, reads⟩
      · have readable := readable_of_entries stands
        have width := shaped cells (by simp)
        rcases inductionHypothesis fun others member => shaped others (by simp [member]) with
          ⟨rows, readsRest, readableRest, holds⟩ | ⟨column, cause, fails, readsRest⟩
        · left
          rw [reads, readsRest]
          exact
            ⟨_, rfl, List.forall_mem_cons.mpr ⟨readable, readableRest⟩,
              .cons (holdsCells_ofCells width stands) holds⟩
        · right
          rw [reads, readsRest]
          refine ⟨column, cause, ?_, rfl⟩
          cases fails with
          | @inRow before after failingCells _ _ placed earlier fails =>
              have placedBehind : cells :: rest = cells :: before ++ failingCells :: after :=
                congrArg (cells :: ·) placed
              exact
                .inRow placedBehind (List.forall_mem_cons.mpr ⟨readable, earlier⟩) fails
      · right
        rw [reads]
        have placed : cells :: rest = [] ++ cells :: rest :=
          rfl
        exact ⟨column, cause, .inRow placed nofun fails, rfl⟩

/-- A connected connector whose statement for a query the server answers in time. -/
inductive Answered
    (server : Server)
    (query : Query)
    (session : Session)
    (answer : Answer) : Prop where
  | inTime
      {pool : Pool}
      {statement : Sql.Statement}
      (held : session.held = .ok pool)
      (compiled : Sql.Dialect.postgres.statement query = .ok statement)
      (answered :
        (server.answer statement.text
          (statement.parameters.map sentText?)).outcome = .ok answer)
      (inTime :
        (server.answer statement.text
          (statement.parameters.map sentText?)).InTime session) :
      Answered server query session answer

/-- A run that is answered comes to what is read from the answer. -/
theorem run_of_answered
    {server : Server}
    {query : Query}
    {session : Session}
    {answer : Answer}
    (answered : Answered server query session answer) :
    (run server query session).result = readAnswer (.ok answer) := by
  cases answered with
  | inTime held compiled answered inTime =>
      rw [run, held]
      simp only [compiled]
      rw [conclude_of_inTime inTime, answered]

/-- Nothing comes of a run but from an answer. -/
theorem answered_of_run
    {server : Server}
    {query : Query}
    {session : Session}
    {results : ResultSet}
    (ran : (run server query session).result = .ok results) :
    ∃ answer,
      Answered server query session answer := by
  rw [run] at ran
  cases held : session.held with
  | error cause =>
      rw [held] at ran
      cases ran
  | ok pool =>
      rw [held] at ran
      cases compiled : Sql.Dialect.postgres.statement query with
      | error cause =>
          rw [compiled] at ran
          cases ran
      | ok statement =>
          rw [compiled] at ran
          have inTime := inTime_of_conclude ran
          rw [conclude_of_inTime inTime] at ran
          cases answered :
              (server.answer statement.text (statement.parameters.map sentText?)).outcome with
          | error fault =>
              rw [answered] at ran
              cases ran
          | ok answer =>
              exact ⟨answer, .inTime held compiled answered inTime⟩

/-- An answer is materialized whole, or the run fails for its first unreadable cell. -/
theorem run_materializes_or_fails
    {server : Server}
    {query : Query}
    {session : Session}
    {answer : Answer}
    (answered : Answered server query session answer)
    (shaped : answer.Shaped) :
    ((∀ cells ∈ answer.rows, Readable answer.columns cells) ∧
      ∃ results,
        (run server query session).result = .ok results ∧
          Materializes Column.name CellHolds answer.columns answer.rows results) ∨
      ∃ column cause,
        RowsFail answer.columns answer.rows column cause ∧
          (run server query session).result = .error (unreadable column cause) := by
  rw [run_of_answered answered, readAnswer]
  rcases readRows_or_fails shaped with
    ⟨rows, reads, readable, holds⟩ | ⟨column, cause, fails, reads⟩
  · left
    rw [reads]
    exact ⟨readable, .ofRows rows, rfl, holds.length_eq.symm, holds⟩
  · right
    rw [reads]
    exact ⟨column, cause, fails, rfl⟩

end Postgres

/-! ## MySQL -/

namespace Mysql

/-- What a cell of a column holds: nothing for null, else what it is converted to. -/
inductive CellHolds (column : Column) : Cell → Value → Prop where
  | null :
      CellHolds column .null .null
  | converted
      {cell : Cell}
      (present : cell ≠ .null) :
      CellHolds column cell (cell.value column.type)

/-- Every cell holds something. -/
theorem cellHolds_value
    (column : Column)
    (cell : Cell) :
    CellHolds column cell (cell.value column.type) := by
  cases cell with
  | null =>
      exact .null
  | _ =>
      exact .converted nofun

/-- Every row of an answer has a cell for each column. -/
def Answer.Shaped
    (answer : Answer) : Prop :=
  ∀ cells ∈ answer.rows, cells.length = answer.columns.length

theorem holdsCells_rowOf
    {columns : List Column}
    {cells : List Cell}
    (width : cells.length = columns.length) :
    HoldsCells Column.name CellHolds columns cells (rowOf columns (cells.map some)) := by
  refine holdsCells_ofCells width ?_
  rw [List.zipWith_map_right, ← List.map_uncurry_zip_eq_zipWith,
    List.forall₂_map_right_iff, List.forall₂_same]
  exact fun place _ => ⟨rfl, cellHolds_value place.1 place.2⟩

/-- A connected connector whose statement for a query the server answers in time. -/
inductive Answered
    (server : Server)
    (query : Query)
    (session : Session)
    (answer : Answer) : Prop where
  | inTime
      {options : Options}
      {text : String}
      {cells : List Cell}
      (held : session.held = .ok options)
      (compiled : boundStatement query = .ok (text, cells))
      (answered : (server.answer text cells).outcome = .ok answer)
      (inTime : (server.answer text cells).InTime session) :
      Answered server query session answer

/-- Nothing comes of a run but from an answer. -/
theorem answered_of_run
    {server : Server}
    {query : Query}
    {session : Session}
    {results : ResultSet}
    (ran : (run server query session).result = .ok results) :
    ∃ answer,
      Answered server query session answer := by
  rw [run] at ran
  cases held : session.held with
  | error cause =>
      rw [held] at ran
      cases ran
  | ok options =>
      rw [held] at ran
      cases compiled : boundStatement query with
      | error cause =>
          rw [compiled] at ran
          cases ran
      | ok bound =>
          obtain ⟨text, cells⟩ := bound
          rw [compiled] at ran
          have inTime := inTime_of_conclude ran
          rw [conclude_of_inTime inTime] at ran
          cases answered : (server.answer text cells).outcome with
          | error fault =>
              rw [answered] at ran
              cases ran
          | ok answer =>
              exact ⟨answer, .inTime held compiled answered inTime⟩

/-- An answer is always materialized. -/
theorem run_materializes
    {server : Server}
    {query : Query}
    {session : Session}
    {answer : Answer}
    (answered : Answered server query session answer)
    (shaped : answer.Shaped) :
    ∃ results,
      (run server query session).result = .ok results ∧
        Materializes Column.name CellHolds answer.columns answer.rows results := by
  cases answered with
  | inTime held compiled answered inTime =>
      rw [run, held]
      simp only [compiled]
      rw [conclude_of_inTime inTime, answered]
      refine ⟨_, rfl, List.length_map _, ?_⟩
      simp only [ResultSet.ofRows]
      rw [List.forall₂_map_right_iff, List.forall₂_same]
      exact fun cells member => holdsCells_rowOf (shaped cells member)

end Mysql

/--
Whatever columns and rows a server answers a query with, the run comes to all of
these rows in their order, with the value of the last cell under each name, and
nothing comes of a run without an answer.  Only a PostgreSQL cell that cannot be
read makes a run fail that is answered, and then the first one, row by row, is
reported.
-/
theorem answers_materialize :
    (∀ server query session results,
      (Postgres.run server query session).result = .ok results →
        ∃ answer : Postgres.Answer, Postgres.Answered server query session answer) ∧
    (∀ server query session (answer : Postgres.Answer),
      Postgres.Answered server query session answer →
        answer.Shaped →
          ((∀ cells ∈ answer.rows, Postgres.Readable answer.columns cells) ∧
            ∃ results,
              (Postgres.run server query session).result = .ok results ∧
                Materializes Postgres.Column.name Postgres.CellHolds
                  answer.columns answer.rows results) ∨
          ∃ column cause,
            Postgres.RowsFail answer.columns answer.rows column cause ∧
              (Postgres.run server query session).result =
                .error (.connector (.executionFailed
                  ("Failed to read column '" ++ column.name ++ "': " ++ cause.message)))) ∧
    (∀ server query session results,
      (Mysql.run server query session).result = .ok results →
        ∃ answer : Mysql.Answer, Mysql.Answered server query session answer) ∧
    ∀ server query session (answer : Mysql.Answer),
      Mysql.Answered server query session answer →
        answer.Shaped →
          ∃ results,
            (Mysql.run server query session).result = .ok results ∧
              Materializes Mysql.Column.name Mysql.CellHolds
                answer.columns answer.rows results :=
  ⟨fun _ _ _ _ => Postgres.answered_of_run,
    fun _ _ _ _ => Postgres.run_materializes_or_fails,
    fun _ _ _ _ => Mysql.answered_of_run,
    fun _ _ _ _ => Mysql.run_materializes⟩

/-- A server that answers every statement alike. -/
def Postgres.Server.steady
    (answer : Postgres.Answer) : Postgres.Server where
  greet := fun _ => ⟨.ok (), 5⟩
  answer := fun _ _ => ⟨.ok answer, 1⟩

/-- A server that answers every statement alike. -/
def Mysql.Server.steady
    (answer : Mysql.Answer) : Mysql.Server where
  greet := fun _ => ⟨.ok (), 5⟩
  first := fun _ => ⟨.ok (some 1), 1⟩
  answer := fun _ _ => ⟨.ok answer, 1⟩
  disconnect := ⟨.ok (), 2⟩

/-- Two columns of one name, of numbers and of texts. -/
def Postgres.Answer.twins
    (rows : List (List (Option (List UInt8)))) : Postgres.Answer where
  columns := [⟨"id", .plain "int4" 23 true⟩, ⟨"id", .plain "text" 25 true⟩]
  rows := rows

/-- A connector with a pool, which waits for a second. -/
def Pooled.waiting
    (pool : ρ) : Pooled ρ where
  pool := some pool
  connected := true
  querySeconds := some 1

/--
Of two columns of one name the second is kept, also where it is null.  A number
of two bytes in the second row spoils the whole answer.
-/
theorem answers_materialize_twins :
    let orders : Query := ⟨"orders", none, none, [], [], [], none⟩
    let postgres : Postgres.Session := .waiting ⟨.standard, 4⟩
    let mysql : Mysql.Session := .waiting ⟨"db.local", 3306, none, none, none, 1, 4, none⟩
    let whole : Postgres.Answer :=
      .twins [[some [0, 0, 0, 1], some [0x61]], [some [0, 0, 0, 2], none]]
    let spoilt : Postgres.Answer :=
      .twins [[none, some [0x61]], [some [0, 1], none]]
    let dated : Mysql.Answer := ⟨[⟨"id", 3⟩], [[.null], [.integer 7]]⟩
    (∃ results,
      (Postgres.run (.steady whole) orders postgres).result = .ok results ∧
        Materializes Postgres.Column.name Postgres.CellHolds
          whole.columns whole.rows results) ∧
      (∃ column cause,
        Postgres.RowsFail spoilt.columns spoilt.rows column cause ∧
          (Postgres.run (.steady spoilt) orders postgres).result =
            .error (.connector (.executionFailed
              ("Failed to read column '" ++ column.name ++ "': " ++ cause.message)))) ∧
      ∃ results,
        (Mysql.run (.steady dated) orders mysql).result = .ok results ∧
          Materializes Mysql.Column.name Mysql.CellHolds dated.columns dated.rows results := by
  intro orders postgres mysql whole spoilt dated
  obtain ⟨statement, compiled⟩ :
      ∃ statement, Sql.Dialect.postgres.statement orders = .ok statement :=
    Json.exists_eq_ok_of_isSome (by decide +kernel)
  obtain ⟨⟨text, cells⟩, bound⟩ :
      ∃ bound, Mysql.boundStatement orders = .ok bound :=
    Json.exists_eq_ok_of_isSome (by decide +kernel)
  have postgresAnswers (answer : Postgres.Answer) :
      Postgres.Answered (.steady answer) orders postgres answer := by
    refine .inTime rfl compiled rfl ?_
    rintro limit ⟨⟩
    exact Nat.one_le_iff_ne_zero.mpr (by decide)
  have mysqlAnswers : Mysql.Answered (.steady dated) orders mysql dated := by
    refine .inTime rfl bound rfl ?_
    rintro limit ⟨⟩
    exact Nat.one_le_iff_ne_zero.mpr (by decide)
  obtain ⟨_, postgresDecides, _, mysqlSucceeds⟩ := answers_materialize
  refine ⟨?whole, ?spoilt, ?dated⟩
  case whole =>
    have succeeds :
        (Postgres.run (.steady whole) orders postgres).result.toOption.isSome = true := by
      decide +kernel
    have shaped : whole.Shaped := by
      simp [Postgres.Answer.Shaped, whole, Postgres.Answer.twins]
    rcases postgresDecides _ _ _ _ (postgresAnswers whole) shaped with
      ⟨_, materialized⟩ | ⟨_, _, _, fails⟩
    · exact materialized
    · rw [fails] at succeeds
      cases succeeds
  case spoilt =>
    have fails :
        (Postgres.run (.steady spoilt) orders postgres).result.toOption.isSome = false := by
      decide +kernel
    have shaped : spoilt.Shaped := by
      simp [Postgres.Answer.Shaped, spoilt, Postgres.Answer.twins]
    rcases postgresDecides _ _ _ _ (postgresAnswers spoilt) shaped with
      ⟨_, _, succeeds, _⟩ | reported
    · rw [succeeds] at fails
      cases fails
    · exact reported
  case dated =>
    exact mysqlSucceeds _ _ _ _ mysqlAnswers (by simp [Mysql.Answer.Shaped, dated])

end QueryAgent
