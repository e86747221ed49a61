import QueryAgent.Mock.Session
import QueryAgent.Mysql.Session
import QueryAgent.Postgres.Session
import QueryAgent.Proofs.Json.Records

namespace QueryAgent

/-!
# The number of rows

A result set keeps the number of its rows beside them.  Whatever the agent makes
itself is counted: result sets of given rows, and what connectors bring.  Where
a result set is decoded, the count is taken from the document as well as the
rows, and nothing makes one agree with the other.
-/

namespace ResultSet

/-- The count of a result set is the number of its rows. -/
def Counted
    (results : ResultSet) : Prop :=
  results.rowCount = results.rows.length

theorem counted_ofRows
    (rows : List Row) :
    (ofRows rows).Counted :=
  rfl

end ResultSet

/-! ## Connectors -/

/-- A call that comes to nothing but counted result sets. -/
def Counts
    (result : Result ResultSet) : Prop :=
  ∀ results, result = .ok results → results.Counted

theorem Counts.error
    (cause : AgentError) :
    Counts (.error cause) :=
  nofun

theorem Counts.ofRows
    (rows : List Row) :
    Counts (.ok (.ofRows rows)) := by
  rintro results ⟨⟩
  exact ResultSet.counted_ofRows rows

/-- A reply that is read as a counted result set is so within any time. -/
theorem Counts.conclude
    {state : Pooled ρ}
    {what : String}
    {reply : Reply ε β}
    {read : Except ε β → Result ResultSet}
    (reads : ∀ outcome, Counts (read outcome)) :
    Counts (state.conclude what reply read).result := by
  unfold Pooled.conclude withDeadline
  split
  · exact reads _
  · split
    · exact reads _
    · exact .error _

theorem Mock.counted_of_select
    {tables : Mock.Tables}
    {query : Query}
    {results : ResultSet}
    (selected : tables.select query = .ok results) :
    results.Counted := by
  unfold Mock.Tables.select at selected
  split at selected
  · cases selected
  · split at selected
    · cases selected
    · split at selected
      · cases selected
      next rows _ =>
          cases selected
          exact ResultSet.counted_ofRows rows

theorem Mock.counts_run
    (setup : Mock.Setup)
    (query : Query)
    (state : Mock.State) :
    Counts (Mock.run setup query state).result := by
  unfold Mock.run
  split
  · exact .error _
  · split
    · exact .error _
    · dsimp only
      unfold Mock.answer
      split
      · exact .error _
      · intro results answered
        cases selected : state.tables.select query with
        | error cause =>
            rw [selected] at answered
            cases answered
        | ok found =>
            rw [selected] at answered
            cases answered
            exact Mock.counted_of_select selected

theorem Postgres.counts_run
    (server : Postgres.Server)
    (query : Query)
    (session : Postgres.Session) :
    Counts (Postgres.run server query session).result := by
  unfold Postgres.run
  split
  · exact .error _
  · split
    · exact .error _
    · refine .conclude fun outcome => ?_
      unfold Postgres.readAnswer
      split
      · exact .error _
      next answer =>
          intro results read
          obtain ⟨rows, _, rfl⟩ := Json.map_eq_ok.mp read
          exact ResultSet.counted_ofRows rows

theorem Mysql.counts_run
    (server : Mysql.Server)
    (query : Query)
    (session : Mysql.Session) :
    Counts (Mysql.run server query session).result := by
  unfold Mysql.run
  split
  · exact .error _
  · split
    · exact .error _
    · refine .conclude fun outcome => ?_
      unfold Mysql.readAnswer
      split
      · exact .error _
      · exact .ofRows _

/-! ## Documents -/

namespace ResultSet

/-- The rows of a result set are held apart from its count. -/
theorem rowsSlot :
    record.Slot [] record.fields[0] [record.fields[1]]
      Draft.rows (Json.decodeList Row.decode) := by
  refine ⟨rfl, fun _ => rfl, ?fills, ?keeps, by decide⟩
  case fills =>
    exact Json.Field.fills_of_fill rfl fun _ _ => rfl
  case keeps =>
    intro other member
    cases List.mem_singleton.mp member
    exact Json.Field.keeps_of_fill rfl fun _ _ => rfl

/-- The count of a result set is held apart from its rows. -/
theorem countSlot :
    record.Slot [record.fields[0]] record.fields[1] []
      Draft.rowCount (Json.decodeNatural "usize" 64) := by
  refine ⟨rfl, fun _ => rfl, ?fills, ?keeps, by decide⟩
  case fills =>
    exact Json.Field.fills_of_fill rfl fun _ _ => rfl
  case keeps =>
    intro other member
    cases List.mem_singleton.mp member
    exact Json.Field.keeps_of_fill rfl fun _ _ => rfl

/-- A document gives an item for each row, and the count as a number. -/
inductive GivenBy
    (results : ResultSet)
    (root : Json.Node) : Prop where
  | fields
      {items : List Json.Node}
      {count : Json.NumberLiteral}
      (rows : root.field? ["rows"] 0 = some (.list items none))
      (length : results.rows.length = items.length)
      (rowCount : root.field? ["row_count"] 1 = some (.number count))
      (counted : count.value = .ok (.integer results.rowCount)) :
      GivenBy results root

/-- A result set that is decoded has the rows and the count that are given. -/
theorem givenBy_of_decode
    {depth : Nat}
    {node : Json.Node}
    {results : ResultSet}
    (decoded : decode depth node = .ok results) :
    results.GivenBy node := by
  rw [decode, Json.Record.decode_finish] at decoded
  obtain ⟨draft, given, finishing⟩ := Json.bind_eq_ok.mp decoded
  obtain ⟨_, _, rowsFrom⟩ := rowsSlot.decodedFrom rfl given
  obtain ⟨_, _, countFrom⟩ := countSlot.decodedFrom rfl given
  obtain ⟨rows, rowsGiven, counting⟩ := Json.bind_eq_ok.mp finishing
  obtain ⟨count, countGiven, same⟩ := Json.bind_eq_ok.mp counting
  cases same
  rw [Json.required_eq_ok.mp rowsGiven] at rowsFrom
  rw [Json.required_eq_ok.mp countGiven] at countFrom
  obtain ⟨_, atRows, decodesRows⟩ := rowsFrom.exists_of_some
  obtain ⟨_, atCount, decodesCount⟩ := countFrom.exists_of_some
  obtain ⟨items, _, rfl, alike⟩ := Json.forall₂_of_decodeList decodesRows
  obtain ⟨literal, rfl, number⟩ := Json.exists_of_decodeNatural decodesCount
  exact .fields atRows alike.length_eq.symm atCount number

/-- A place that a result set comes from. -/
inductive Origin where
  | made (rows : List Row)
  | mock (setup : Mock.Setup) (query : Query) (state : Mock.State)
  | postgres (server : Postgres.Server) (query : Query) (session : Postgres.Session)
  | mysql (server : Mysql.Server) (query : Query) (session : Mysql.Session)
  | document (source : String)

namespace Origin

/-- The result set that comes from there; the default one comes from no rows. -/
def result? : Origin → Option ResultSet
  | .made rows =>
      some (.ofRows rows)
  | .mock setup query state =>
      (Mock.run setup query state).result.toOption
  | .postgres server query session =>
      (Postgres.run server query session).result.toOption
  | .mysql server query session =>
      (Mysql.run server query session).result.toOption
  | .document source =>
      (Json.decodeString ResultSet.decode source).toOption

/-- The count is the program's own, or the document gives the number of the rows it lists. -/
def CountsRows : Origin → Prop
  | .document source =>
      ∃ items count,
        (Json.read source).root.field? ["rows"] 0 = some (.list items none) ∧
          (Json.read source).root.field? ["row_count"] 1 = some (.number count) ∧
          count.value = .ok (.integer items.length)
  | _ =>
      True

end Origin

end ResultSet

/--
A result set is counted exactly when the program counted its rows, or was told
their number: what is made of rows and what a connector brings is always
counted, and what is decoded only where the document counts its own items.
-/
theorem rowCount_kept
    (origin : ResultSet.Origin)
    (results : ResultSet)
    (brought : origin.result? = some results) :
    results.Counted ↔ origin.CountsRows := by
  cases origin with
  | made rows =>
      cases brought
      exact iff_true_intro (ResultSet.counted_ofRows rows)
  | mock setup query state =>
      exact iff_true_intro
        (Mock.counts_run setup query state results (Json.eq_ok_of_toOption brought))
  | postgres server query session =>
      exact iff_true_intro
        (Postgres.counts_run server query session results (Json.eq_ok_of_toOption brought))
  | mysql server query session =>
      exact iff_true_intro
        (Mysql.counts_run server query session results (Json.eq_ok_of_toOption brought))
  | document source =>
      obtain ⟨found, given, ending⟩ := Json.bind_eq_ok.mp (Json.eq_ok_of_toOption brought)
      obtain ⟨_, _, same⟩ := Json.bind_eq_ok.mp ending
      cases same
      cases ResultSet.givenBy_of_decode given with
      | @fields items count atRows length atCount number =>
          constructor
          · intro kept
            rw [kept, length] at number
            exact ⟨items, count, atRows, atCount, number⟩
          · rintro ⟨_, _, sameRows, sameCount, counts⟩
            cases atRows.symm.trans sameRows
            cases atCount.symm.trans sameCount
            have same : results.rowCount = items.length :=
              Int.natCast_inj.mp (Json.integer.inj (Except.ok.inj (number.symm.trans counts)))
            exact same.trans length.symm

/-- A result set of no rows that is said to have none. -/
def counted : String :=
  "\x7b\"rows\":[],\"row_count\":0\x7d"

/-- A document that counts its rows is decoded as a counted result set. -/
theorem rowCount_kept_counted :
    ∃ results,
      (ResultSet.Origin.document counted).result? = some results ∧
        results.Counted ∧ (ResultSet.Origin.document counted).CountsRows := by
  have counts :
      ((ResultSet.Origin.document counted).result?.map fun results =>
        (results.rowCount, results.rows.length)) = some (0, 0) := by
    decide +kernel
  obtain ⟨results, brought, same⟩ := Option.map_eq_some_iff.mp counts
  obtain ⟨rowCount, length⟩ := Prod.mk.inj same
  have kept : results.Counted :=
    rowCount.trans length.symm
  exact ⟨results, brought, kept, (rowCount_kept _ results brought).mp kept⟩

/-- A result set of no rows that is said to have five. -/
def overstated : String :=
  "\x7b\"rows\":[],\"row_count\":5\x7d"

/-- A decoded result set need not be counted. -/
theorem decoded_count_overstated :
    ∃ results,
      (ResultSet.Origin.document overstated).result? = some results ∧
        results.rowCount = 5 ∧ ¬ results.Counted := by
  have counts :
      ((ResultSet.Origin.document overstated).result?.map fun results =>
        (results.rowCount, results.rows.length)) = some (5, 0) := by
    decide +kernel
  obtain ⟨results, brought, same⟩ := Option.map_eq_some_iff.mp counts
  obtain ⟨rowCount, length⟩ := Prod.mk.inj same
  refine ⟨results, brought, rowCount, ?_⟩
  rw [ResultSet.Counted, rowCount, length]
  decide

end QueryAgent
