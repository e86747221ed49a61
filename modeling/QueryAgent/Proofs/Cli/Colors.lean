import QueryAgent.Cli.Display
import QueryAgent.Proofs.Json.Controls
import QueryAgent.Proofs.Sql.Markers
import QueryAgent.Proofs.Text.Escapes

namespace QueryAgent

/-!
# Colours

What the command line shows in colours is what it shows without them, with
escape sequences in between.  Every cell gets its blanks by the width that is
seen, so a table has the same lines either way.
-/

open Text

/-! ## Values without escape sequences -/

/-- A parameter whose texts, at every level of its lists, begin no escape sequence. -/
inductive Param.EscapeFree : Param → Prop where
  | null :
      EscapeFree .null
  | boolean
      (value : Bool) :
      EscapeFree (.boolean value)
  | integer
      (value : Int64) :
      EscapeFree (.integer value)
  | float
      (value : Number.Binary64) :
      EscapeFree (.float value)
  | text
      {value : String}
      (absent : Text.EscapeFree value) :
      EscapeFree (.text value)
  | list
      {items : List Param}
      (parts : ∀ item ∈ items, EscapeFree item) :
      EscapeFree (.list items)

/-- A statement whose texts begin no escape sequence. -/
structure Sql.Statement.EscapeFree
    (statement : Sql.Statement) : Prop where
  text : Text.EscapeFree statement.text
  parameters : ∀ param ∈ statement.parameters, param.EscapeFree

/-- The text that an error was given. -/
def AgentError.given : AgentError → String
  | .query (.malformedPayload reason) => reason
  | .query (.invalidQuery reason) => reason
  | .query (.unsupportedOperator name) => name
  | .connector (.connectionFailed reason) => reason
  | .connector (.executionFailed reason) => reason
  | .connector (.timeout reason) => reason
  | .connector (.unsupportedOperation reason) => reason
  | .dispatch (.unknownKind kind) => kind
  | .dispatch (.notImplemented kind) => kind
  | .dispatch (.serialization reason) => reason
  | .transport (.requestFailed reason) => reason
  | .transport (.unexpectedStatus _ body) => body
  | .transport (.invalidResponse reason) => reason
  | .configuration reason => reason
  | .internal reason => reason

namespace Text.EscapeFree

theorem append
    {first second : String}
    (before : EscapeFree first)
    (behind : EscapeFree second) :
    EscapeFree (first ++ second) := by
  rw [EscapeFree, String.toList_append, List.mem_append, not_or]
  exact ⟨before, behind⟩

theorem decimal
    (number : Nat) :
    EscapeFree (decimal number) := by
  rw [EscapeFree, Text.decimal, String.toList_ofList]
  exact not_mem_decimalList (by decide) number

/-- The escape character is a control and no line break. -/
theorem of_controlsBreakLines
    {written : List Char}
    (controls : Json.ControlsBreakLines written) :
    EscapeFree (String.ofList written) := by
  rw [EscapeFree, String.toList_ofList]
  intro member
  exact absurd (controls escapeChar member (by decide)) (by decide)

end Text.EscapeFree

/-- No escape sequence begins in the words around the text of an error. -/
theorem AgentError.escapeFree_message
    {error : AgentError}
    (given : EscapeFree error.given) :
    EscapeFree error.message := by
  have layer : EscapeFree error.layer := by
    cases error <;>
      rw [AgentError.layer] <;>
      decide
  refine (layer.append (by decide)).append ?_
  rcases error with cause | cause | cause | cause | reason | reason
  case configuration | internal =>
      exact given
  case transport =>
      cases cause with
      | unexpectedStatus status body =>
          exact .append (.append (.append (by decide) (.decimal status)) (by decide)) given
      | requestFailed reason
      | invalidResponse reason =>
          exact .append (by decide) given
  all_goals
    cases cause <;>
      exact .append (by decide) given

namespace Cli

theorem showParams_eq_map
    (params : List Param) :
    showParams params = params.map showParam := by
  induction params with
  | nil =>
      rfl
  | cons param rest inductionHypothesis =>
      rw [showParams, inductionHypothesis, List.map_cons]

/-- No escape sequence begins in what is shown of a parameter. -/
theorem escapeFree_showParam
    {param : Param}
    (escapeFree : param.EscapeFree) :
    EscapeFree (showParam param) := by
  induction escapeFree with
  | null =>
      decide
  | boolean value =>
      exact .of_controlsBreakLines (Json.controlsBreakLines_writeAtom (.boolean value))
  | integer value =>
      exact .of_controlsBreakLines (Json.controlsBreakLines_writeAtom (.integer value.toInt))
  | float value =>
      exact .of_controlsBreakLines (Json.controlsBreakLines_writeAtom (.float value))
  | text absent =>
      exact .append (.append (by decide) absent) (by decide)
  | @list items parts inductionHypothesis =>
      refine .append (.append (by decide) ?_) (by decide)
      rw [EscapeFree, joinTexts, String.toList_intercalate, showParams_eq_map, List.map_map]
      refine not_mem_intercalate (by decide) ?_
      rw [List.forall_mem_map]
      exact inductionHypothesis

/-! ## Outputs that colours do not change -/

/-- An output, by whether colours are shown, that shows as its form without colours. -/
def ColorBlind
    (write : Bool → String) : Prop :=
  ShowsAs (write true).toList (write false).toList

namespace ColorBlind

theorem constant
    {text : String}
    (escapeFree : EscapeFree text) :
    ColorBlind fun _ => text :=
  .of_not_mem escapeFree

theorem paint
    (style : Style)
    {text : String}
    (escapeFree : EscapeFree text) :
    ColorBlind fun colored => style.paint colored text :=
  style.showsAs_paint true escapeFree

theorem append
    {first second : Bool → String}
    (before : ColorBlind first)
    (behind : ColorBlind second) :
    ColorBlind fun colored => first colored ++ second colored := by
  rw [ColorBlind, String.toList_append, String.toList_append]
  exact ShowsAs.append before behind

theorem join_map
    {write : Bool → α → String}
    {items : List α}
    (each : ∀ item ∈ items, ColorBlind fun colored => write colored item) :
    ColorBlind fun colored => String.join (items.map (write colored)) := by
  induction items with
  | nil =>
      exact .nil
  | cons item rest inductionHypothesis =>
      rw [List.forall_mem_cons] at each
      simp only [List.map_cons, String.join_cons]
      exact each.1.append (inductionHypothesis each.2)

end ColorBlind

theorem escapeFree_replicate
    (count : Nat)
    {character : Char}
    (visible : escapeChar ≠ character) :
    EscapeFree (String.ofList (List.replicate count character)) := by
  simp [EscapeFree, List.mem_replicate, visible]

/-- A cell keeps its width, since blanks are added by what is seen of it. -/
theorem colorBlind_showCell
    (width : Nat)
    {cell : Cell}
    (escapeFree : EscapeFree cell.content) :
    ColorBlind fun colored => showCell colored width cell :=
  .append
    (.append (.append (.constant (by decide)) (.paint cell.style escapeFree))
      (.constant (escapeFree_replicate _ (by decide))))
    (.constant (by decide))

theorem colorBlind_cellLine
    (widths : List Nat)
    {cells : List Cell}
    (escapeFree : ∀ cell ∈ cells, EscapeFree cell.content) :
    ColorBlind fun colored => cellLine colored widths cells := by
  have fields :
      ColorBlind fun colored => String.join (List.zipWith (showCell colored) widths cells) := by
    simp only [← List.map_uncurry_zip_eq_zipWith]
    refine .join_map fun pair member => ?_
    exact colorBlind_showCell pair.1 (escapeFree pair.2 (List.of_mem_zip member).2)
  exact
    .append (.append (.constant (by decide)) fields)
      (.constant (by decide))

theorem escapeFree_ruleLine
    {edge : String}
    (escapeFree : EscapeFree edge)
    (widths : List Nat) :
    EscapeFree (ruleLine edge widths) := by
  refine .append (.append escapeFree ?_) (by decide)
  rw [EscapeFree, String.toList_join, List.mem_flatMap]
  rintro ⟨part, isPart, inPart⟩
  obtain ⟨width, _, rfl⟩ := List.mem_map.mp isPart
  exact (escapeFree_replicate _ (by decide)).append escapeFree inPart

/-- No escape sequence begins in what is shown of parameters, their numbers and markers. -/
theorem escapeFree_paramCells
    {dialect : Sql.Dialect}
    (mark : EscapeFree dialect.placeholders.mark)
    (number : Nat)
    {params : List Param}
    (escapeFree : ∀ param ∈ params, param.EscapeFree) :
    ∀ cells ∈ paramCells dialect number params, ∀ cell ∈ cells, EscapeFree cell.content := by
  induction params generalizing number with
  | nil =>
      exact nofun
  | cons param rest inductionHypothesis =>
      rw [List.forall_mem_cons] at escapeFree
      have marker : EscapeFree (dialect.placeholders.marker number) := by
        revert mark
        cases dialect.placeholders with
        | positional mark =>
            exact id
        | numbered mark =>
            exact fun escapeFree => escapeFree.append (.decimal number)
      refine List.forall_mem_cons.mpr ⟨?_, inductionHypothesis (number + 1) escapeFree.2⟩
      simp only [List.forall_mem_cons, List.not_mem_nil, false_implies, implies_true, and_true]
      exact ⟨.decimal number, marker, escapeFree_showParam escapeFree.1⟩

theorem colorBlind_paramTable
    {dialect : Sql.Dialect}
    (mark : EscapeFree dialect.placeholders.mark)
    {params : List Param}
    (escapeFree : ∀ param ∈ params, param.EscapeFree) :
    ColorBlind fun colored => paramTable colored dialect params := by
  have cells := escapeFree_paramCells mark 1 escapeFree
  have rule :
      ∀ {edge : String}, EscapeFree edge →
        ColorBlind fun _ => ruleLine edge (columnWidths (paramCells dialect 1 params)) :=
    fun edge => .constant (escapeFree_ruleLine edge _)
  have header : ∀ cell ∈ headerCells, EscapeFree cell.content := by
    simp only [headerCells, List.forall_mem_map, EscapeFree]
    decide
  exact
    .append
      (.append
        (.append
          (.append (rule (by decide)) (colorBlind_cellLine _ header))
          (rule (by decide)))
        (.join_map fun line member => colorBlind_cellLine _ (cells line member)))
      (rule (by decide))

theorem colorBlind_countLine
    (count : Nat) :
    ColorBlind fun colored => countLine colored count := by
  refine .append (.append (.constant (by decide)) (.paint _ (.decimal count)))
    (.constant ?_)
  split <;>
    decide

theorem colorBlind_showTable
    {dialect : Sql.Dialect}
    (mark : EscapeFree dialect.placeholders.mark)
    {statement : Sql.Statement}
    (escapeFree : statement.EscapeFree) :
    ColorBlind fun colored => showTable colored dialect statement := by
  refine .append
    (.append
      (.append
        (.append (.paint _ (by decide)) (.constant (by decide)))
        (.paint _ escapeFree.text))
      (.constant (by decide))) ?_
  cases params : statement.parameters with
  | nil =>
      exact .append (.paint _ (by decide)) (.constant (by decide))
  | cons param rest =>
      have parameters := escapeFree.parameters
      rw [params] at parameters
      exact .append (colorBlind_paramTable mark parameters) (colorBlind_countLine _)

/-- Written JSON holds no escape character, and it is never coloured. -/
theorem escapeFree_showJson
    (dialect : Sql.Dialect)
    (statement : Sql.Statement) :
    EscapeFree (showJson dialect statement) :=
  .of_controlsBreakLines (Json.controlsBreakLines_writePretty 0 _)

theorem colorBlind_showStatement
    (format : OutputFormat)
    {dialect : Sql.Dialect}
    (mark : EscapeFree dialect.placeholders.mark)
    {statement : Sql.Statement}
    (escapeFree : statement.EscapeFree) :
    ColorBlind fun colored => showStatement colored format dialect statement := by
  cases format with
  | table =>
      exact colorBlind_showTable mark escapeFree
  | json =>
      exact .constant (escapeFree_showJson dialect statement)

/-- What is shown in colours, and what is shown without them. -/
structure PrintsAlike
    (write : Bool → String) : Prop where
  /-- All that colours add are whole escape sequences. -/
  sequences : ShowsAs (write true).toList (write false).toList
  /-- Their removal leaves what is shown without colours. -/
  removed : withoutEscapes (write true).toList = (write false).toList
  /-- The lines are the same ones, each without its sequences. -/
  lines :
    ((write true).toList.splitOn '\n').map withoutEscapes = (write false).toList.splitOn '\n'

theorem ColorBlind.printsAlike
    {write : Bool → String}
    (colorBlind : ColorBlind write) :
    PrintsAlike write :=
  ⟨colorBlind, colorBlind.withoutEscapes_eq, colorBlind.lines_withoutEscapes⟩

/--
For every statement, dialect and form, every error and every message whose
texts hold no escape character, the output in colours is the output without
them, as a whole and line by line, once its escape sequences are removed.  Of a
dialect this asks for the mark only, since its name is never shown in colours.
-/
theorem colors_change_no_print :
    (∀ (format : OutputFormat) (dialect : Sql.Dialect) (statement : Sql.Statement),
      EscapeFree dialect.placeholders.mark → statement.EscapeFree →
        PrintsAlike fun colored => showStatement colored format dialect statement)
      ∧ (∀ error : AgentError,
        EscapeFree error.given → PrintsAlike fun colored => showError colored error)
      ∧ ∀ message : String,
        EscapeFree message →
          (PrintsAlike fun colored => showSuccess colored message)
            ∧ PrintsAlike fun colored => showInfo colored message := by
  have headed :
      ∀ (style : Style) {title : String} {body : Bool → String},
        EscapeFree title → ColorBlind body →
          PrintsAlike fun colored => style.paint colored title ++ " " ++ body colored :=
    fun style _ _ title body =>
      (((ColorBlind.paint style title).append
        (.constant (by decide))).append body).printsAlike
  refine ⟨?statement, ?error, ?message⟩
  · intro format dialect statement mark escapeFree
    exact (colorBlind_showStatement format mark escapeFree).printsAlike
  · intro error given
    exact headed _ (by decide) (.paint _ (AgentError.escapeFree_message given))
  · intro message escapeFree
    exact
      ⟨headed _ (by decide) (.constant escapeFree),
        headed _ (by decide) (.constant escapeFree)⟩

/-- A statement with parameters of all kinds, one of them wider than its column's title. -/
def mixedStatement : Sql.Statement where
  text := "SELECT * FROM t WHERE a = $1\nLIMIT $5"
  parameters :=
    [.text "naïve\nm", .list [.null, .text "[0m"], .boolean false, .null, .integer 10]

theorem colors_change_no_print_mixed :
    EscapeFree Sql.Dialect.postgres.placeholders.mark
      ∧ mixedStatement.EscapeFree
      ∧ (PrintsAlike fun colored => showStatement colored .table .postgres mixedStatement)
      ∧ EscapeFree (AgentError.given (.transport (.unexpectedStatus 503 "busy")))
      ∧ (PrintsAlike fun colored =>
        showError colored (.transport (.unexpectedStatus 503 "busy")))
      ∧ EscapeFree "compiled for mysql"
      ∧ PrintsAlike fun colored => showInfo colored "compiled for mysql" := by
  obtain ⟨statements, errors, messages⟩ := colors_change_no_print
  have mark : EscapeFree Sql.Dialect.postgres.placeholders.mark := by
    decide
  have mixed : mixedStatement.EscapeFree := by
    refine ⟨by decide, ?_⟩
    simp only [mixedStatement, List.forall_mem_cons, List.not_mem_nil, false_implies,
      implies_true, and_true]
    refine ⟨.text (by decide), .list ?_, .boolean false, .null, .integer 10⟩
    simp only [List.forall_mem_cons, List.not_mem_nil, false_implies, implies_true, and_true]
    exact ⟨.null, .text (by decide)⟩
  have busy : EscapeFree (AgentError.given (.transport (.unexpectedStatus 503 "busy"))) := by
    decide
  have compiled : EscapeFree "compiled for mysql" := by
    decide
  exact
    ⟨mark, mixed, statements .table .postgres mixedStatement mark mixed, busy, errors _ busy,
      compiled, (messages _ compiled).2⟩

end Cli

end QueryAgent
