import QueryAgent.Cli.Display
import QueryAgent.Proofs.Sql.Markers
import QueryAgent.Proofs.Text.Trimming
import Mathlib.Data.List.Forall2

namespace QueryAgent.Cli

/-!
# Tables of parameters

A column is as wide as the widest of its cells, and every cell gets blanks up to
the width of its column.  So all lines of a table are equally long, and each
holds its cells whole.
-/

/-- Each entry of the second list belongs to one of the first. -/
theorem exists_of_mem_right
    {related : α → β → Prop}
    {firsts : List α}
    {seconds : List β}
    (pairs : List.Forall₂ related firsts seconds) :
    ∀ second ∈ seconds, ∃ first ∈ firsts, related first second := by
  induction pairs with
  | nil =>
      exact nofun
  | @cons first second firsts seconds pair pairs inductionHypothesis =>
      refine List.forall_mem_cons.mpr ⟨⟨first, by simp, pair⟩, fun other member => ?_⟩
      obtain ⟨found, inFirsts, relatedFound⟩ := inductionHypothesis other member
      exact ⟨found, by simp [inFirsts], relatedFound⟩

/-! ## Widths -/

/-- Every cell of a line fits into its column. -/
def Fits
    (widths : List Nat)
    (cells : List Cell) : Prop :=
  List.Forall₂ (fun width cell => cell.content.length ≤ width) widths cells

/-- Widths that take one more line have room for it. -/
theorem fits_widen
    {widths : List Nat}
    {cells : List Cell}
    (columns : widths.length = cells.length) :
    Fits (widen widths cells) cells := by
  induction widths generalizing cells with
  | nil =>
      obtain rfl := List.length_eq_zero_iff.mp columns.symm
      exact .nil
  | cons width widths inductionHypothesis =>
      obtain ⟨cell, rest, rfl⟩ := List.exists_cons_of_length_eq_add_one columns.symm
      exact .cons (Nat.le_max_right _ _) (inductionHypothesis (Nat.succ.inj columns))

/-- Widths that take one more line keep room for the others. -/
theorem Fits.widen
    {widths : List Nat}
    {cells others : List Cell}
    (fits : Fits widths cells)
    (columns : cells.length = others.length) :
    Fits (widen widths others) cells := by
  induction fits generalizing others with
  | nil =>
      obtain rfl := List.length_eq_zero_iff.mp columns.symm
      exact .nil
  | cons first rest inductionHypothesis =>
      obtain ⟨other, others, rfl⟩ := List.exists_cons_of_length_eq_add_one columns.symm
      exact .cons (first.trans (Nat.le_max_left _ _)) (inductionHypothesis (Nat.succ.inj columns))

/-- The widths that take all lines have room for each, and for what had room before. -/
theorem fits_foldl_widen
    {columns : Nat}
    {lines : List (List Cell)}
    (full : ∀ line ∈ lines, line.length = columns)
    {widths : List Nat}
    (start : widths.length = columns) :
    (∀ cells, Fits widths cells → Fits (lines.foldl widen widths) cells)
      ∧ ∀ line ∈ lines, Fits (lines.foldl widen widths) line := by
  induction lines generalizing widths with
  | nil =>
      exact ⟨fun _ fits => fits, nofun⟩
  | cons line lines inductionHypothesis =>
      rw [List.forall_mem_cons] at full
      have room : Fits (widen widths line) line := fits_widen (start.trans full.1.symm)
      obtain ⟨kept, each⟩ :=
        inductionHypothesis full.2 (room.length_eq.trans full.1)
      refine ⟨fun cells fits => kept cells (fits.widen ?_), List.forall_mem_cons.mpr ⟨?_, each⟩⟩
      · rw [← fits.length_eq, start, full.1]
      · exact kept line room

theorem length_of_mem_paramCells
    {dialect : Sql.Dialect}
    {number : Nat}
    {params : List Param}
    {cells : List Cell}
    (member : cells ∈ paramCells dialect number params) :
    cells.length = 3 := by
  induction params generalizing number with
  | nil =>
      cases member
  | cons param rest inductionHypothesis =>
      rcases List.mem_cons.mp member with rfl | further
      · rfl
      · exact inductionHypothesis further

/-- The columns have room for the header and for every parameter. -/
theorem fits_columnWidths
    (dialect : Sql.Dialect)
    (params : List Param) :
    let cells := paramCells dialect 1 params
    Fits (columnWidths cells) headerCells ∧ ∀ line ∈ cells, Fits (columnWidths cells) line := by
  have header : Fits (headerCells.map fun cell => cell.content.length) headerCells := by
    rw [Fits, List.forall₂_map_left_iff, List.forall₂_same]
    exact fun cell _ => Nat.le_refl _
  obtain ⟨kept, each⟩ :=
    fits_foldl_widen (fun line => length_of_mem_paramCells) header.length_eq
  exact ⟨kept _ header, each⟩

/-! ## Lines -/

/--
A line between bars holds for each column a blank, the whole text of its cell,
blanks up to the width of the column, and one more blank.
-/
inductive SpellsLine : List Nat → List String → List Char → Prop where
  | nil :
      SpellsLine [] [] ['|']
  | cons
      {width blanks : Nat}
      {content : String}
      {widths : List Nat}
      {contents : List String}
      {rest : List Char}
      (filled : content.length + blanks = width)
      (further : SpellsLine widths contents rest) :
      SpellsLine (width :: widths) (content :: contents)
        ('|' :: ' ' :: (content.toList ++ (List.replicate blanks ' ' ++ ' ' :: rest)))

/-- A line of dashes, with an edge where a line of cells has a bar. -/
def ruleOf
    (edge : Char) : List Nat → List Char
  | [] =>
      [edge]
  | width :: widths =>
      edge :: (List.replicate (width + 2) '-' ++ ruleOf edge widths)

/-- The number of characters that columns and what stands around them take. -/
def lineLength : List Nat → Nat
  | [] =>
      1
  | width :: widths =>
      width + 3 + lineLength widths

theorem length_ruleOf
    (edge : Char)
    (widths : List Nat) :
    (ruleOf edge widths).length = lineLength widths := by
  induction widths with
  | nil =>
      rfl
  | cons width widths inductionHypothesis =>
      simp only [ruleOf, List.length_cons, List.length_append, List.length_replicate,
        inductionHypothesis, lineLength]
      omega

theorem SpellsLine.length_eq
    {widths : List Nat}
    {contents : List String}
    {line : List Char}
    (spells : SpellsLine widths contents line) :
    line.length = lineLength widths := by
  induction spells with
  | nil =>
      rfl
  | cons filled further inductionHypothesis =>
      simp only [List.length_cons, List.length_append, List.length_replicate,
        String.length_toList, inductionHypothesis, lineLength, ← filled]
      omega

theorem newline_not_mem_ruleOf
    {edge : Char}
    (noBreak : '\n' ≠ edge)
    (widths : List Nat) :
    '\n' ∉ ruleOf edge widths := by
  induction widths with
  | nil =>
      simpa [ruleOf] using noBreak
  | cons width widths inductionHypothesis =>
      simp [ruleOf, noBreak, inductionHypothesis]

/-- A line is broken nowhere but inside of its cells. -/
theorem SpellsLine.newline_not_mem
    {widths : List Nat}
    {contents : List String}
    {line : List Char}
    (spells : SpellsLine widths contents line)
    (unbroken : ∀ content ∈ contents, '\n' ∉ content.toList) :
    '\n' ∉ line := by
  induction spells with
  | nil =>
      decide
  | cons filled further inductionHypothesis =>
      rw [List.forall_mem_cons] at unbroken
      simp [unbroken.1, inductionHypothesis unbroken.2]

/-- A line of cells that fit is written with each of them whole. -/
theorem Fits.exists_spellsLine
    {widths : List Nat}
    {cells : List Cell}
    (fits : Fits widths cells) :
    ∃ line,
      (cellLine false widths cells).toList = line ++ ['\n']
        ∧ SpellsLine widths (cells.map Cell.content) line := by
  suffices written :
      ∃ line,
        "|".toList ++ (String.join (List.zipWith (showCell false) widths cells)).toList = line
          ∧ SpellsLine widths (cells.map Cell.content) line by
    obtain ⟨line, rfl, spells⟩ := written
    exact ⟨_, by simp [cellLine], spells⟩
  induction fits with
  | nil =>
      exact ⟨_, rfl, .nil⟩
  | @cons width cell widths cells room further inductionHypothesis =>
      obtain ⟨line, written, spells⟩ := inductionHypothesis
      refine ⟨_, ?_, .cons (Nat.add_sub_of_le room) spells⟩
      simp [← written, String.join_cons, showCell, Text.Style.paint]

theorem toList_ruleLine
    (edge : Char)
    (widths : List Nat) :
    (ruleLine (String.singleton edge) widths).toList = ruleOf edge widths ++ ['\n'] := by
  suffices written :
      edge :: (String.join (widths.map fun width =>
        String.ofList (List.replicate (width + 2) '-') ++ String.singleton edge)).toList =
          ruleOf edge widths by
    simp [ruleLine, ← written]
  induction widths with
  | nil =>
      rfl
  | cons width widths inductionHypothesis =>
      simp [String.join_cons, ruleOf, ← inductionHypothesis]

/-- Lines with a break behind each. -/
def brokenLines
    (lines : List (List Char)) : List Char :=
  lines.flatMap (· ++ ['\n'])

/-- Lines that hold no breaks are what a text is split into at its breaks. -/
theorem splitOn_brokenLines_append
    {lines : List (List Char)}
    (unbroken : ∀ line ∈ lines, '\n' ∉ line)
    (after : List Char) :
    (brokenLines lines ++ after).splitOn '\n' = lines ++ after.splitOn '\n' := by
  induction lines with
  | nil =>
      rfl
  | cons line lines inductionHypothesis =>
      rw [List.forall_mem_cons] at unbroken
      have opened :
          brokenLines (line :: lines) ++ after =
            line ++ ('\n' :: (brokenLines lines ++ after)) := by
        simp [brokenLines]
      rw [opened, Text.splitOn_append_of_not_mem unbroken.1, Text.splitOn_cons_self,
        inductionHypothesis unbroken.2]
      simp

/-- What the line of a parameter holds: its number, its marker, and its value as it is shown. -/
def paramContents
    (dialect : Sql.Dialect)
    (numbered : Param × Nat) : List String :=
  [Text.decimal numbered.2, dialect.placeholders.marker numbered.2, showParam numbered.1]

/-- Each parameter has one line, in their order. -/
theorem exists_lines_of_params
    {dialect : Sql.Dialect}
    {widths : List Nat}
    {number : Nat}
    {params : List Param}
    (fits : ∀ cells ∈ paramCells dialect number params, Fits widths cells) :
    ∃ lines,
      (String.join ((paramCells dialect number params).map (cellLine false widths))).toList =
          brokenLines lines
        ∧ List.Forall₂ (SpellsLine widths) ((params.zipIdx number).map (paramContents dialect))
          lines := by
  induction params generalizing number with
  | nil =>
      exact ⟨[], rfl, .nil⟩
  | cons param rest inductionHypothesis =>
      rw [paramCells, List.forall_mem_cons] at fits
      obtain ⟨line, written, spells⟩ := fits.1.exists_spellsLine
      obtain ⟨lines, further, spellRest⟩ := inductionHypothesis fits.2
      refine ⟨line :: lines, ?_, .cons spells spellRest⟩
      rw [paramCells, List.map_cons, String.join_cons, String.toList_append, written, further]
      rfl

/-- The words behind the table, on a line of their own. -/
def countWords
    (count : Nat) : List Char :=
  Text.decimalList count ++ (if count = 1 then " parameter" else " parameters").toList

/-- A count holds no line break. -/
theorem newline_not_mem_countWords
    (count : Nat) :
    '\n' ∉ countWords count := by
  rw [countWords, List.mem_append, not_or]
  refine ⟨Text.not_mem_decimalList (by decide) count, ?_⟩
  split <;>
    decide

theorem newline_not_mem_paramContents
    {dialect : Sql.Dialect}
    (mark : '\n' ∉ dialect.placeholders.mark.toList)
    {numbered : Param × Nat}
    (unbroken : '\n' ∉ (showParam numbered.1).toList) :
    ∀ content ∈ paramContents dialect numbered, '\n' ∉ content.toList := by
  have number : '\n' ∉ (Text.decimal numbered.2).toList := by
    rw [Text.decimal, String.toList_ofList]
    exact Text.not_mem_decimalList (by decide) _
  have marker : '\n' ∉ (dialect.placeholders.marker numbered.2).toList := by
    revert mark
    cases dialect.placeholders with
    | positional mark =>
        exact id
    | numbered mark =>
        intro absent
        simpa [Sql.PlaceholderStyle.marker, String.toList_append] using ⟨absent, number⟩
  simp only [paramContents, List.forall_mem_cons, List.not_mem_nil, false_implies, implies_true,
    and_true]
  exact ⟨number, marker, unbroken⟩

/-! ## The table -/

/-- The table is a border, the header, a separator, the parameters and a border again. -/
def tableLines
    (widths : List Nat)
    (header : List Char)
    (lines : List (List Char)) : List (List Char) :=
  ruleOf '+' widths :: header :: ruleOf '|' widths :: (lines ++ [ruleOf '+' widths])

/-- What is shown of parameters are lines of a header and of each parameter, whole and in order. -/
theorem exists_tableLines
    (dialect : Sql.Dialect)
    (params : List Param) :
    ∃ widths header lines,
      (paramTable false dialect params).toList = brokenLines (tableLines widths header lines)
        ∧ SpellsLine widths ["#", "placeholder", "value"] header
        ∧ List.Forall₂ (SpellsLine widths) ((params.zipIdx 1).map (paramContents dialect))
          lines := by
  obtain ⟨fitsHeader, fitsLines⟩ := fits_columnWidths dialect params
  obtain ⟨header, writtenHeader, spellsHeader⟩ := fitsHeader.exists_spellsLine
  obtain ⟨lines, writtenLines, spellLines⟩ := exists_lines_of_params fitsLines
  refine ⟨_, header, lines, ?_, spellsHeader, spellLines⟩
  have border := toList_ruleLine '+' (columnWidths (paramCells dialect 1 params))
  have separator := toList_ruleLine '|' (columnWidths (paramCells dialect 1 params))
  simp only [paramTable, String.toList_append, writtenHeader, writtenLines]
  rw [show "+" = String.singleton '+' from rfl, border,
    show "|" = String.singleton '|' from rfl, separator]
  simp [tableLines, brokenLines]

/-- A table has only lines of one length, as its columns have one width each. -/
theorem length_of_mem_tableLines
    {widths : List Nat}
    {header : List Char}
    {titles : List String}
    (spellsHeader : SpellsLine widths titles header)
    {lines : List (List Char)}
    {contents : List (List String)}
    (spellLines : List.Forall₂ (SpellsLine widths) contents lines) :
    ∀ line ∈ tableLines widths header lines, line.length = lineLength widths := by
  have each : ∀ line ∈ lines, line.length = lineLength widths := by
    intro line member
    obtain ⟨_, _, spells⟩ := exists_of_mem_right spellLines line member
    exact spells.length_eq
  simp only [tableLines, List.forall_mem_cons, List.forall_mem_append, List.not_mem_nil,
    false_implies, implies_true, and_true]
  exact
    ⟨length_ruleOf '+' widths, spellsHeader.length_eq, length_ruleOf '|' widths, each,
      length_ruleOf '+' widths⟩

/-- A table breaks only between its lines when no cell of it holds a break. -/
theorem newline_not_mem_of_mem_tableLines
    {widths : List Nat}
    {header : List Char}
    {titles : List String}
    (spellsHeader : SpellsLine widths titles header)
    (unbrokenTitles : ∀ title ∈ titles, '\n' ∉ title.toList)
    {lines : List (List Char)}
    {contents : List (List String)}
    (spellLines : List.Forall₂ (SpellsLine widths) contents lines)
    (unbroken : ∀ cells ∈ contents, ∀ content ∈ cells, '\n' ∉ content.toList) :
    ∀ line ∈ tableLines widths header lines, '\n' ∉ line := by
  have each : ∀ line ∈ lines, '\n' ∉ line := by
    intro line member
    obtain ⟨cells, inContents, spells⟩ := exists_of_mem_right spellLines line member
    exact spells.newline_not_mem (unbroken cells inContents)
  have border : '\n' ∉ ruleOf '+' widths := newline_not_mem_ruleOf (by decide) widths
  simp only [tableLines, List.forall_mem_cons, List.forall_mem_append, List.not_mem_nil,
    false_implies, implies_true, and_true]
  exact
    ⟨border, spellsHeader.newline_not_mem unbrokenTitles,
      newline_not_mem_ruleOf (by decide) widths, each, border⟩

/-- A statement with parameters is shown as its text, the table and their count. -/
theorem toList_showTable
    (dialect : Sql.Dialect)
    {statement : Sql.Statement}
    (nonempty : statement.parameters ≠ []) :
    (showTable false dialect statement).toList =
      ("SQL: " ++ statement.text ++ "\n").toList
        ++ ((paramTable false dialect statement.parameters).toList
          ++ '\n' :: (countWords statement.parameters.length ++ ['\n'])) := by
  have counted :
      (countLine false statement.parameters.length).toList =
        '\n' :: (countWords statement.parameters.length ++ ['\n']) := by
    unfold countLine countWords
    split <;>
      simp [Text.Style.paint, Text.decimal]
  unfold showTable
  split
  next none =>
      exact absurd none nonempty
  next =>
      simp [counted, Text.Style.paint]

/--
Below the text of a statement with parameters stand a border, a header, a
separator, exactly one line for each parameter in their order, and the border
again, all of one length; an empty line and the count follow.  The line of a
parameter holds its number from one, its marker and its value, each of them
whole.  When no value holds a line break, these are the lines of the output, in
both dialects as in any other one whose mark holds none.
-/
theorem param_table_aligned
    (dialect : Sql.Dialect)
    {statement : Sql.Statement}
    (nonempty : statement.parameters ≠ [])
    (unbroken : ∀ param ∈ statement.parameters, '\n' ∉ (showParam param).toList) :
    ∃ widths header lines,
      let table := tableLines widths header lines
      let count := countWords statement.parameters.length
      let below := brokenLines table ++ '\n' :: (count ++ ['\n'])
      (showStatement false .table dialect statement).toList =
          ("SQL: " ++ statement.text ++ "\n").toList ++ below
        ∧ SpellsLine widths ["#", "placeholder", "value"] header
        ∧ List.Forall₂ (SpellsLine widths)
          ((statement.parameters.zipIdx 1).map (paramContents dialect)) lines
        ∧ (∀ line ∈ table, line.length = lineLength widths)
        ∧ (dialect = .postgres ∨ dialect = .mysql ∨
            '\n' ∉ dialect.placeholders.mark.toList →
          below.splitOn '\n' = table ++ [[], count, []]) := by
  obtain ⟨widths, header, lines, written, spellsHeader, spellLines⟩ :=
    exists_tableLines dialect statement.parameters
  refine
    ⟨widths, header, lines, ?shown, spellsHeader, spellLines,
      length_of_mem_tableLines spellsHeader spellLines, fun unbrokenMark => ?split⟩
  case shown =>
      rw [← written]
      exact toList_showTable dialect nonempty
  case split =>
      have mark : '\n' ∉ dialect.placeholders.mark.toList := by
        rcases unbrokenMark with rfl | rfl | mark
        · decide
        · decide
        · exact mark
      have cells :
          ∀ cells ∈ (statement.parameters.zipIdx 1).map (paramContents dialect),
            ∀ content ∈ cells, '\n' ∉ content.toList := by
        rw [List.forall_mem_map]
        intro numbered member
        exact newline_not_mem_paramContents mark (unbroken _ (List.fst_mem_of_mem_zipIdx member))
      rw [splitOn_brokenLines_append
          (newline_not_mem_of_mem_tableLines spellsHeader (by decide) spellLines cells),
        Text.splitOn_cons_self,
        Text.splitOn_append_of_not_mem (newline_not_mem_countWords _), Text.splitOn_cons_self]
      simp

/-- A statement with a list in a list, an empty text, and more bytes than characters. -/
def nestedStatement : Sql.Statement where
  text := "SELECT * FROM t\nWHERE a = ?"
  parameters := [.list [.null, .list [.text "é"]], .text "", .boolean true]

theorem param_table_aligned_nested :
    nestedStatement.parameters ≠ []
      ∧ (∀ param ∈ nestedStatement.parameters, '\n' ∉ (showParam param).toList)
      ∧ ∃ widths header lines,
        lines.length = 3
          ∧ List.Forall₂ (SpellsLine widths)
            [["1", "?", "[NULL, ['é']]"], ["2", "?", "''"], ["3", "?", "true"]] lines
          ∧ (∀ line ∈ tableLines widths header lines, line.length = lineLength widths)
          ∧ (brokenLines (tableLines widths header lines)
              ++ '\n' :: (countWords 3 ++ ['\n'])).splitOn '\n' =
            tableLines widths header lines ++ [[], "3 parameters".toList, []] := by
  have nonempty : nestedStatement.parameters ≠ [] := by
    decide
  have unbroken : ∀ param ∈ nestedStatement.parameters, '\n' ∉ (showParam param).toList := by
    simp only [nestedStatement, List.forall_mem_cons, List.not_mem_nil, false_implies,
      implies_true, and_true]
    decide
  obtain ⟨widths, header, lines, _, _, spells, lengths, splits⟩ :=
    param_table_aligned .mysql nonempty unbroken
  have contents :
      (nestedStatement.parameters.zipIdx 1).map (paramContents .mysql) =
        [["1", "?", "[NULL, ['é']]"], ["2", "?", "''"], ["3", "?", "true"]] := by
    decide +kernel
  have words : countWords 3 = "3 parameters".toList := by
    decide +kernel
  rw [contents] at spells
  refine
    ⟨nonempty, unbroken, widths, header, lines, spells.length_eq.symm, spells, lengths, ?_⟩
  rw [← words]
  exact splits (.inr (.inl rfl))

end QueryAgent.Cli
