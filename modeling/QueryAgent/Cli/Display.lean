import QueryAgent.Sql.Statement
import QueryAgent.Text.Ansi

namespace QueryAgent.Cli

/-!
# What the command line shows

A statement as its text with a table of its parameters, or as JSON; and the
messages that begin with a word for their kind.  Colours never change the
layout: widths count characters, not escape sequences.
-/

open Text

/-- The forms in which a statement is shown. -/
inductive OutputFormat where
  | table
  | json
deriving Repr, DecidableEq

/-- The name of a form. -/
def OutputFormat.name : OutputFormat → String
  | .table => "table"
  | .json => "json"

/-- Texts with a separator between each two. -/
def joinTexts
    (separator : String)
    (parts : List String) : String :=
  separator.intercalate parts

mutual

/-- A parameter as it is shown. -/
def showParam : Param → String
  | .null =>
      "NULL"
  | .text content =>
      "'" ++ content ++ "'"
  | .list items =>
      "[" ++ joinTexts ", " (showParams items) ++ "]"
  | .boolean value =>
      Json.compact (.boolean value)
  | .integer value =>
      Json.compact (.integer value.toInt)
  | .float value =>
      Json.compact (.float value)

/-- Each parameter as it is shown. -/
def showParams : List Param → List String
  | [] =>
      []
  | param :: rest =>
      showParam param :: showParams rest

end

/-- The style of a parameter, by its kind. -/
def paramStyle : Param → Style
  | .text _ => .plain
  | .integer _ => .inColor .blue
  | .float _ => .inColor .blue
  | .boolean true => .inColor .green
  | .boolean false => .inColor .red
  | .list _ => .inColor .magenta
  | .null => .inDim

/-- A cell of the table: what it holds and how it looks. -/
structure Cell where
  content : String
  style : Style
deriving Repr, DecidableEq

/-- The cells of the header. -/
def headerCells : List Cell :=
  ["#", "placeholder", "value"].map (fun title => ⟨title, .inBoldColor .cyan⟩)

/-- The cells of the parameters, numbered from the given number. -/
def paramCells
    (dialect : Sql.Dialect)
    (number : Nat) : List Param → List (List Cell)
  | [] =>
      []
  | param :: rest =>
      [⟨decimal number, .plain⟩,
        ⟨dialect.placeholders.marker number, .plain⟩,
        ⟨showParam param, paramStyle param⟩]
        :: paramCells dialect (number + 1) rest

/-- The widths of the columns after one more line. -/
def widen
    (widths : List Nat)
    (cells : List Cell) : List Nat :=
  List.zipWith (fun width cell => max width cell.content.length) widths cells

/-- The widths at which every line fits. -/
def columnWidths
    (lines : List (List Cell)) : List Nat :=
  lines.foldl widen (headerCells.map (fun cell => cell.content.length))

/-- A line of dashes between two edges. -/
def ruleLine
    (edge : String)
    (widths : List Nat) : String :=
  edge
    ++ String.join (widths.map (fun width => String.ofList (List.replicate (width + 2) '-') ++ edge))
    ++ "\n"

/-- A cell with blanks up to its width. -/
def showCell
    (colored : Bool)
    (width : Nat)
    (cell : Cell) : String :=
  " " ++ cell.style.paint colored cell.content
    ++ String.ofList (List.replicate (width - cell.content.length) ' ') ++ " |"

/-- A line of cells. -/
def cellLine
    (colored : Bool)
    (widths : List Nat)
    (cells : List Cell) : String :=
  "|" ++ String.join (List.zipWith (showCell colored) widths cells) ++ "\n"

/-- The table of parameters. -/
def paramTable
    (colored : Bool)
    (dialect : Sql.Dialect)
    (params : List Param) : String :=
  let lines := paramCells dialect 1 params
  let widths := columnWidths lines
  ruleLine "+" widths
    ++ cellLine colored widths headerCells
    ++ ruleLine "|" widths
    ++ String.join (lines.map (cellLine colored widths))
    ++ ruleLine "+" widths

/-- The number of parameters in words. -/
def countLine
    (colored : Bool)
    (count : Nat) : String :=
  "\n" ++ (Style.inBoldColor .green).paint colored (decimal count)
    ++ (if count = 1 then " parameter\n" else " parameters\n")

/-- A statement as its text and a table of its parameters. -/
def showTable
    (colored : Bool)
    (dialect : Sql.Dialect)
    (statement : Sql.Statement) : String :=
  Style.inBold.paint colored "SQL:" ++ " "
    ++ (Style.inColor .cyan).paint colored statement.text ++ "\n"
    ++ match statement.parameters with
      | [] =>
          Style.inDim.paint colored "No parameters." ++ "\n"
      | params =>
          paramTable colored dialect params ++ countLine colored params.length

/-- A statement as JSON, with the dialect. -/
def showJson
    (dialect : Sql.Dialect)
    (statement : Sql.Statement) : String :=
  Json.pretty
    (.object
      [("dialect", .text dialect.name),
        ("parameters", .list (Param.toItems statement.parameters)),
        ("text", .text statement.text)])

/-- A statement in a form. -/
def showStatement
    (colored : Bool)
    (format : OutputFormat)
    (dialect : Sql.Dialect)
    (statement : Sql.Statement) : String :=
  match format with
  | .table =>
      showTable colored dialect statement
  | .json =>
      showJson dialect statement

/-- An error as it is shown. -/
def showError
    (colored : Bool)
    (error : AgentError) : String :=
  (Style.inBoldColor .red).paint colored "Error:" ++ " "
    ++ (Style.inColor .red).paint colored error.message

/-- A success as it is shown. -/
def showSuccess
    (colored : Bool)
    (message : String) : String :=
  (Style.inBoldColor .green).paint colored "Success:" ++ " " ++ message

/-- A piece of information as it is shown. -/
def showInfo
    (colored : Bool)
    (message : String) : String :=
  (Style.inBoldColor .blue).paint colored "Info:" ++ " " ++ message

end QueryAgent.Cli
