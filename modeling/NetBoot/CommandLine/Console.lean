/-
# Drawing on a terminal

How printed lines and tables look on a terminal without colours: style marks are
dropped, and a table is its title above its rows, in columns that are as wide as
their widest cell.
-/
import NetBoot.Display
import NetBoot.Text.Terminal

namespace NetBoot.Console

/-- The styles that marks turn on and off. -/
def styles : List String := ["red", "green", "dim", "bold"]

/-- The marks of all styles. -/
def marks : List (List Char) :=
  styles.flatMap fun style => [("[" ++ style ++ "]").toList, ("[/" ++ style ++ "]").toList]

/-- The length of the mark at the start of some characters; zero if there is none. -/
def markLength (chars : List Char) : Nat :=
  ((marks.find? fun mark => mark.isPrefixOf chars).map List.length).getD 0

/-- A text without marks. -/
def plain (markup : String) : String :=
  String.ofList (Text.dropRuns markLength 0 markup.toList)

/-- The width of each column. -/
def widths (rows : List (List String)) : List Nat :=
  let columns := (rows.map List.length).foldl max 0
  (List.range columns).map fun column =>
    (rows.map fun row => (row[column]?.getD "").length).foldl max 0

/-- A row with its cells filled up to the widths of their columns. -/
def drawRow (widths : List Nat) (row : List String) : String :=
  let cells := (row.zip widths).map fun (cell, width) => Text.column width cell
  String.ofList (Text.stripEndWhile (· == ' ') ("  ".intercalate cells).toList)

/-- The lines of a table. -/
def drawTable (table : Table) : List String :=
  let rows := (table.header.toList ++ table.rows).map fun row => row.map plain
  plain table.title :: rows.map (drawRow (widths rows))

/-- The lines of something that is printed. -/
def draw : Printed → List String
  | .line markup => [plain markup]
  | .table table => drawTable table

end NetBoot.Console
