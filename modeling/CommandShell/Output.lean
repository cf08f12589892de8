import CommandShell.Json.Printer
import CommandShell.Text.Lines
import CommandShell.Text.Width

/-!
# What a command shows

Records become a table: a header, a rule and a line for each record. The columns are the names of
all records in the order in which they first appear; every cell but the last of a line is filled up
to the width of its column. How wide a text is, is up to the terminal.

    table width rs = header, rule, rows      (none for no records)
-/

namespace CommandShell

inductive Output where
  | nothing
  | text (s : String)
  | lines (ls : List String)
  | records (rs : List Json.Record)
  | value (v : Json)

namespace Output

/-! ## Tables -/

/-- The text of a cell: a string as it is, nothing for null, other values on one line. -/
def cellText : Json → String
  | .null => ""
  | .string s => s
  | v => v.compact

/-- Adds the names that are not among the columns yet. -/
def addColumns (columns : List String) (r : Json.Record) : List String :=
  r.foldl (fun cs m => if cs.contains m.1 then cs else cs ++ [m.1]) columns

/-- All names of the records, each once, in the order in which they first appear. -/
def columns (rs : List Json.Record) : List String :=
  rs.foldl addColumns []

/-- The cells of a record; a missing one is empty. -/
def cells (columns : List String) (r : Json.Record) : List String :=
  columns.map fun name => ((Assoc.find? name r).map cellText).getD ""

/-- The columns of the widest text. -/
def widest (width : String → Nat) (texts : List String) : Nat :=
  (texts.map width).foldl max 0

/-- The texts of each column, the header first. -/
def columnTexts (columns : List String) (rs : List Json.Record) : List (List String) :=
  columns.map fun name => name :: rs.map fun r => ((Assoc.find? name r).map cellText).getD ""

def gap : String := "  "

/-- A cell filled up to the columns `room`. -/
def padCell (width : String → Nat) (room : Nat) (cell : String) : String :=
  cell ++ String.ofList (List.replicate (room - width cell) ' ')

/-- A line of cells with the widths of their columns; the last cell is not filled up. -/
def joinRow (width : String → Nat) : List Nat → List String → String
  | _, [] => ""
  | _, [cell] => cell
  | w :: widths, cell :: rest => padCell width w cell ++ gap ++ joinRow width widths rest
  | [], cell :: rest => cell ++ gap ++ joinRow width [] rest

def rule (widths : List Nat) : String :=
  String.intercalate gap (widths.map fun w => String.ofList (List.replicate w '-'))

/-- The lines of a table. -/
def table (width : String → Nat) (rs : List Json.Record) : List String :=
  if rs.isEmpty then []
  else
    let cols := columns rs
    let widths := (columnTexts cols rs).map (widest width)
    joinRow width widths cols :: rule widths :: rs.map fun r => joinRow width widths (cells cols r)

/-! ## Lines -/

/-- The lines that show an output on the terminal. -/
def render : Output → List String
  | nothing => []
  | text s => [s]
  | lines ls => ls
  | records rs => table Text.width rs
  | value v => Text.lines v.pretty

end Output
end CommandShell
