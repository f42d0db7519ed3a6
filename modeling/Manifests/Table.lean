import Manifests.Text.Split
import Manifests.Text.Width

/-!
Tables drawn with box characters.  A column is as wide as its widest line, and a row as high as its
highest cell.
-/
namespace Manifests.Table

inductive Alignment where
  | left
  | center
  deriving Repr, DecidableEq

structure Column where
  title : String
  alignment : Alignment
  deriving Repr, DecidableEq

/-- The characters of a rule: its ends, the line itself, and the crossing of a column border. -/
structure Rule where
  start : Char
  line : Char
  cross : Char
  stop : Char

def top : Rule := ⟨'┌', '─', '┬', '┐'⟩

def underHeader : Rule := ⟨'╞', '═', '╪', '╡'⟩

def betweenRows : Rule := ⟨'├', '╌', '┼', '┤'⟩

def bottom : Rule := ⟨'└', '─', '┴', '┘'⟩

def cellLines (cell : String) : List (List Char) := Text.splitAt '\n' cell.toList

/-- The width of a column: that of the widest line in it. -/
def columnWidth (cells : List String) : Nat :=
  ((cells.flatMap cellLines).map Text.width).foldl max 0

def blanks (n : Nat) : List Char := List.replicate n ' '

/-- A line filled up to a width; in the center the odd blank stands in front. -/
def align (a : Alignment) (width : Nat) (line : List Char) : List Char :=
  let free := width - Text.width line
  match a with
  | .left => line ++ blanks free
  | .center => blanks ((free + 1) / 2) ++ line ++ blanks (free / 2)

def Rule.draw (r : Rule) (widths : List Nat) : List Char :=
  let parts := widths.map fun w => List.replicate (w + 2) r.line
  r.start :: (List.intercalate [r.cross] parts) ++ [r.stop, '\n']

/-- One line of a row from the lines of its cells. -/
def drawLine (parts : List (List Char)) : List Char :=
  '│' :: List.intercalate ['┆'] (parts.map fun p => ' ' :: p ++ [' ']) ++ ['│', '\n']

/-- A row with as many lines as its highest cell has. -/
def drawRow (columns : List (Alignment × Nat)) (cells : List String) : List Char :=
  let cells := (columns.zip cells).map fun (column, cell) => (column, cellLines cell)
  let height := (cells.map fun (_, lines) => lines.length).foldl max 0
  (List.range height).flatMap fun i =>
    drawLine (cells.map fun ((alignment, width), lines) => align alignment width (lines.getD i []))

def column (rows : List (List String)) (i : Nat) : List String := rows.map fun row => row.getD i ""

/-- The table without a line break at its end. -/
def draw (columns : List Column) (rows : List (List String)) : String :=
  let titles := columns.map (·.title)
  let widths := (List.range columns.length).map fun i => columnWidth (column (titles :: rows) i)
  let layout := (columns.map (·.alignment)).zip widths
  let body := List.intercalate (betweenRows.draw widths) (rows.map (drawRow layout))
  let text := top.draw widths ++ drawRow layout titles ++ underHeader.draw widths ++ body ++
    bottom.draw widths
  String.ofList text.dropLast

end Manifests.Table
