import PolicyTrial.Text.ColumnWidth

/-!
# Tables

Rows of cells under a header, in frames with round corners. A cell may have several lines.

* `Table`: a header with its rows.
* `Table.text`: the table as it is shown.
-/

namespace PolicyTrial

/-- A header with its rows, which have as many cells. -/
structure Table where
  header : List String
  rows : List (List String)
  deriving Repr, DecidableEq

namespace Table

/-- The lines of a cell. -/
def cellLines (cell : String) : List (List Char) := List.splitOn '\n' cell.toList

/-- How wide a cell is. -/
def cellWidth (cell : String) : Nat := ((cellLines cell).map Text.columns).foldl max 0

/-- The widths of the columns: those of their widest cells. -/
def widths (t : Table) : List Nat :=
  t.rows.foldl (fun ws row => ws.zipWith max (row.map cellWidth)) (t.header.map cellWidth)

/-- A line on the left of a column. -/
def left (width : Nat) (line : List Char) : List Char :=
  line ++ List.replicate (width - Text.columns line) ' '

/-- A line in the middle of a column; an odd blank goes to the right. -/
def centred (width : Nat) (line : List Char) : List Char :=
  let fill := width - Text.columns line
  List.replicate (fill / 2) ' ' ++ line ++ List.replicate (fill - fill / 2) ' '

/-- A horizontal line of a frame with its two ends and its crossings. -/
def rule (first crossing last : Char) (widths : List Nat) : List Char :=
  let spans := widths.map fun w => List.replicate (w + 2) '─'
  first :: ([crossing] : List Char).intercalate spans ++ [last]

/-- The lines of a row, each cell placed in its column. -/
def rowLines (place : Nat → List Char → List Char) (widths : List Nat) (row : List String) :
    List (List Char) :=
  let cells := row.map cellLines
  let height := (cells.map List.length).foldl max 1
  (List.range height).map fun n =>
    let fields := (widths.zip cells).map fun (w, lines) =>
      ' ' :: place w ((lines[n]?).getD []) ++ [' ']
    '│' :: (['│'] : List Char).intercalate fields ++ ['│']

/-- The lines of a table. Without rows, the line under the header is the last one. -/
def lines (t : Table) : List (List Char) :=
  let ws := t.widths
  rule '╭' '┬' '╮' ws :: rowLines centred ws t.header ++ [rule '├' '┼' '┤' ws] ++
    t.rows.flatMap (rowLines left ws) ++ (if t.rows.isEmpty then [] else [rule '╰' '┴' '╯' ws])

/-- The table as it is shown, without an end of its last line. -/
def text (t : Table) : String := String.ofList ((['\n'] : List Char).intercalate t.lines)

end Table

end PolicyTrial
