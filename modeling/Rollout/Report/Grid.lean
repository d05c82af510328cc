import Rollout.Text.Search
import Rollout.Text.Width

/-!
# Rollout.Report.Grid — tables of text

Cells stand between rules of dashes and plus signs, one blank either side, each column as wide as its widest
line.  A cell may have several lines.
-/

namespace Rollout.Report

/-- The columns a cell takes. -/
def cellWidth (s : String) : Nat := (Text.lines s).foldl (fun n l => max n (Text.width l)) 0

/-- The widths of the columns of rows with so many cells. -/
def columnWidths (count : Nat) (rows : List (List String)) : List Nat :=
  (List.range count).map fun i => rows.foldl (fun n row => max n (cellWidth (row.getD i ""))) 0

def rule (widths : List Nat) : String :=
  "+" ++ String.join (widths.map fun w => String.ofList (List.replicate (w + 2) '-') ++ "+")

/-- A text with blanks up to a width. -/
def padTo (w : Nat) (s : String) : String := s ++ String.ofList (List.replicate (w - Text.width s) ' ')

/-- The lines of one row. -/
def rowLines (widths : List Nat) (row : List String) : List String :=
  let cells := row.map Text.lines
  let height := cells.foldl (fun n ls => max n ls.length) 1
  (List.range height).map fun i =>
    "|" ++ String.join ((cells.zip widths).map fun (ls, w) => " " ++ padTo w (ls.getD i "") ++ " |")

/-- The table of rows, the first of which is the heading. -/
def grid (rows : List (List String)) : String :=
  let widths := columnWidths ((rows.head?.map List.length).getD 0) rows
  let body := rows.flatMap fun row => rule widths :: rowLines widths row
  String.intercalate "\n" (body ++ [rule widths])

end Rollout.Report
