import CpuUsage.Text.Split
import CpuUsage.Text.Width

/-! Tables with rounded corners: a header, a line, and the rows. Every cell has a blank on each side and is filled up
to the width of its column; a cell of several lines makes its row higher. -/
namespace CpuUsage

structure Table where
  header : List String
  rows : List (List String)
  deriving DecidableEq

namespace Table

abbrev Cell : Type :=
  List (List Char)

def cell (text : String) : Cell :=
  splitParts (· = '\x0a') text.toList

def cellWidth (c : Cell) : Nat :=
  (c.map Width.ofText).foldl max 0

def columnWidths : List (List Cell) → List Nat
  | [] => []
  | row :: rows => rows.foldl (fun widths r => List.zipWith (fun w c => max w (cellWidth c)) widths r) (row.map cellWidth)

def fill (width : Nat) (line : List Char) : List Char :=
  ' ' :: line ++ List.replicate (width - Width.ofText line) ' ' ++ [' ']

/-- One line of a row; cells that are not so high are empty there. -/
def rowLine (widths : List Nat) (row : List Cell) (i : Nat) : List Char :=
  '│' :: (List.zipWith (fun w (c : Cell) => fill w ((c.drop i).headD [])) widths row).flatMap (· ++ ['│'])

def rowLines (widths : List Nat) (row : List Cell) : List (List Char) :=
  (List.range ((row.map List.length).foldl max 1)).map (rowLine widths row)

/-- A line between rows, or above or below them. -/
def rule (left mark right : Char) (widths : List Nat) : List Char :=
  left :: [mark].intercalate (widths.map fun w => List.replicate (w + 2) '─') ++ [right]

def lines (t : Table) : List (List Char) :=
  let header := t.header.map cell
  let rows := t.rows.map (·.map cell)
  let widths := columnWidths (header :: rows)
  [rule '╭' '┬' '╮' widths] ++ rowLines widths header ++ [rule '├' '┼' '┤' widths] ++
    rows.flatMap (rowLines widths) ++ [rule '╰' '┴' '╯' widths]

def text (t : Table) : String :=
  String.ofList (['\x0a'].intercalate t.lines)

end Table
end CpuUsage
