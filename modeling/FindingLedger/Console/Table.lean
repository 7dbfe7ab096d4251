/-
Tables: rows of cells below a heavy head, under a title.
-/
import FindingLedger.Console.Panel

namespace FindingLedger

namespace Console

/-- A column of a table. -/
structure Column where
  head : String
  /-- Whether cells stand at the right edge. -/
  right : Bool
deriving DecidableEq, Repr

/-- A cell: its lines. -/
abbrev Cell := List (List Char)

/-- A table. -/
structure Table where
  title : String
  columns : List Column
  rows : List (List Cell)
deriving DecidableEq, Repr

namespace Table

def heads (t : Table) : List Cell := t.columns.map fun c => [c.head.toList]

/-- The widths of the columns: what their widest cells need. -/
def widths (t : Table) : List Nat :=
  t.rows.foldl (fun ws row => List.zipWith (fun w cell => max w (widest cell)) ws row)
    (t.heads.map widest)

/-- A line between rows: a start, for every column a stroke, between columns a crossing,
and an end. -/
def rule (start stroke crossing stop : Char) (ws : List Nat) : List Char :=
  start :: [crossing].intercalate (ws.map fun w => List.replicate (w + 2) stroke) ++ [stop]

def cellLine (column : Column) (width : Nat) (line : List Char) : List Char :=
  ' ' :: (if column.right then fillLeft width line else fillRight width line) ++ [' ']

/-- A line of a row, with bars around and between its cells. -/
def rowLine (bar : Char) (columns : List Column) (ws : List Nat) (row : List Cell)
    (i : Nat) : List Char :=
  let cells := (columns.zip (ws.zip row)).map fun (column, width, cell) =>
    cellLine column width (cell[i]?.getD [])
  bar :: [bar].intercalate cells ++ [bar]

/-- The lines of a row: as many as its highest cell has. -/
def rowLines (bar : Char) (columns : List Column) (ws : List Nat) (row : List Cell) :
    List (List Char) :=
  let height := row.foldl (fun n cell => max n cell.length) 0
  (List.range height).map (rowLine bar columns ws row)

def lines (t : Table) : List (List Char) :=
  let ws := t.widths
  let width := ws.foldl (fun n w => n + w + 3) 1
  [centred ' ' width t.title.toList, rule '┏' '━' '┳' '┓' ws] ++
    rowLines '┃' t.columns ws t.heads ++ [rule '┡' '━' '╇' '┩' ws] ++
    t.rows.flatMap (rowLines '│' t.columns ws) ++ [rule '└' '─' '┴' '┘' ws]

end Table

end Console

end FindingLedger
