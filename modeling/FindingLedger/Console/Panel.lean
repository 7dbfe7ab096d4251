/-
Framed text: lines between round corners, with a title in the upper edge.
-/
import FindingLedger.Text.Screen

namespace FindingLedger

namespace Console

def lineCells (line : List Char) : Nat := Text.cells (String.ofList line)

/-- The number of cells of the widest of some lines. -/
def widest (ls : List (List Char)) : Nat := ls.foldl (fun n l => max n (lineCells l)) 0

/-- A line with blanks behind it up to a width. -/
def fillRight (width : Nat) (line : List Char) : List Char :=
  line ++ List.replicate (width - lineCells line) ' '

/-- A line with blanks in front of it up to a width. -/
def fillLeft (width : Nat) (line : List Char) : List Char :=
  List.replicate (width - lineCells line) ' ' ++ line

/-- A line in the middle of a width, with a character on both sides; when they can not
be of one length, the right one is the longer. -/
def centred (filler : Char) (width : Nat) (line : List Char) : List Char :=
  let excess := width - lineCells line
  List.replicate (excess / 2) filler ++ line ++ List.replicate (excess - excess / 2) filler

/-- A title and lines in a frame as wide as they need. -/
def panel (title : String) (content : List (List Char)) : List (List Char) :=
  let label := ' ' :: title.toList ++ [' ']
  let width := max (widest content) (lineCells label)
  let top := '╭' :: '─' :: centred '─' width label ++ ['─', '╮']
  let bottom := '╰' :: List.replicate (width + 2) '─' ++ ['╯']
  top :: content.map (fun l => '│' :: ' ' :: fillRight width l ++ [' ', '│']) ++ [bottom]

end Console

end FindingLedger
