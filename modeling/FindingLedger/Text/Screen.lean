/-
How a text appears on a screen of cells, line by line.

Characters that only steer a screen are dropped, and a tabulator leads to the next
column that is a multiple of eight.
-/
import FindingLedger.Text.Width

namespace FindingLedger

namespace Text

/-- Characters that are not shown: the bell, the backspace, and those that move to
another line or to the start of one. -/
def isSilent (c : Char) : Bool := c.toNat == 7 || c.toNat == 8 || (11 ≤ c.toNat && c.toNat ≤ 13)

/-- Split a text at every character `mark`; `done` holds the part at hand, last
character first. -/
def splitAt (mark : Char) (done : List Char) : List Char → List (List Char)
  | [] => [done.reverse]
  | c :: rest =>
    if c == mark then done.reverse :: splitAt mark [] rest else splitAt mark (c :: done) rest

/-- The lines of a text; a line feed at the end starts one more. -/
def linesOf (cs : List Char) : List (List Char) := splitAt '\n' [] cs

/-- The distance between tabulators. -/
def tabWidth : Nat := 8

/-- Join the parts of a line between tabulators, from a column on.  A tabulator is a blank,
which belongs to the part before it, and as many more as lead to the next stop. -/
def joinTabs : Nat → List (List Char) → List Char
  | _, [] => []
  | _, [part] => part
  | column, part :: rest =>
    let part := part ++ [' ']
    let column := column + cells (String.ofList part)
    let blanks := (tabWidth - column % tabWidth) % tabWidth
    part ++ List.replicate blanks ' ' ++ joinTabs (column + blanks) rest

/-- A line with its tabulators as blanks. -/
def expandTabs (line : List Char) : List Char := joinTabs 0 (splitAt '\t' [] line)

def screenLines (cs : List Char) : List (List Char) :=
  (linesOf (cs.filter fun c => !isSilent c)).map expandTabs

/-- A line without the blanks at its end. -/
def trimEnd (cs : List Char) : List Char := (cs.reverse.dropWhile (· == ' ')).reverse

end Text

end FindingLedger
