/-
Places in the text of a YAML document.

A cursor is the text that is still to be read, together with its place: how many
characters came before it, and its line and column.  It also tells how far the text has
been looked at, since a fault behind the text is met as soon as somebody looks there.
-/
import FindingLedger.Yaml.Source

namespace FindingLedger

namespace Yaml

/-- A place in a text, and the text from there on. -/
structure Cursor where
  rest : List Char
  /-- The number of characters of `rest`. -/
  left : Nat
  index : Nat
  line : Nat
  column : Nat
  /-- The number of characters up to the last one that was looked at. -/
  reach : Nat
  wall : Option Wall
deriving Repr

namespace Cursor

def start (s : Source) : Cursor := ⟨s.text, s.text.length, 0, 0, 0, 1, s.wall⟩

def mark (c : Cursor) : Mark := ⟨c.line, c.column⟩

def peek (c : Cursor) : Char := c.rest.headD endOfText

/-- The character after `n` more. -/
def peekAt (c : Cursor) (n : Nat) : Char := c.rest.getD n endOfText

/-- The next `n` characters. -/
def front (c : Cursor) (n : Nat) : List Char := c.rest.take n

/-- Look at the character after `n` more. -/
def look (c : Cursor) (n : Nat) : Cursor := { c with reach := max c.reach (c.index + n + 1) }

/-- The fault that was met by looking behind the text. -/
def hit? (c : Cursor) : Option Error :=
  match c.wall with
  | some w => if w.index < c.reach then some w.fault else none
  | none => none

/-- Stop at an error, unless a fault was met before. -/
def fail {α : Type} (c : Cursor) (e : Error) : Except Error α := .error (c.hit?.getD e)

/-- Go on by one character, and look at the next.  A mark of the byte order takes no
column. -/
def next (c : Cursor) : Cursor :=
  match c.rest with
  | [] => c
  | ch :: rest =>
    let reach := max c.reach (c.index + 2)
    let c := { c with rest, left := c.left - 1, index := c.index + 1, reach }
    if isBreak ch && !(ch == '\r' && rest.head? == some '\n') then
      { c with line := c.line + 1, column := 0 }
    else if ch.toNat == 0xfeff then c
    else { c with column := c.column + 1 }

/-- Go on by a number of characters. -/
def skip (c : Cursor) : Nat → Cursor
  | 0 => c
  | n + 1 => c.next.skip n

/-- The characters of a class that come next, and the cursor behind them. -/
def takeWhile (c : Cursor) (p : Char → Bool) : List Char × Cursor :=
  let cs := c.rest.takeWhile p
  (cs, c.skip cs.length)

/-- The cursor behind the characters of a class that come next. -/
def skipWhile (c : Cursor) (p : Char → Bool) : Cursor := (c.takeWhile p).2

def skipSpaces (c : Cursor) : Cursor := c.skipWhile (· == ' ')

/-- Skip a comment, if one starts here. -/
def skipComment (c : Cursor) : Cursor :=
  if c.peek == '#' then c.skipWhile fun ch => !isBreak ch else c

/-- Read a line break, if there is one: what it stands for, and the cursor behind it. -/
def lineBreak (c : Cursor) : List Char × Cursor :=
  let ch := c.peek
  if ch == '\r' && c.peekAt 1 == '\n' then (['\n'], c.skip 2)
  else if ch.toNat == 0x2028 || ch.toNat == 0x2029 then ([ch], c.next)
  else if isBreak ch then (['\n'], c.next)
  else ([], c)

/-- Whether a mark between documents stands here: three times one character, and a gap. -/
def atSeparator (c : Cursor) (ch : Char) : Bool :=
  c.front 3 == [ch, ch, ch] && isGap (c.peekAt 3)

/-- Whether any mark between documents stands here. -/
def atAnySeparator (c : Cursor) : Bool := c.atSeparator '-' || c.atSeparator '.'

/-- Look for a mark between documents. -/
def lookForSeparator (c : Cursor) : Cursor :=
  let front := c.front 3
  c.look (if front == ['-', '-', '-'] || front == ['.', '.', '.'] then 3 else 2)

end Cursor

end Yaml

end FindingLedger
