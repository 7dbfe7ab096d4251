/-
Classes of characters in YAML documents.

Behind the end of a text the null character is read, which no document holds.
-/

namespace FindingLedger

namespace Yaml

/-- Characters that a document may hold. -/
def isPrintable (c : Char) : Bool :=
  let n := c.toNat
  n == 9 || n == 10 || n == 13 || (0x20 ≤ n && n ≤ 0x7e) || n == 0x85 ||
    (0xa0 ≤ n && n ≤ 0xd7ff) || (0xe000 ≤ n && n ≤ 0xfffd) || 0x10000 ≤ n

/-- What is read behind the end of a text. -/
def endOfText : Char := '\x00'

/-- Characters that end a line, except for the end of the text. -/
def isBreak (c : Char) : Bool :=
  c == '\n' || c == '\r' || c.toNat == 0x85 || c.toNat == 0x2028 || c.toNat == 0x2029

/-- Line breaks and the end of the text. -/
def isLineEnd (c : Char) : Bool := c == endOfText || isBreak c

/-- Blanks, line breaks and the end of the text. -/
def isGap (c : Char) : Bool := c == ' ' || c == '\t' || isLineEnd c

/-- Spaces, line breaks and the end of the text. -/
def isSpaceOrEnd (c : Char) : Bool := c == ' ' || isLineEnd c

/-- Letters and digits of ASCII, hyphens and underscores. -/
def isWordChar (c : Char) : Bool := c.isAlphanum || c == '-' || c == '_'

def isHexDigit (c : Char) : Bool :=
  c.isDigit || ('a' ≤ c && c ≤ 'f') || ('A' ≤ c && c ≤ 'F')

/-- The value of a hexadecimal digit. -/
def hexValue (c : Char) : Nat :=
  if c.isDigit then c.toNat - '0'.toNat
  else if 'a' ≤ c then c.toNat - 'a'.toNat + 10
  else c.toNat - 'A'.toNat + 10

/-- The number that hexadecimal digits stand for. -/
def hexNumber (cs : List Char) : Nat := cs.foldl (fun n c => n * 16 + hexValue c) 0

end Yaml

end FindingLedger
