/-
A text between quotes, on one line and with every character visible.

The single quote is the mark, unless the text holds single quotes and no double
quote.  The mark, the backslash and what can not be shown are escaped.
-/
import FindingLedger.Text.Printable

namespace FindingLedger

/-- The last `width` hexadecimal digits of a number, in lower case. -/
def Text.hexDigits (width n : Nat) : List Char :=
  (List.range width).reverse.map fun i => Nat.digitChar (n / Nat.pow 16 i % 16)

/-- The escape that names a character by its code point, as short as it can be. -/
def Text.codeEscape (c : Char) : List Char :=
  if c.toNat ≤ 0xff then '\\' :: 'x' :: hexDigits 2 c.toNat
  else if c.toNat ≤ 0xffff then '\\' :: 'u' :: hexDigits 4 c.toNat
  else '\\' :: 'U' :: hexDigits 8 c.toNat

/-- One character between the marks `mark`. -/
def Text.quotedChar (mark c : Char) : List Char :=
  if c == mark || c == '\\' then ['\\', c]
  else if c == '\t' then ['\\', 't']
  else if c == '\n' then ['\\', 'n']
  else if c == '\r' then ['\\', 'r']
  else if isPrintable c then [c]
  else codeEscape c

/-- The quotation mark for a text: the one that spares escapes. -/
def Text.quoteMark (cs : List Char) : Char :=
  if cs.contains '\'' && !cs.contains '"' then '"' else '\''

def Text.quoted (s : String) : String :=
  let cs := s.toList
  let mark := quoteMark cs
  String.ofList (mark :: cs.flatMap (quotedChar mark) ++ [mark])

/-- A byte between the marks `mark`; bytes beyond ASCII are escaped. -/
def Text.quotedByte (mark : Char) (b : UInt8) : List Char :=
  let c := Char.ofNat b.toNat
  if b < 0x80 then quotedChar mark c else codeEscape c

/-- A byte string between quotes, marked as one by a leading letter. -/
def Text.quotedBytes (bs : List UInt8) : String :=
  let mark := quoteMark (bs.map fun b => Char.ofNat b.toNat)
  String.ofList ('b' :: mark :: bs.flatMap (quotedByte mark) ++ [mark])

end FindingLedger
