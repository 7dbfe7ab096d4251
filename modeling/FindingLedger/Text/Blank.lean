/-
Which characters are blank, and how blanks are trimmed from both ends of a text.

Two sets matter.  A text counts as blank, and is trimmed, by the wide set, which
adds the four information separators to the white space of Unicode.  A numeral
is trimmed by the narrow set, which leaves those four out.
-/

namespace FindingLedger

/-- White space of Unicode outside of ASCII, as inclusive code point ranges. -/
def Text.wideBlankRanges : List (Nat × Nat) :=
  [ (0x85, 0x85), (0xa0, 0xa0), (0x1680, 0x1680), (0x2000, 0x200a), (0x2028, 0x2029),
    (0x202f, 0x202f), (0x205f, 0x205f), (0x3000, 0x3000) ]

/-- Membership of a code point in a list of inclusive ranges. -/
def Text.inRanges (ranges : List (Nat × Nat)) (code : Nat) : Bool :=
  ranges.any fun r => r.1 ≤ code && code ≤ r.2

/-- The blanks of ASCII that a numeral may be surrounded by: tab, line feed,
vertical tab, form feed, carriage return and space. -/
def Text.isAsciiBlank (c : Char) : Bool :=
  c == ' ' || (9 ≤ c.toNat && c.toNat ≤ 13)

/-- White space of Unicode: the blanks a numeral is trimmed by. -/
def Text.isSpace (c : Char) : Bool :=
  isAsciiBlank c || (0x80 ≤ c.toNat && inRanges wideBlankRanges c.toNat)

/-- White space of Unicode and the information separators `U+001C` to `U+001F`:
the blanks that decide whether a text is blank. -/
def Text.isBlank (c : Char) : Bool :=
  isSpace c || (0x1c ≤ c.toNat && c.toNat ≤ 0x1f)

/-- Drop the characters of a class from both ends. -/
def Text.trimBy (p : Char → Bool) (cs : List Char) : List Char :=
  ((cs.dropWhile p).reverse.dropWhile p).reverse

/-- A text without any character that is not blank; the empty text included. -/
def Text.isBlankText (s : String) : Bool :=
  s.toList.all isBlank

end FindingLedger
