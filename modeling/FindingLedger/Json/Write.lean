/-
Values as JSON texts.

A text is one line of printable ASCII: other characters are escaped by the code
units of UTF-16.  Values that JSON has no form for are shown as strings.
-/
import FindingLedger.Datum

namespace FindingLedger

namespace Json

def unitEscape (unit : Nat) : List Char :=
  '\\' :: 'u' :: Text.hexDigits 4 unit

def writeChar (c : Char) : List Char :=
  if c == '"' then ['\\', '"']
  else if c == '\\' then ['\\', '\\']
  else if c == '\n' then ['\\', 'n']
  else if c == '\r' then ['\\', 'r']
  else if c == '\t' then ['\\', 't']
  else if c.toNat == 8 then ['\\', 'b']
  else if c.toNat == 12 then ['\\', 'f']
  else if 0x20 ≤ c.toNat && c.toNat < 0x7f then [c]
  else if c.toNat < 0x10000 then unitEscape c.toNat
  else
    let n := c.toNat - 0x10000
    unitEscape (0xd800 + n / 0x400) ++ unitEscape (0xdc00 + n % 0x400)

def writeGlyph : Glyph → List Char
  | .char c => writeChar c
  | .half h => Glyph.halfEscape h

def writeText (s : String) : List Char :=
  '"' :: s.toList.flatMap writeChar ++ ['"']

def writeBroken (t : BrokenText) : List Char :=
  '"' :: t.glyphs.flatMap writeGlyph ++ ['"']

def writeScalar : Scalar → List Char
  | .null => "null".toList
  | .bool true => "true".toList
  | .bool false => "false".toList
  | .int n => (toString n).toList
  | .float x => (Decimal.floatText ("NaN", "Infinity") x).toList
  | .text s => writeText s
  | .broken t => writeBroken t
  | s => writeText s.display

/-- The name under which a value is written; one that is no text gives its own text. -/
def writeName : Scalar → List Char
  | .text s => writeText s
  | .broken t => writeBroken t
  | s => writeText (String.ofList (writeScalar s))

mutual

def write : Datum → List Char
  | .scalar s => writeScalar s
  | .path t => writeText t
  | .list items => '[' :: writeItems items ++ [']']
  | .tuple items => '[' :: writeItems items ++ [']']
  | .set items => writeText (Datum.display (.set items))
  | .dict entries => '\x7b' :: writeEntries entries ++ ['\x7d']
  | .again cycle => writeText (Datum.display (.again cycle))

def writeItems : List Datum → List Char
  | [] => []
  | [item] => write item
  | item :: rest => write item ++ ',' :: ' ' :: writeItems rest

def writeEntries : List (Scalar × Datum) → List Char
  | [] => []
  | [(key, value)] => writeName key ++ ':' :: ' ' :: write value
  | (key, value) :: rest =>
    writeName key ++ ':' :: ' ' :: (write value ++ ',' :: ' ' :: writeEntries rest)

end

end Json

end FindingLedger
