/-
The tokens of a JSON text.

Each token comes with the position where it starts, in characters from the start
of the text.  The first place that starts no token ends the list.
-/
import FindingLedger.Text.Broken
import FindingLedger.Text.Numeral

namespace FindingLedger

namespace Json

/-- What is wrong with a string or a number. -/
inductive LexFault
  | controlCharacter
  | unterminated
  | badEscape
  | badCodeEscape
deriving DecidableEq, Repr

/-- A token.  A faulty string is a token too: whether it matters is for the reader
of the tokens to say. -/
inductive Token
  | openArray | closeArray | openObject | closeObject | comma | colon
  | null | bool (b : Bool)
  | int (n : Int)
  | float (x : Float)
  | text (s : String)
  /-- A string with a half of a pair. -/
  | broken (t : BrokenText)
  /-- A string with a fault, and the position of the fault. -/
  | badText (fault : LexFault) (pos : Nat)
  /-- A whole number with too many digits. -/
  | longInt (digits : Nat)
  /-- A character that starts nothing. -/
  | other
deriving DecidableEq, Repr

def isSpace (c : Char) : Bool :=
  c == ' ' || c == '\t' || c == '\n' || c == '\r'

/-- The value of a hexadecimal digit. -/
def hexValue? (c : Char) : Option Nat :=
  if c.isDigit then some (c.toNat - '0'.toNat)
  else if 'a' ≤ c && c ≤ 'f' then some (c.toNat - 'a'.toNat + 10)
  else if 'A' ≤ c && c ≤ 'F' then some (c.toNat - 'A'.toNat + 10)
  else none

/-- The number that four hexadecimal digits stand for. -/
def hex4? (a b c d : Char) : Option Nat := do
  let w ← hexValue? a
  let x ← hexValue? b
  let y ← hexValue? c
  let z ← hexValue? d
  pure (((w * 16 + x) * 16 + y) * 16 + z)

/-- The character that a backslash and a letter stand for. -/
def simpleEscape? : Char → Option Char
  | '"' => some '"'
  | '\\' => some '\\'
  | '/' => some '/'
  | 'b' => some '\x08'
  | 'f' => some '\x0c'
  | 'n' => some '\n'
  | 'r' => some '\r'
  | 't' => some '\t'
  | _ => none

/-- A code unit of the first half of a pair. -/
def isHighHalf (n : Nat) : Bool := 0xd800 ≤ n && n ≤ 0xdbff

/-- A code unit of the second half of a pair. -/
def isLowHalf (n : Nat) : Bool := 0xdc00 ≤ n && n ≤ 0xdfff

/-- The code point of a pair of halves. -/
def joinHalves (high low : Nat) : Nat :=
  0x10000 + (high - 0xd800) * 0x400 + (low - 0xdc00)

/-- What stands after the code unit of a first half. -/
inductive SecondHalf
  /-- No escape of a second half. -/
  | absent
  /-- An escape without four digits. -/
  | faulty
  /-- The escape of a second half. -/
  | code (low : Nat)
deriving DecidableEq, Repr

/-- Look for the escape of a second half; a character has to follow it. -/
def secondHalf (cs : List Char) : SecondHalf :=
  match cs with
  | '\\' :: 'u' :: a :: b :: c :: d :: _ :: _ =>
    match hex4? a b c d with
    | none => .faulty
    | some low => if isLowHalf low then .code low else .absent
  | _ => .absent

/-- The token of the string that glyphs make. -/
def textToken (gs : List Glyph) : Token :=
  match Glyph.assemble gs with
  | .inl t => .broken t
  | .inr s => .text s

/-- Read the inside of a string that opened at `start`; `pos` is the position of the
next character, and `done` holds the text so far, last glyph first.  Gives the
token, the position after it, and the rest. -/
def scanText (start : Nat) (pos : Nat) (done : List Glyph) : List Char → Token × Nat × List Char
  | [] => (.badText .unterminated start, pos, [])
  | '"' :: rest => (textToken done.reverse, pos + 1, rest)
  | ['\\'] => (.badText .unterminated start, pos, [])
  | '\\' :: 'u' :: a :: b :: c :: d :: e :: rest =>
    match hex4? a b c d with
    | none => (.badText .badCodeEscape (pos + 1), pos, [])
    | some code =>
      match if isHighHalf code then secondHalf (e :: rest) else .absent with
      | .absent => scanText start (pos + 6) (.ofCode code :: done) (e :: rest)
      | .faulty => (.badText .badCodeEscape (pos + 7), pos, [])
      | .code low =>
        scanText start (pos + 12) (.ofCode (joinHalves code low) :: done) (rest.drop 5)
  | '\\' :: c :: rest =>
    if c == 'u' then (.badText .badCodeEscape (pos + 1), pos, [])
    else match simpleEscape? c with
      | none => (.badText .badEscape pos, pos, [])
      | some d => scanText start (pos + 2) (.char d :: done) rest
  | c :: rest =>
    if c.toNat < 0x20 then (.badText .controlCharacter pos, pos, [])
    else scanText start (pos + 1) (.char c :: done) rest
termination_by cs => cs.length
decreasing_by all_goals (simp; try omega)

/-- The digits at the front, and the rest. -/
def spanDigits (cs : List Char) : List Char × List Char :=
  cs.span Char.isDigit

/-- The number that digits stand for. -/
def digitsValue (cs : List Char) : Nat :=
  cs.foldl (fun n c => n * 10 + (c.toNat - '0'.toNat)) 0

/-- The whole digits of an unsigned number: one zero, or digits that start with
another one. -/
def spanWhole : List Char → List Char × List Char
  | '0' :: rest => (['0'], rest)
  | cs => spanDigits cs

/-- The fraction digits, if a point and a digit stand at the front. -/
def spanFraction : List Char → Option (List Char) × List Char
  | '.' :: rest =>
    match spanDigits rest with
    | ([], _) => (none, '.' :: rest)
    | (ds, rest) => (some ds, rest)
  | cs => (none, cs)

/-- The exponent, if one stands at the front: its sign, its digits. -/
def spanExponent (cs : List Char) : Option (Bool × List Char) × List Char :=
  match cs with
  | e :: rest =>
    if e == 'e' || e == 'E' then
      let (negative, body) := match rest with
        | '-' :: body => (true, body)
        | '+' :: body => (false, body)
        | body => (false, body)
      match spanDigits body with
      | ([], _) => (none, cs)
      | (ds, rest) => (some (negative, ds), rest)
    else (none, cs)
  | [] => (none, cs)

/-- The floating-point number with the given whole digits, fraction digits and
exponent.  Exponents far out of range are cut: they give zero or infinity anyway. -/
def floatOf (negative : Bool) (whole fraction : List Char) (exponent : Option (Bool × List Char)) :
    Float :=
  let mantissa := digitsValue (whole ++ fraction)
  let size := whole.length + fraction.length
  let e : Int := match exponent with
    | none => 0
    | some (neg, ds) =>
      let n := min (digitsValue ds) (size + 1000)
      if neg then -n else n
  let power := e - fraction.length
  let x := Float.ofScientific mantissa (power < 0) power.natAbs
  if negative then -x else x

/-- Read an unsigned number: the token and the rest. -/
def scanNumber? (negative : Bool) (cs : List Char) : Option (Token × List Char) :=
  match spanWhole cs with
  | ([], _) => none
  | (whole, rest) =>
    let (fraction, rest) := spanFraction rest
    let (exponent, rest) := spanExponent rest
    if fraction.isNone && exponent.isNone then
      if Numeral.maxDigits < whole.length then some (.longInt whole.length, rest)
      else
        let n : Int := digitsValue whole
        some (.int (if negative then -n else n), rest)
    else some (.float (floatOf negative whole (fraction.getD []) exponent), rest)

/-- The words that stand for a value. -/
def words : List (String × Token) :=
  [ ("null", .null), ("true", .bool true), ("false", .bool false),
    ("NaN", .float (0.0 / 0.0)), ("Infinity", .float (1.0 / 0.0)),
    ("-Infinity", .float (-1.0 / 0.0)) ]

/-- A character that a number may hold. -/
def isNumberPart (c : Char) : Bool :=
  c.isDigit || ['-', '+', '.', 'e', 'E'].contains c

/-- Read the number at the front: the token, and how many characters it takes. -/
def scanSigned? (cs : List Char) : Option (Token × Nat) :=
  let front := cs.takeWhile isNumberPart
  let number := match front with
    | '-' :: front => scanNumber? true front
    | front => scanNumber? false front
  number.map fun r => (r.1, front.length - r.2.length)

/-- Read the word at the front: the token, and how many characters it takes. -/
def scanWord? (cs : List Char) : Option (Token × Nat) :=
  (words.find? fun w => w.1.toList.isPrefixOf cs).map fun w => (w.2, w.1.length)

def mark? : Char → Option Token
  | '[' => some .openArray
  | ']' => some .closeArray
  | '\x7b' => some .openObject
  | '\x7d' => some .closeObject
  | ',' => some .comma
  | ':' => some .colon
  | _ => none

/-- Read the token that `c :: rest` starts with, at position `pos`: the token, and
what follows it unless it ends the text. -/
def scan (pos : Nat) (c : Char) (rest : List Char) : Token × Nat × List Char :=
  match mark? c with
  | some t => (t, pos + 1, rest)
  | none =>
    if c == '"' then scanText pos (pos + 1) [] rest
    else
      let cs := c :: rest
      match scanWord? cs <|> scanSigned? cs with
      | some (token, count) => (token, pos + count, cs.drop count)
      | none => (.other, pos, [])

/-- The tokens of a text from position `pos` on.  The fuel bounds their number. -/
def tokensFrom : Nat → Nat → List Char → List (Nat × Token)
  | 0, _, _ => []
  | _ + 1, _, [] => []
  | fuel + 1, pos, c :: rest =>
    if isSpace c then tokensFrom fuel (pos + 1) rest
    else
      let (token, pos', rest') := scan pos c rest
      (pos, token) :: tokensFrom fuel pos' rest'

/-- The tokens of a text, each with its position. -/
def tokens (cs : List Char) : List (Nat × Token) :=
  tokensFrom cs.length 0 cs

end Json

end FindingLedger
