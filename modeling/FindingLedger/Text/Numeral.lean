/-
Decimal numerals as texts.

A numeral is a run of digits of any scripts, with single underscores between
them, a sign before it and blanks around it.  The run has at most
`Numeral.maxDigits` digits.
-/
import FindingLedger.Text.Digit
import FindingLedger.Text.Quoted

namespace FindingLedger

/-- Why a text is no numeral. -/
inductive NumeralError
  /-- The text has another form. -/
  | malformed (source : String)
  /-- The text starts with more digits than a numeral may have. -/
  | tooLong (digits : Nat)
deriving DecidableEq, Repr

namespace Numeral

/-- The number of digits that a numeral has at most. -/
def maxDigits : Nat := 4300

/-- What is said where a number with more digits is to be written. -/
def tooLongText : String :=
  s!"Exceeds the limit ({maxDigits} digits) for integer string conversion; " ++
    "use sys.set_int_max_str_digits() to increase the limit"

/-- How many characters of an offending text a message shows. -/
def shownChars : Nat := 200

/-- What is said of a value of another form, which stands between quotes. -/
def malformedText (quoted : String) : String :=
  s!"invalid literal for int() with base 10: {quoted.take shownChars}"

end Numeral

def NumeralError.message : NumeralError → String
  | .malformed source => Numeral.malformedText (Text.quoted source)
  | .tooLong digits =>
    s!"Exceeds the limit ({Numeral.maxDigits} digits) for integer string conversion: " ++
      s!"value has {digits} digits; use sys.set_int_max_str_digits() to increase the limit"

namespace Numeral

/-- The sign at the front of a numeral, and what follows it. -/
def splitSign : List Char → Bool × List Char
  | '-' :: rest => (true, rest)
  | '+' :: rest => (false, rest)
  | cs => (false, cs)

/-- The longest run of digits and underscores at the front, an underscore as
`none`, and what follows the run. -/
def splitRun (done : List (Option Nat)) : List Char → List (Option Nat) × List Char
  | [] => (done.reverse, [])
  | c :: rest =>
    if c == '_' then splitRun (none :: done) rest
    else match Text.digitValue? c with
      | some d => splitRun (some d :: done) rest
      | none => (done.reverse, c :: rest)

/-- Underscores stand only between two digits. -/
def separatorsOk : List (Option Nat) → Bool
  | [] => true
  | [none] => false
  | none :: _ => false
  | some _ :: none :: some d :: rest => separatorsOk (some d :: rest)
  | some _ :: none :: _ => false
  | some _ :: rest => separatorsOk rest

/-- The number that digits stand for, most significant first. -/
def valueOf (digits : List Nat) : Nat :=
  digits.foldl (fun n d => n * 10 + d) 0

/-- Blanks that may stand before and after a numeral. -/
def skipBlanks (cs : List Char) : List Char :=
  cs.dropWhile Text.isSpace

def read (source : String) : Except NumeralError Int :=
  let (negative, body) := splitSign (skipBlanks source.toList)
  let (run, rest) := splitRun [] body
  let digits := run.filterMap id
  if !separatorsOk run then .error (.malformed source)
  else if maxDigits < digits.length then .error (.tooLong digits.length)
  else if digits.isEmpty || !(skipBlanks rest).isEmpty then .error (.malformed source)
  else
    let n : Int := valueOf digits
    .ok (if negative then -n else n)

end Numeral

end FindingLedger
