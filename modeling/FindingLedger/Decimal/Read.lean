/-
Floating-point numbers as texts.

A number is written with digits of any scripts, a point among or around them, and an
exponent; or by a word for infinity or for no number.  Letters may be large or small.
-/
import FindingLedger.Json.Token
import FindingLedger.Text.Blank
import FindingLedger.Text.Digit

namespace FindingLedger

namespace Decimal

/-- Digits of all scripts as those of ASCII, and letters as small ones. -/
def plainChar (c : Char) : Char :=
  match Text.digitValue? c with
  | some d => Char.ofNat ('0'.toNat + d)
  | none => c.toLower

/-- The number that a text without a sign stands for. -/
def readUnsigned (negative : Bool) (cs : List Char) : Option Float :=
  let sign (x : Float) := if negative then -x else x
  if cs == "inf".toList || cs == "infinity".toList then some (sign (1.0 / 0.0))
  else if cs == "nan".toList then some (0.0 / 0.0)
  else
    let (whole, rest) := Json.spanDigits cs
    let (fraction, rest) := match rest with
      | '.' :: rest => Json.spanDigits rest
      | rest => ([], rest)
    let (exponent, rest) := Json.spanExponent rest
    if (whole.isEmpty && fraction.isEmpty) || !rest.isEmpty then none
    else some (Json.floatOf negative whole fraction exponent)

/-- The number that a text stands for; blanks around it are skipped. -/
def read? (s : String) : Option Float :=
  match (Text.trimBy Text.isSpace s.toList).map plainChar with
  | '-' :: cs => readUnsigned true cs
  | '+' :: cs => readUnsigned false cs
  | cs => readUnsigned false cs

end Decimal

end FindingLedger
