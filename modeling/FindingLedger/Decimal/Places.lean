/-
Floating-point numbers with a given number of digits.

A number is rounded to the nearest multiple of a power of ten; halfway between two of
them the even one is taken.
-/
import FindingLedger.Decimal.Shortest

namespace FindingLedger

namespace Decimal

/-- The quotient rounded to the nearest whole number, a half to the even one. -/
def roundDiv (num den : Nat) : Nat :=
  let q := num / den
  let twice := 2 * (num % den)
  if twice < den then q
  else if den < twice then q + 1
  else if q % 2 == 0 then q else q + 1

/-- The nearest multiple of `10 ^ e`, as its factor. -/
def Binary.rounded (b : Binary) (e : Int) : Nat :=
  roundDiv (b.m * twoTo b.q.toNat * tenTo (-e).toNat) (twoTo (-b.q).toNat * tenTo e.toNat)

/-- Digits with a point before the last `places` of them.  Without places there is no
point, unless it has to be shown. -/
def withPoint (places : Nat) (showPoint : Bool) (cs : List Char) : List Char :=
  let whole := cs.length - places
  if places == 0 then if showPoint then cs ++ ['.'] else cs
  else cs.take whole ++ '.' :: cs.drop whole

/-- A number of digits that is enough for every number: those behind it are zeros. -/
def enoughDigits : Nat := 1100

/-- A number with a fixed number of places. -/
def fixed (places : Nat) (showPoint : Bool) (b : Binary) : List Char :=
  let known := min places enoughDigits
  withPoint known showPoint (padded (known + 1) (b.rounded (-(known : Int)))) ++
    List.replicate (places - known) '0'

/-- The first digits of a number, as many as `places` and one more, and the power of ten of
the first one. -/
def leading (places : Nat) (b : Binary) : Nat × Int :=
  if b.m == 0 then (0, 0)
  else
    let guess : Int := (b.q + (Nat.log2 b.m : Int)) * 30103 / 100000 - 1
    let power := b.interval.magnitude 8 guess - 1
    let n := b.rounded (power - places)
    if n == tenTo (places + 1) then (n / 10, power + 1) else (n, power)

/-- The power of ten behind the digits of a number. -/
def powerText (power : Int) : List Char :=
  'e' :: (if power < 0 then '-' else '+') :: padded 2 power.natAbs

/-- A number as digits with one before the point, and a power of ten. -/
def scientific (places : Nat) (showPoint : Bool) (b : Binary) : List Char :=
  let known := min places enoughDigits
  let (n, power) := leading known b
  withPoint known showPoint (padded (known + 1) n) ++ List.replicate (places - known) '0' ++
    powerText power

/-- Drop the zeros at the end of a fraction, and its point when nothing follows. -/
def dropZeros (cs : List Char) : List Char :=
  if cs.contains '.' then
    let kept := cs.reverse.dropWhile (· == '0')
    (match kept with
     | '.' :: rest => rest
     | kept => kept).reverse
  else cs

/-- A number with a number of significant digits: in place where its power of ten is
between minus four and that number, else with the power behind it.  Zeros at the end are
dropped, unless all digits have to be shown. -/
def general (count : Nat) (showAll : Bool) (b : Binary) : List Char :=
  let count := max count 1
  let known := min (count - 1) enoughDigits
  let (n, power) := leading known b
  let trim (cs : List Char) := if showAll then cs else dropZeros cs
  if -4 ≤ power && power < count then
    let places := (count - 1 - power).toNat
    trim (fixed places showAll b)
  else
    let zeros := List.replicate (count - 1 - known) '0'
    trim (withPoint known showAll (padded (known + 1) n) ++ zeros) ++ powerText power

end Decimal

end FindingLedger
