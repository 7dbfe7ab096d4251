/-
Floating-point numbers as whole numbers.

A finite number is `m * 2 ^ q` up to its sign, so its whole part is a shift of
`m`, and it is whole exactly when the shift drops no bit.
-/
import FindingLedger.Decimal.Shortest

namespace FindingLedger

namespace Decimal

/-- The whole part of `m * 2 ^ q`. -/
def Binary.whole (b : Binary) : Nat :=
  b.m * twoTo b.q.toNat / twoTo (-b.q).toNat

/-- Whether `m * 2 ^ q` is a whole number. -/
def Binary.isWhole (b : Binary) : Bool :=
  b.m * twoTo b.q.toNat % twoTo (-b.q).toNat == 0

/-- Whether a number has its sign bit set. -/
def isNegative (x : Float) : Bool :=
  x.toBits.toNat / twoTo 63 == 1

/-- A finite number without its fraction; `none` for what is not finite. -/
def truncate? (x : Float) : Option Int :=
  if x.isFinite then
    let n : Int := (Binary.ofBits x.toBits).whole
    some (if isNegative x then -n else n)
  else none

/-- The whole number that equals a given number. -/
def exactInt? (x : Float) : Option Int :=
  if x.isFinite && (Binary.ofBits x.toBits).isWhole then truncate? x else none

end Decimal

end FindingLedger
