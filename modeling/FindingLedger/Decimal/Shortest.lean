/-
The shortest decimal that reads back as a given floating-point number.

A positive finite number is `m * 2 ^ q`.  The reals that round to it form an
interval whose ends belong to it exactly when `m` is even.  The grid of decimals
with one digit is tried first, then the grid with two, and so on: on each, only
the two neighbours of the number can lie in the interval.
-/

namespace FindingLedger

/-- The decimal `0.d₁d₂… * 10 ^ exponent`, by its digits and its exponent. -/
structure Decimal where
  digits : List Nat
  exponent : Int
deriving DecidableEq, Repr

namespace Decimal

def twoTo (n : Nat) : Nat := Nat.pow 2 n

def tenTo (n : Nat) : Nat := Nat.pow 10 n

/-- A positive number `m * 2 ^ q`; `narrow` tells that the gap to the number below
it is half of the gap to the one above it. -/
structure Binary where
  m : Nat
  q : Int
  narrow : Bool
deriving DecidableEq, Repr

/-- The positive finite number with the given bits (the sign is ignored). -/
def Binary.ofBits (bits : UInt64) : Binary :=
  let fraction : Nat := bits.toNat % twoTo 52
  let biased : Nat := bits.toNat / twoTo 52 % twoTo 11
  if biased == 0 then ⟨fraction, -1074, false⟩
  else ⟨fraction + twoTo 52, (biased : Int) - 1075, fraction == 0 && 1 < biased⟩

/-- The ends of the interval that rounds to a number, and the number itself, all
over one denominator. -/
structure Interval where
  low : Nat
  value : Nat
  high : Nat
  denominator : Nat
  closed : Bool
deriving DecidableEq, Repr

/-- The interval of a number: half a gap to each side. -/
def Binary.interval (b : Binary) : Interval :=
  let up := twoTo b.q.toNat
  let low := 4 * b.m - if b.narrow then 1 else 2
  ⟨low * up, 4 * b.m * up, (4 * b.m + 2) * up, 4 * twoTo (-b.q).toNat, b.m % 2 == 0⟩

/-- Whether the decimal fraction `n / d` lies in the interval. -/
def Interval.contains (i : Interval) (n d : Nat) : Bool :=
  let x := n * i.denominator
  if i.closed then i.low * d ≤ x && x ≤ i.high * d
  else i.low * d < x && x < i.high * d

/-- The multiple of `10 ^ e` next to the middle of the interval that lies in it, as
its factor; of two the nearer, and of two equally near ones the even. -/
def Interval.nearest? (i : Interval) (e : Int) : Option Nat :=
  let scale := tenTo e.toNat
  let d := tenTo (-e).toNat
  let below := i.value * d / (i.denominator * scale)
  let above := below + 1
  let fits n := i.contains (n * scale) d
  match fits below, fits above with
  | false, false => none
  | true, false => some below
  | false, true => some above
  | true, true =>
    let twice := 2 * i.value * d
    let middle := (below + above) * i.denominator * scale
    if twice < middle then some below
    else if middle < twice then some above
    else some (if below % 2 == 0 then below else above)

/-- The exponent `e` with `10 ^ (e - 1) ≤ value < 10 ^ e`, searched upwards from
`e`; the fuel bounds the search. -/
def Interval.magnitude (i : Interval) : Nat → Int → Int
  | 0, e => e
  | fuel + 1, e =>
    if i.value * tenTo (-e).toNat < i.denominator * tenTo e.toNat then e
    else i.magnitude fuel (e + 1)

/-- The digits of a number, most significant first, without zeros at the end. -/
def significant (n : Nat) : List Nat :=
  (((Nat.toDigits 10 n).map fun c => c.toNat - '0'.toNat).reverse.dropWhile (· == 0)).reverse

/-- Try the grids with `count`, `count + 1`, … digits; the fuel bounds the count. -/
def Interval.search (i : Interval) (magnitude : Int) : Nat → Nat → Decimal
  | 0, _ => ⟨[0], 0⟩
  | fuel + 1, count =>
    let e := magnitude - count
    match i.nearest? e with
    | some n => ⟨significant n, (Nat.toDigits 10 n).length + e⟩
    | none => i.search magnitude fuel (count + 1)

/-- The shortest decimal of a positive finite number; seventeen digits always do. -/
def shortest (b : Binary) : Decimal :=
  let i := b.interval
  let guess : Int := (b.q + (Nat.log2 b.m : Int)) * 30103 / 100000 - 1
  i.search (i.magnitude 8 guess) 20 1

/-- How numbers are written: which exponents are written out in place. -/
structure Layout where
  /-- The least exponent that is written in place. -/
  leastPositional : Int
  /-- The greatest exponent that is written in place. -/
  greatestPositional : Int
  /-- The number of digits that an exponent has at least. -/
  exponentWidth : Nat

def digitChars (digits : List Nat) : List Char :=
  digits.map Nat.digitChar

/-- A number padded with zeros on the left. -/
def padded (width n : Nat) : List Char :=
  let cs := Nat.toDigits 10 n
  List.replicate (width - cs.length) '0' ++ cs

/-- Write a decimal by a layout.  In place, a fraction digit is always shown. -/
def render (l : Layout) (d : Decimal) : List Char :=
  let count := d.digits.length
  if l.leastPositional < d.exponent && d.exponent ≤ l.greatestPositional then
    if d.exponent ≤ 0 then
      '0' :: '.' :: (List.replicate (-d.exponent).toNat '0' ++ digitChars d.digits)
    else
      let whole := d.exponent.toNat
      if count ≤ whole then
        digitChars d.digits ++ List.replicate (whole - count) '0' ++ ['.', '0']
      else
        digitChars (d.digits.take whole) ++ '.' :: digitChars (d.digits.drop whole)
  else
    let power := d.exponent - 1
    let sign := if power < 0 then '-' else '+'
    let tail := 'e' :: sign :: padded l.exponentWidth power.natAbs
    match digitChars d.digits with
    | [] => '0' :: tail
    | [c] => c :: tail
    | c :: rest => c :: '.' :: (rest ++ tail)

/-- Numbers from a ten-thousandth to below ten to the sixteenth are written in
place; an exponent has at least two digits. -/
def layout : Layout := ⟨-4, 16, 2⟩

end Decimal

/-- The text of a floating-point number; `words` are the names of the number that
is none and of infinity. -/
def Decimal.floatText (words : String × String) (x : Float) : String :=
  if x.isNaN then words.1
  else
    let bits := x.toBits
    let sign := if bits.toNat / Decimal.twoTo 63 == 1 then "-" else ""
    if x.isInf then sign ++ words.2
    else
      let b := Binary.ofBits bits
      let body := if b.m == 0 then ['0', '.', '0'] else render layout (shortest b)
      sign ++ String.ofList body

/-- The text of a floating-point number. -/
def Decimal.ofFloat (x : Float) : String :=
  floatText ("nan", "inf") x

end FindingLedger
