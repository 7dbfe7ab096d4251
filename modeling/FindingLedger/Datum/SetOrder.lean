/-
The order in which the numbers of a set are shown.

A set is a row of places, about twice as many as it has members.  A number asks for the
place that its mark tells, and where it is taken for the places that follow, and then for
others.  The members are shown in the order of their places, whatever the order in which
they came, as far as they do not stand in each other's way.
-/
import FindingLedger.Datum

namespace FindingLedger

namespace SetOrder

/-- Marks are remainders modulo this prime. -/
def modulus : Nat := Decimal.twoTo 61 - 1

def infiniteMark : Nat := 314159

/-- The mark of the size of a floating-point number `m * 2 ^ q`.  Since `2 ^ 61` leaves the
remainder one, negative powers of two have remainders as well. -/
def sizeMark (x : Float) : Nat :=
  if x.isInf then infiniteMark
  else
    let b := Decimal.Binary.ofBits x.toBits
    b.m * Decimal.twoTo (b.q % 61).toNat % modulus

/-- The mark of a number, the same for all that are the same in value; other scalars have
none.  No number has the mark `-1`. -/
def mark? (s : Scalar) : Option Int :=
  let mark? : Option Int := match s with
    | .bool b => some (if b then 1 else 0)
    | .int n => some (n.tmod modulus)
    | .float x =>
      if x.isNaN then none
      else some (if Decimal.isNegative x then -(sizeMark x : Int) else sizeMark x)
    | _ => none
  mark?.map fun n => if n == -1 then -2 else n

/-- The number of places for so many members. -/
def placeCount (members : Nat) : Nat :=
  if members < 5 then 8 else Decimal.twoTo (Nat.log2 (2 * members) + 1)

/-- The places that are looked at in a row, if the row has so many. -/
def runLength : Nat := 10

/-- A free place: the first of a run that starts at `place`, else one of a run elsewhere,
which `seed` tells.  The fuel bounds the runs. -/
def freePlace {α : Type} (row : Array (Option α)) : Nat → Nat → Nat → Nat
  | 0, _, place => place
  | fuel + 1, seed, place =>
    let run := if place + runLength ≤ row.size then runLength else 1
    match (List.range run).find? fun i => (row.getD (place + i) none).isNone with
    | some i => place + i
    | none =>
      let seed := seed / 32
      freePlace row fuel seed ((5 * place + 1 + seed) % row.size)

/-- Put a member into the row; marks are read as numbers of 64 bits. -/
def place {α : Type} (row : Array (Option α)) (member : α × Int) : Array (Option α) :=
  let seed := (member.2 % Decimal.twoTo 64).toNat
  row.setIfInBounds (freePlace row (2 * row.size + 64) seed (seed % row.size)) (some member.1)

/-- The members of a set in the order in which they are shown.  Those that are not all
numbers are shown as they came. -/
def shown (members : List Scalar) : List Scalar :=
  match members.mapM fun s => (mark? s).map (s, ·) with
  | none => members
  | some marked =>
    let row := Array.replicate (placeCount members.length) none
    (marked.foldl place row).toList.filterMap id

end SetOrder

end FindingLedger
