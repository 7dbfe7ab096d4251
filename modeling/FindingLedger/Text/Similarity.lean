/-
How alike two texts are, and which of some texts come close to a given one.

The longest common block of two texts is matched, then what stands on its left and on
its right in the same way.  The share of matched characters among those of both texts is
their likeness.
-/

namespace FindingLedger

namespace Text

/-- The number of characters that two texts start with in common. -/
def commonFront : List Char → List Char → Nat
  | c :: xs, d :: ys => if c == d then commonFront xs ys + 1 else 0
  | _, _ => 0

/-- A part that two texts have in common: where it starts in each, and its length. -/
structure Block where
  left : Nat
  right : Nat
  size : Nat
deriving DecidableEq, Repr

/-- The longest common block of two texts; of those the first of the left text, then of
the right one. -/
def longestBlock (xs ys : List Char) : Block :=
  (List.range xs.length).foldl
    (fun best i =>
      (List.range ys.length).foldl
        (fun best j =>
          let size := commonFront (xs.drop i) (ys.drop j)
          if best.size < size then ⟨i, j, size⟩ else best)
        best)
    ⟨0, 0, 0⟩

/-- The number of characters of two texts that are matched.  The fuel bounds the depth of
blocks. -/
def matchedFrom : Nat → List Char → List Char → Nat
  | 0, _, _ => 0
  | fuel + 1, xs, ys =>
    let b := longestBlock xs ys
    if b.size == 0 then 0
    else
      b.size + matchedFrom fuel (xs.take b.left) (ys.take b.right) +
        matchedFrom fuel (xs.drop (b.left + b.size)) (ys.drop (b.right + b.size))

/-- How alike two texts are: matched characters, counted in both, among all characters. -/
structure Likeness where
  matched : Nat
  total : Nat
deriving DecidableEq, Repr

/-- How alike two texts are. -/
def likeness (xs ys : List Char) : Likeness :=
  ⟨2 * matchedFrom (xs.length + 1) xs ys, xs.length + ys.length⟩

/-- Whether two texts are close: at least three fifths of their characters match. -/
def Likeness.isClose (l : Likeness) : Bool := 3 * l.total ≤ 5 * l.matched

/-- Whether one likeness is at least as high as another. -/
def Likeness.atLeast (l k : Likeness) : Bool := k.matched * l.total ≤ l.matched * k.total

def maxProposed : Nat := 3

/-- The texts that come close to a given one, the closest first, and of equally close ones
the last in order. -/
def closeTo (s : String) (candidates : List String) : List String :=
  let rated := (candidates.map fun c => (likeness c.toList s.toList, c)).filter fun e =>
    e.1.isClose
  let sorted := rated.mergeSort fun a b =>
    a.1.atLeast b.1 && (!b.1.atLeast a.1 || b.2 ≤ a.2)
  (sorted.map (·.2)).take maxProposed

end Text

end FindingLedger
