/-
Laying one dictionary over another.

Where both have a dictionary under one key, these are laid over each other in turn;
anywhere else the upper one wins.  Keys keep the order of the lower dictionary, and
keys of the upper one alone follow in its order.
-/
import FindingLedger.Datum

namespace FindingLedger

namespace Datum

/-- Change the value of a key by `f`, or set it to `value` at the end. -/
def alter (key : Scalar) (value : Datum) (f : Datum → Datum) :
    List (Scalar × Datum) → List (Scalar × Datum)
  | [] => [(key, value)]
  | (k, v) :: rest =>
    if k.sameAs key then (k, f v) :: rest else (k, v) :: alter key value f rest

mutual

/-- Lay one value over another. -/
def overlay (lower : Datum) : Datum → Datum
  | .dict upper =>
    match lower with
    | .dict entries => .dict (overlayEntries entries upper)
    | _ => .dict upper
  | v => v

/-- Lay the entries of one dictionary over those of another. -/
def overlayEntries (lower : List (Scalar × Datum)) :
    List (Scalar × Datum) → List (Scalar × Datum)
  | [] => lower
  | (key, value) :: rest =>
    overlayEntries (alter key value (fun old => overlay old value) lower) rest

end

/-- Nothing laid over a dictionary leaves it as it is. -/
theorem overlayEntries_nil (lower : List (Scalar × Datum)) : overlayEntries lower [] = lower := by
  rw [overlayEntries]

end Datum

end FindingLedger
