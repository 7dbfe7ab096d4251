/-
The value of a YAML document.

The collections of a document may hold themselves.  Such a value is unfolded until it is
met again inside of itself, and is cut off there.
-/
import FindingLedger.Datum.SetOrder
import FindingLedger.Yaml.Build

namespace FindingLedger

namespace Yaml

/-- Values that are unfolded: where they come from, and the values of the collections that do
not lead back to themselves. -/
structure Unfolder where
  source : Assembly
  known : Array (Option Datum)

/-- Unfolding, which remembers values. -/
abbrev Unfolding := StateM Unfolder

namespace Unfolding

/-- The collection that is cut off. -/
def cutOff : Holding → Datum
  | .list _ | .pairs _ => .again .list
  | .set _ | .dict _ => .again .dict

mutual

/-- The value of a part inside of some collections, and whether it was cut off anywhere.  The
fuel of this and of the following bounds the depth. -/
def part : Nat → List NodeId → Part → Unfolding (Datum × Bool)
  | _, _, .scalar key => return (.scalar key.scalar, false)
  | 0, _, .collection _ => return (.null, true)
  | fuel + 1, outer, .collection i => do
    let u ← get
    match u.known.getD i none with
    | some v => return (v, false)
    | none =>
      let h := u.source.holding i
      if outer.contains i then return (cutOff h, true)
      let (v, isCut) ← holding fuel (i :: outer) h
      if !isCut then
        modify fun u => { u with known := u.known.setIfInBounds i (some v) }
      return (v, isCut)

def holding : Nat → List NodeId → Holding → Unfolding (Datum × Bool)
  | 0, _, _ => return (.null, true)
  | fuel + 1, outer, h => do
    match h with
    | .set items => return (.set (SetOrder.shown (items.map (·.scalar))), false)
    | .list items =>
      let vs ← items.mapM (part fuel outer)
      return (.list (vs.map (·.1)), vs.any (·.2))
    | .pairs items =>
      let vs ← items.mapM fun (k, v) => do
        return (← part fuel outer k, ← part fuel outer v)
      return (.list (vs.map fun (k, v) => .tuple [k.1, v.1]), vs.any fun (k, v) => k.2 || v.2)
    | .dict entries =>
      let vs ← entries.mapM fun (k, v) => do return (k.scalar, ← part fuel outer v)
      return (.dict (vs.map fun (k, v) => (k, v.1)), vs.any (·.2.2))

end

/-- The value of a part, unfolded anew below the first `levels` of dictionaries. -/
def layered (fuel : Nat) : Nat → Part → Unfolding Datum
  | levels + 1, .collection i => do
    match (← get).source.holding i with
    | .dict entries =>
      return .dict (← entries.mapM fun (k, v) => do
        return (k.scalar, ← layered fuel levels v))
    | _ => return (← part fuel [] (.collection i)).1
  | _, p => do return (← part fuel [] p).1

end Unfolding

/-- The dictionaries that settings are kept in: that of the sections, and the sections. -/
def settingLevels : Nat := 2

/-- The value that is put together. -/
def Assembly.value (a : Assembly) : Datum :=
  let size := a.holdings.size
  ((Unfolding.layered (2 * size + 2) settingLevels a.root).run ⟨a, Array.replicate size none⟩).1

/-- Put together the document in a text; a text without one has none. -/
def read? (s : Source) : Except Error (Option Assembly) := do
  match ← Document.ofSource? s with
  | none => .ok none
  | some d => some <$> d.build

end Yaml

end FindingLedger
