/-
Dictionaries that can not be laid over each other.

Where both have a dictionary under one key, these are laid over each other in turn.  When
dictionaries hold themselves this need not come to an end: it does not exactly when it
comes to the same two dictionaries again.
-/
import FindingLedger.Yaml.Build

namespace FindingLedger

namespace Yaml

def Assembly.entries? (a : Assembly) : Part → Option (NodeId × List (Key × Part))
  | .scalar _ => none
  | .collection i =>
    match a.holding i with
    | .dict entries => some (i, entries)
    | _ => none

/-- The parts that two dictionaries have under one key. -/
def partsInBoth (lower upper : List (Key × Part)) : List (Part × Part) :=
  upper.filterMap fun (key, p) =>
    (lower.find? fun e => e.1.sameAs key).map fun e => (e.2, p)

/-- Looking for two dictionaries that are met again; the state holds those that are known to
lead to no such two. -/
abbrev Search := StateM (List (NodeId × NodeId))

/-- Whether laying one part over another does not come to an end.  `outer` are the
dictionaries around them; the fuel bounds how many these can be. -/
def Assembly.comesBack (lower upper : Assembly) :
    Nat → List (NodeId × NodeId) → Part × Part → Search Bool
  | 0, _, _ => return true
  | fuel + 1, outer, (p, q) => do
    match lower.entries? p, upper.entries? q with
    | some (i, below), some (j, above) =>
      if outer.contains (i, j) then return true
      if (← get).contains (i, j) then return false
      let found ← (partsInBoth below above).anyM (comesBack lower upper fuel ((i, j) :: outer))
      if !found then modify ((i, j) :: ·)
      return found
    | _, _ => return false

/-- Whether laying one value over another does not come to an end. -/
def Assembly.isEndlessUnder (lower upper : Assembly) : Bool :=
  let fuel := lower.holdings.size * upper.holdings.size + 2
  ((lower.comesBack upper fuel [] (lower.root, upper.root)).run []).1

end Yaml

end FindingLedger
