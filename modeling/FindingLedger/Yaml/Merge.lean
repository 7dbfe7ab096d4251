/-
Merging of mappings.

The key `<<` of a mapping stands for the entries of other mappings, which come before its
own.  Merging changes the mapping once for all who hold it.
-/
import FindingLedger.Yaml.Node

namespace FindingLedger

namespace Yaml

namespace Graph

/-- Stop at a problem with a mapping whose entries are looked at. -/
def mergeFault {α : Type} (g : Graph) (i : NodeId) (what : Problem) (at_ : NodeId) :
    Except Error α :=
  .error (.marked .constructing (some (.constructingMapping, some (g.node i).mark)) what
    (g.node at_).mark)

/-- Split entries at the first whose key asks for a merge. -/
def splitMerge (g : Graph) (before : List (NodeId × NodeId)) :
    List (NodeId × NodeId) → Option (List (NodeId × NodeId) × NodeId × List (NodeId × NodeId))
  | [] => none
  | (k, v) :: rest =>
    if (g.node k).tag == .merge then some (before.reverse, v, rest)
    else splitMerge g ((k, v) :: before) rest

/-- Make the keys for default values texts. -/
def plainKeys (g : Graph) (entries : List (NodeId × NodeId)) : Graph :=
  entries.foldl
    (fun g e => if (g.node e.1).tag == .value then g.alter e.1 ({ · with tag := .text }) else g)
    g

mutual

/-- Merge what the keys of a mapping ask for into it; `merged` are the entries found so
far.  A key is taken out before its value is looked at, so the fuel bounds the keys. -/
def flatten : Nat → NodeId → List (NodeId × NodeId) → Graph → Except Error Graph
  | 0, _, _, g => .ok g
  | fuel + 1, i, merged, g =>
    match g.splitMerge [] (g.entries i) with
    | none =>
      let g := g.plainKeys (g.entries i)
      .ok (if merged.isEmpty then g else g.setContent i (.mapping (merged ++ g.entries i)))
    | some (before, v, behind) => do
      let g := g.setContent i (.mapping (before ++ behind))
      let (found, g) ← entriesOf fuel i v g
      flatten fuel i (merged ++ found) g

/-- The entries of the mappings that a value stands for; the later of several mappings
come first. -/
def entriesOf : Nat → NodeId → NodeId → Graph →
    Except Error (List (NodeId × NodeId) × Graph)
  | 0, _, _, g => .ok ([], g)
  | fuel + 1, i, v, g =>
    match (g.node v).content with
    | .mapping _ => do
      let g ← flatten fuel v [] g
      .ok (g.entries v, g)
    | .sequence items =>
      items.foldlM
        (fun (found, g) item =>
          match (g.node item).content with
          | .mapping _ => do
            let g ← flatten fuel item [] g
            .ok (g.entries item ++ found, g)
          | c => g.mergeFault i (.mergeItem c.name) item)
        ([], g)
    | c => g.mergeFault i (.mergeValue c.name) v

end

/-- The number of entries of all mappings. -/
def entryCount (g : Graph) : Nat :=
  g.foldl
    (fun n m => match m.content with
      | .mapping entries => n + entries.length
      | _ => n) 0

/-- Merge what the keys of a mapping ask for into it. -/
def merge (g : Graph) (i : NodeId) : Except Error Graph :=
  match g.splitMerge [] (g.entries i) with
  | none => .ok (g.plainKeys (g.entries i))
  | some _ => flatten (2 * g.entryCount + 2) i [] g

end Graph

end Yaml

end FindingLedger
