/-
The values of nodes, held by the numbers of their nodes.

A collection is there before it is filled, so that it can hold itself.  It is filled after
the collections that were met before it, so of several faults the one in the shallowest
node is told, and of these the first.
-/
import FindingLedger.Yaml.Document
import FindingLedger.Yaml.Merge
import FindingLedger.Yaml.ScalarText

namespace FindingLedger

namespace Yaml

/-- A key.  A value that is no number is the same only as itself, so it has the number of
the node that made it, if it is not the one that the word for it stands for. -/
structure Key where
  scalar : Scalar
  maker : Option NodeId
deriving Repr

def Key.sameAs (a b : Key) : Bool :=
  match a.scalar, b.scalar with
  | .float x, .float y => if x.isNaN && y.isNaN then a.maker == b.maker else x == y
  | x, y => x.sameAs y

/-- What a node stands for: a scalar, or the collection that it makes. -/
inductive Part
  | scalar (key : Key)
  | collection (i : NodeId)
deriving Repr

/-- What a collection holds. -/
inductive Holding
  | list (items : List Part)
  | pairs (items : List (Part × Part))
  | set (items : List Key)
  | dict (entries : List (Key × Part))
deriving Repr

/-- Values in the making: the nodes, what those met so far stand for, what collections hold,
and those that are still to be filled, the last first. -/
structure Builder where
  graph : Graph
  parts : Array (Option Part)
  holdings : Array Holding
  waiting : List NodeId

/-- Making values, which may meet a fault. -/
abbrev Building := StateT Builder (Except Error)

namespace Building

def problem {α : Type} (context : Option (Activity × Option Mark)) (what : Problem)
    (i : NodeId) : Building α := do
  throw (.marked .constructing context what ((← get).graph.node i).mark)

/-- The text of a node: that of a scalar, or that of a mapping's default value.  The fuel
bounds the default values inside of each other. -/
def textOf : Nat → NodeId → Building (List Glyph)
  | 0, _ => throw .tooDeep
  | fuel + 1, i => do
    let g := (← get).graph
    match (g.node i).content with
    | .scalar text => return text
    | c =>
      match (g.entries i).find? fun e => (g.node e.1).tag == .value with
      | some e => textOf fuel e.2
      | none => problem none (.notScalar c.name) i

/-- The value of a scalar type. -/
def scalarOf (i : NodeId) : Building Key := do
  let g := (← get).graph
  let n := g.node i
  let glyphs ← textOf (g.size + 1) i
  let text := Tag.formOf glyphs
  let given (r : Except ScalarFault Scalar) : Building Key :=
    match r with
    | .ok s => return ⟨s, if ScalarText.isNoNumber text then none else some i⟩
    | .error f => throw (.scalar f)
  match n.tag with
  | .null => given (.ok .null)
  | .bool => given ((ScalarText.boolOf text).map .bool)
  | .int => given ((ScalarText.intOf text).map .int)
  | .float => given ((ScalarText.floatOf text).map .float)
  | .timestamp =>
    match n.content with
    | .scalar text => given (ScalarText.timestampOf (Tag.formOf text))
    | _ => throw (.scalar .noTimestampText)
  | .binary =>
    match ScalarText.binaryOf text with
    | .ok bytes => given (.ok (.bytes bytes))
    | .error what => problem none what i
  | _ => given (.ok (.ofGlyphs glyphs))

def settle (i : NodeId) (p : Part) : Building Part := fun b =>
  .ok (p, { b with parts := b.parts.setIfInBounds i (some p) })

/-- What a node stands for; a collection is still empty. -/
def partOf (i : NodeId) : Building Part := do
  let b ← get
  match b.parts.getD i none with
  | some p => return p
  | none =>
    match (b.graph.node i).tag with
    | .sequence | .mapping | .set | .orderedMap | .pairs =>
      modify fun b => { b with waiting := i :: b.waiting }
      settle i (.collection i)
    | .merge | .value | .other _ =>
      problem none (.unknownTag (b.graph.node i).tag.name) i
    | _ => settle i (.scalar (← scalarOf i))

/-- Set the value of a key: in place when the key is there, else at the end. -/
def put (key : Key) (value : Part) : List (Key × Part) → List (Key × Part)
  | [] => [(key, value)]
  | (k, v) :: rest =>
    if k.sameAs key then (k, value) :: rest else (k, v) :: put key value rest

/-- The entries of a mapping, in which others are merged before. -/
def entriesOf (i : NodeId) : Building (List (Key × Part)) := do
  match ((← get).graph.node i).content with
  | .mapping _ =>
    let graph ← (← get).graph.merge i
    modify fun b => { b with graph }
    (graph.entries i).foldlM
      (fun done (k, v) => do
        match ← partOf k with
        | .collection _ =>
          problem (some (.constructingMapping, some (graph.node i).mark)) .unhashable k
        | .scalar key => return put key (← partOf v) done)
      []
  | c => problem none (.notMapping c.name) i

/-- The pairs of an ordered map. -/
def pairsOf (activity : Activity) (i : NodeId) : Building (List (Part × Part)) := do
  let context := some (activity, some ((← get).graph.node i).mark)
  match ((← get).graph.node i).content with
  | .sequence items =>
    items.mapM fun item => do
      match ((← get).graph.node item).content with
      | .mapping [(k, v)] => return (← partOf k, ← partOf v)
      | .mapping entries => problem context (.pairCount entries.length) item
      | c => problem context (.noPair c.name) item
  | c => problem context (.noSequence c.name) i

def holdingOf (i : NodeId) : Building Holding := do
  let n := (← get).graph.node i
  match n.tag with
  | .set => return .set ((← entriesOf i).map (·.1))
  | .mapping => return .dict (← entriesOf i)
  | .orderedMap => return .pairs (← pairsOf .constructingOrderedMap i)
  | .pairs => return .pairs (← pairsOf .constructingPairs i)
  | _ =>
    match n.content with
    | .sequence items => return .list (← items.mapM partOf)
    | c => problem none (.notSequence c.name) i

def fill (i : NodeId) : Building Unit := do
  let h ← holdingOf i
  modify fun b => { b with holdings := b.holdings.setIfInBounds i h }

/-- Fill the collections that wait, then those met on the way.  The fuel bounds how deep
they are. -/
def fillAll : Nat → Building Unit
  | 0 => pure ()
  | fuel + 1 => do
    let waiting := (← get).waiting.reverse
    if waiting.isEmpty then return
    modify fun b => { b with waiting := [] }
    waiting.forM fill
    fillAll fuel

end Building

/-- What the root of a document stands for, and what collections hold. -/
structure Assembly where
  root : Part
  holdings : Array Holding
deriving Repr

def Assembly.holding (a : Assembly) (i : NodeId) : Holding :=
  a.holdings.getD i (.list [])

def Document.build (d : Document) : Except Error Assembly := do
  let size := d.graph.size
  let start : Builder := ⟨d.graph, Array.replicate size none, Array.replicate size (.list []), []⟩
  let (root, b) ← (Building.partOf d.root).run start
  let (_, b) ← (Building.fillAll (size + 1)).run b
  .ok ⟨root, b.holdings⟩

end Yaml

end FindingLedger
