/-
The nodes of a YAML document.

A node has a number by which others hold it, since an alias stands for a node as such: one
that is held in two places is one node, and a node may be held by what is inside of it.
-/
import FindingLedger.Yaml.Fault
import FindingLedger.Yaml.Tag

namespace FindingLedger

namespace Yaml

/-- The number of a node among those of its document. -/
abbrev NodeId := Nat

/-- What a node holds. -/
inductive Content
  | scalar (text : List Glyph)
  | sequence (items : List NodeId)
  | mapping (entries : List (NodeId × NodeId))
deriving Repr

/-- The name of a kind of nodes in messages. -/
def Content.name : Content → String
  | .scalar _ => "scalar"
  | .sequence _ => "sequence"
  | .mapping _ => "mapping"

/-- A node with its type and its place. -/
structure Node where
  tag : Tag
  mark : Mark
  content : Content
deriving Repr

def Node.nothing (m : Mark) : Node := ⟨.null, m, .scalar []⟩

/-- The nodes of a document by their numbers. -/
abbrev Graph := Array Node

namespace Graph

def node (g : Graph) (i : NodeId) : Node := g.getD i (.nothing ⟨0, 0⟩)

def add (g : Graph) (n : Node) : NodeId × Graph := (g.size, g.push n)

/-- Change the node with a number. -/
def alter (g : Graph) (i : NodeId) (f : Node → Node) : Graph := g.modify i f

def setContent (g : Graph) (i : NodeId) (c : Content) : Graph :=
  g.alter i fun n => { n with content := c }

/-- The entries of a mapping; other nodes have none. -/
def entries (g : Graph) (i : NodeId) : List (NodeId × NodeId) :=
  match (g.node i).content with
  | .mapping entries => entries
  | _ => []

end Graph

end Yaml

end FindingLedger
