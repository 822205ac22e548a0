import WatWorkbench.Yaml.Cursor
import WatWorkbench.Yaml.Tag

/-!
# Nodes

A document is a graph of nodes: scalars, sequences of nodes and mappings of nodes to nodes.  A node
may be part of several others, and even of itself.

* `NodeId`, `Node` — nodes, which refer to others by number.
* `Graph` — all nodes of a document.
-/

namespace WatWorkbench.Yaml

/-- The number of a node. -/
abbrev NodeId := Nat

/-- What a node consists of. -/
inductive Node.Content where
  /-- A text. -/
  | scalar (t : Text)
  /-- Nodes one after another. -/
  | sequence (items : List NodeId)
  /-- Nodes in pairs of a key and a value. -/
  | mapping (pairs : List (NodeId × NodeId))
  deriving DecidableEq, Inhabited, Repr

/-- How messages call a kind of content. -/
def Node.Content.name : Node.Content → Text
  | scalar _ => "scalar"
  | sequence _ => "sequence"
  | mapping _ => "mapping"

/-- A part of a document. -/
structure Node where
  /-- Its type. -/
  tag : Tag
  /-- What it consists of. -/
  content : Node.Content
  /-- Where it begins. -/
  start : Mark
  deriving DecidableEq, Inhabited, Repr

/-- The nodes of a document by their numbers. -/
abbrev Graph := Array Node

namespace Graph

/-- The node with a number. -/
def node (g : Graph) (id : NodeId) : Node := g.getD id ⟨.core .null, .scalar "", {}⟩

/-- The graph with another type of a node. -/
def withTag (g : Graph) (id : NodeId) (tag : Tag) : Graph := g.modify id ({ · with tag })

/-- The graph with another content of a node. -/
def withContent (g : Graph) (id : NodeId) (content : Node.Content) : Graph :=
  g.modify id ({ · with content })

/-- How many pairs the mappings of a graph have. -/
def pairCount (g : Graph) : Nat :=
  g.foldl (fun sum n => match n.content with
    | .mapping pairs => sum + pairs.length
    | _ => sum) 0

end Graph

end WatWorkbench.Yaml
