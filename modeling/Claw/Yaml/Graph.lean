import Claw.Yaml.Tag

/-!
# YAML documents as graphs

The nodes of a document form a graph and not a tree, because aliases make one node part of several
others, and possibly of itself.  Nodes therefore refer to each other by their places.

* `Node`: a type with a text, with the items of a sequence, or with the entries of a mapping;
* `Graph`: nodes by place;
* `Document`: a graph with the place of its root.

A place at which there is no node holds an empty text of no known type.
-/

namespace Claw.Yaml

/-- The number of nodes that come before a node. -/
abbrev Place := Nat

/-- What a node consists of. -/
inductive Content
  | scalar (text : String)
  | sequence (items : List Place)
  | mapping (entries : List (Place × Place))
  deriving DecidableEq, Repr

/-- A node of a document. -/
structure Node where
  tag : Tag
  content : Content
  deriving DecidableEq, Repr

/-- The nodes of a document. -/
structure Graph where
  nodes : Array Node

/-- A document: its nodes, and the place of the node that is the document itself. -/
structure Document where
  graph : Graph
  root : Place

namespace Graph

/-- The graph without nodes. -/
def empty : Graph := ⟨#[]⟩

/-- The number of nodes, which is also the first place without one. -/
def size (graph : Graph) : Nat :=
  graph.nodes.size

/-- The node at a place. -/
def node (graph : Graph) (place : Place) : Node :=
  graph.nodes[place]?.getD ⟨.other, .scalar ""⟩

/-- The graph with one more node, at the first place without one. -/
def push (graph : Graph) (node : Node) : Graph :=
  ⟨graph.nodes.push node⟩

/-- The graph with another content at a place. -/
def setContent (graph : Graph) (place : Place) (content : Content) : Graph :=
  ⟨graph.nodes.modify place fun node => { node with content }⟩

/-- The graph with another type at a place. -/
def setTag (graph : Graph) (place : Place) (tag : Tag) : Graph :=
  ⟨graph.nodes.modify place fun node => { node with tag }⟩

/-- The entries of a mapping, and none of another node. -/
def entries (graph : Graph) (place : Place) : List (Place × Place) :=
  match (graph.node place).content with
  | .mapping entries => entries
  | _ => []

/-- Whether the node at a place is of the given type. -/
def hasTag (graph : Graph) (tag : Tag) (place : Place) : Bool :=
  (graph.node place).tag = tag

end Graph

end Claw.Yaml
