import Claw.Yaml.Document
import Claw.Yaml.Merge
import Claw.Yaml.Value

/-!
# Loading a YAML text

`load` gives what a text denotes, and null for a text without a document, with the given room for
going deeper.

* `scalarText`: the text of a scalar, which may be hidden in mappings;
* `Builder` and `Build`: data partly built, and a step of building them;
* `visit`: the value of a node;
* `fill`: what the collection of a node holds.

Every node is given its value once.  A scalar is read when its node is first met, and a collection
is filled after all collections that were met before it, which decides what is reported of several
faults.
-/

namespace Claw.Yaml

/-- The text of a scalar.  A mapping has the text under its key `=`.  Such keys may lead around in a
circle, and are followed as long as there is room for it. -/
def scalarText (graph : Graph) : Nat → Place → Except Failure String
  | 0, _ => .error .tooDeep
  | room + 1, place =>
    match (graph.node place).content with
    | .scalar text => .ok text
    | .sequence _ => .error .malformed
    | .mapping entries =>
      match entries.find? fun (key, _) => graph.hasTag .equals key with
      | some (_, value) => scalarText graph room value
      | none => .error .malformed

/-- The scalar of the node at a place, which has to be of a type of scalars. -/
def scalarAt (graph : Graph) (room : Nat) (place : Place) : Except Failure Scalar := do
  let node := graph.node place
  if !node.tag.isScalar then .error .malformed
  else
    let text ← scalarText graph room place
    match node.tag, node.content with
    | .timestamp, .mapping _ => .error (.scalar .nestedTimestamp)
    | tag, _ => Scalar.ofText tag text

/-- Data partly built. -/
structure Builder where
  graph : Graph
  /-- The values of the nodes that have one so far. -/
  values : Array (Option Value)
  /-- The collections met so far, in this order. -/
  met : Array Place
  /-- A bound for completing mappings. -/
  bound : Nat

/-- A step of building data. -/
abbrev Build := Within Room Builder

namespace Build

/-- The value of a node that is met for the first time. -/
def newValue (graph : Graph) (place : Place) : Build Value := do
  if (graph.node place).tag.isCollection then return .collection place
  else return .scalar (← scalarAt graph (← read).texts place)

/-- The value of a node. -/
def visit (place : Place) : Build Value := do
  let builder ← get
  match builder.values[place]?.join with
  | some value => return value
  | none =>
    let value ← newValue builder.graph place
    let met := match value with
      | .collection place => builder.met.push place
      | .scalar _ => builder.met
    set { builder with values := builder.values.setIfInBounds place (some value), met }
    return value

/-- The value of a node that is a key or a member, which has to be a scalar. -/
def visitKey (place : Place) : Build Scalar := do
  match ← visit place with
  | .scalar value => return value
  | .collection _ => throw .malformed

/-- The graph in which a mapping is completed. -/
def completed (graph : Graph) (bound : Nat) (place : Place) : Build Graph := do
  let ((), graph) ← ((complete bound place).run (← read).merges).run graph
  return graph

/-- The entries of a mapping, completed. -/
def visitEntries (place : Place) : Build (List (Scalar × Value)) := do
  let builder ← get
  let graph ← completed builder.graph builder.bound place
  set { builder with graph }
  let pairs ← (graph.entries place).mapM fun (key, value) => do
    let key ← visitKey key
    return (key, ← visit value)
  return ofPairs pairs

/-- The only entry of a mapping. -/
def visitPair (place : Place) : Build (Value × Value) := do
  match (← get).graph.entries place with
  | [(key, value)] =>
    let key ← visit key
    return (key, ← visit value)
  | _ => throw .malformed

/-- What the collection of a node holds. -/
def fill (place : Place) : Build Collection := do
  let node := (← get).graph.node place
  match node.tag, node.content with
  | .sequence, .sequence items => return .sequence (← items.mapM visit)
  | .mapping, .mapping _ => return .mapping (← visitEntries place)
  | .set, .mapping _ => return .set ((← visitEntries place).map Prod.fst)
  | .orderedMapping, .sequence items | .pairs, .sequence items =>
    return .pairs (← items.mapM visitPair)
  | _, _ => throw .malformed

/-- Fills the collections that were met behind the first `filled` ones, of which there are at most
as many as there are nodes. -/
def fillFrom : Nat → Nat → Build (List (Place × Collection))
  | 0, _ => throw .malformed
  | fuel + 1, filled => do
    match (← get).met[filled]? with
    | none => return []
    | some place =>
      let collection ← fill place
      return (place, collection) :: (← fillFrom fuel (filled + 1))

/-- The data of a document. -/
def all (document : Document) : Build Data := do
  let root ← visit document.root
  return ⟨root, ← fillFrom (document.graph.size + 1) 0⟩

end Build

/-- What a document denotes. -/
def Document.data (room : Room) (document : Document) : Except Failure Data := do
  let graph := document.graph
  let builder : Builder :=
    ⟨graph, Array.replicate graph.size none, #[], completionBound graph⟩
  let (data, _) ← ((Build.all document).run room).run builder
  pure data

/-- What a text denotes. -/
def load (room : Room) (text : String) : Except Failure Data := do
  match ← Document.ofText? room.nodes text with
  | none => pure (.ofScalar .null)
  | some document => document.data room

end Claw.Yaml
