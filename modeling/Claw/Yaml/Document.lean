import Claw.Yaml.Graph
import Claw.Yaml.Tokens

/-!
# From YAML tokens to a document

`Document.ofText?` gives the one document of a text, or none if the text is empty.

* `Composer` and `Step`: tokens partly read, and a step of reading them;
* `Compose` and `node`: reading nodes within each other, as far as there is room for it;
* `declarations`: reading the directive lines of a document.

An anchor refers to its node from the beginning of the node on, so that an alias within a collection
may refer to the collection itself.

Where no more tokens can be told, the failure comes up as soon as the next token is looked at, and
not before; other faults of the tokens read until then come first.

The functions that read nodes call one another; their bound is a multiple of the number of tokens,
and every round that goes on takes at least one.  How many nodes they may read within each other is
another matter: that is the room they have.
-/

namespace Claw.Yaml

/-- Tokens partly read. -/
structure Composer where
  stream : TokenStream
  /-- The nodes so far. -/
  graph : Graph
  /-- What the anchors so far refer to. -/
  anchors : List (String × Place)
  /-- What the tag handles stand for. -/
  handles : List (String × String)

/-- A step of reading tokens. -/
abbrev Step := StateT Composer (Except Failure)

namespace Step

/-- The end of reading a text that is not well-formed. -/
def malformed {α : Type} : Step α :=
  throw .malformed

/-- The next token; nothing at the end of the text. -/
def peek : Step (Option Token) := do
  match (← get).stream with
  | ⟨token :: _, _⟩ => pure (some token)
  | ⟨[], none⟩ => pure none
  | ⟨[], some failure⟩ => throw failure

/-- Passes over the next token. -/
def advance : Step Unit :=
  modify fun composer =>
    { composer with stream := { composer.stream with tokens := composer.stream.tokens.tail } }

/-- Whether the next token is one of the given ones. -/
def follows (expected : List Token) : Step Bool := do
  return (← peek).any expected.contains

/-- Passes over a token that has to follow. -/
def expect (expected : Token) : Step Unit := do
  if ← follows [expected] then advance else malformed

/-- Adds a node to which an anchor refers, if one is given. -/
def addNode (anchor : Option String) (node : Node) : Step Place := do
  let composer ← get
  let place := composer.graph.size
  let anchors := match anchor with
    | some name => (name, place) :: composer.anchors
    | none => composer.anchors
  set { composer with graph := composer.graph.push node, anchors }
  return place

/-- Gives a node its content. -/
def setContent (place : Place) (content : Content) : Step Unit :=
  modify fun composer => { composer with graph := composer.graph.setContent place content }

/-- What an anchor refers to. -/
def anchored (name : String) : Step Place := do
  match (← get).anchors.lookup name with
  | some place => pure place
  | none => malformed

/-- Refuses the name of an anchor that is taken. -/
def checkAnchor (name : Option String) : Step Unit := do
  let taken := (← get).anchors
  if name.any fun name => (taken.lookup name).isSome then malformed

/-- The full name of a tag. -/
def tagName : Option String × String → Step String
  | (none, suffix) => pure suffix
  | (some handle, suffix) => do
    match (← get).handles.lookup handle with
    | some expansion => pure (expansion ++ suffix)
    | none => malformed

/-- The anchor that follows, if one does. -/
def takeAnchor : Step (Option String) := do
  match ← peek with
  | some (.anchor name) => advance; pure (some name)
  | _ => pure none

/-- The tag that follows, if one does: its handle and its suffix. -/
def takeTag : Step (Option (Option String × String)) := do
  match ← peek with
  | some (.tag handle suffix) => advance; pure (some (handle, suffix))
  | _ => pure none

/-- The anchor and the full name of the tag of a node, which stand in either order. -/
def properties : Step (Option String × Option String) := do
  let (anchor, tag) ← match ← takeAnchor with
    | some anchor => pure (some anchor, ← takeTag)
    | none =>
      match ← takeTag with
      | some tag => pure (← takeAnchor, some tag)
      | none => pure (none, none)
  return (anchor, ← tag.mapM tagName)

end Step

/-- The type of a collection with the given tag. -/
def collectionTag (standard : Tag) : Option String → Tag
  | none | some "!" => standard
  | some name => .ofName name

/-- The type of a scalar with the given tag; a tag `!` asks for the type that the text has by its
shape. -/
def scalarTag (plain : Bool) (text : String) : Option String → Tag
  | none => if plain then resolve text else .text
  | some "!" => resolve text
  | some name => .ofName name

open Step

/-! ## Nodes -/

/-- A step of reading nodes, which may go deeper. -/
abbrev Compose := Within Nat Composer

/-- A scalar with the given anchor and tag. -/
def scalarNode (anchor tag : Option String) (plain : Bool) (text : String) : Step Place := do
  checkAnchor anchor
  addNode anchor ⟨scalarTag plain text tag, .scalar text⟩

/-- An empty scalar, which needs an anchor or a tag to be seen. -/
def emptyScalar (anchor tag : Option String) : Step Place :=
  if anchor.isNone && tag.isNone then malformed else scalarNode anchor tag true ""

/-- A collection with the given anchor and tag, of which what it holds is still to be read. -/
def collectionNode {α : Type} (standard : Tag) (content : List α → Content)
    (anchor tag : Option String) (read : Compose (List α)) : Compose Place := do
  checkAnchor anchor
  let place ← addNode anchor ⟨collectionTag standard tag, content []⟩
  setContent place (content (← read))
  return place

/-- The node where none is written. -/
def emptyNode : Compose Place :=
  deeper (addNode none ⟨resolve "", .scalar ""⟩)

/-- A node that is to be read, unless one of the given tokens follows and none is written. -/
def nodeUnless (ends : List Token) (read : Compose Place) : Compose Place := do
  if ← follows ends then emptyNode else read

/-- Passes over the comma in front of an entry of a flow collection that is not the first. -/
def separate (first : Bool) : Step Unit :=
  if first then pure () else expect .flowEntry

mutual

/-- A node.  Block collections are read where `block` is set, and a sequence without indentation
where `compact` is. -/
def node : Nat → Bool → Bool → Compose Place
  | 0, _, _ => malformed
  | fuel + 1, block, compact => deeper do
    match ← peek with
    | some (.alias name) => advance; anchored name
    | _ =>
      let (anchor, tag) ← properties
      content fuel block compact anchor tag

/-- A node behind its properties. -/
def content : Nat → Bool → Bool → Option String → Option String → Compose Place
  | 0, _, _, _, _ => malformed
  | fuel + 1, block, compact, anchor, tag => do
    let sequence := collectionNode .sequence .sequence anchor tag
    let mapping := collectionNode .mapping .mapping anchor tag
    let empty := emptyScalar anchor tag
    match ← peek with
    | some .blockEntry => if compact then sequence (compactItems fuel) else empty
    | some (.scalar plain text) => advance; scalarNode anchor tag plain text
    | some .flowSequenceStart => sequence (do advance; flowItems fuel true)
    | some .flowMappingStart => mapping (do advance; flowEntries fuel true)
    | some .blockSequenceStart =>
      if block then sequence (do advance; blockItems fuel) else empty
    | some .blockMappingStart =>
      if block then mapping (do advance; blockEntries fuel) else empty
    | _ => empty

/-- The entries of a block sequence, and its end. -/
def blockItems : Nat → Compose (List Place)
  | 0 => malformed
  | fuel + 1 => do
    if ← follows [.blockEntry] then
      advance
      let item ← nodeUnless [.blockEntry, .blockEnd] (node fuel true false)
      return item :: (← blockItems fuel)
    else
      expect .blockEnd
      return []

/-- The entries of a block sequence that is not indented and has no end of its own. -/
def compactItems : Nat → Compose (List Place)
  | 0 => malformed
  | fuel + 1 => do
    if ← follows [.blockEntry] then
      advance
      let item ← nodeUnless [.blockEntry, .key, .value, .blockEnd] (node fuel true false)
      return item :: (← compactItems fuel)
    else return []

/-- The entries of a block mapping, and its end. -/
def blockEntries : Nat → Compose (List (Place × Place))
  | 0 => malformed
  | fuel + 1 => do
    if ← follows [.blockEnd] then
      advance
      return []
    else if ← follows [.key] then
      let key ← blockPart fuel .key
      let value ← blockPart fuel .value
      return (key, value) :: (← blockEntries fuel)
    else malformed

/-- The key or the value of a block mapping behind its indicator, which may be missing. -/
def blockPart : Nat → Token → Compose Place
  | 0, _ => malformed
  | fuel + 1, indicator => do
    if ← follows [indicator] then
      advance
      nodeUnless [.key, .value, .blockEnd] (node fuel true true)
    else emptyNode

/-- The entries of a flow sequence, and its end. -/
def flowItems : Nat → Bool → Compose (List Place)
  | 0, _ => malformed
  | fuel + 1, first => do
    if ← follows [.flowSequenceEnd] then
      advance
      return []
    else
      separate first
      if ← follows [.key] then
        let pair ← deeper (flowPair fuel)
        return pair :: (← flowItems fuel false)
      else if ← follows [.flowSequenceEnd] then
        advance
        return []
      else
        let item ← node fuel false false
        return item :: (← flowItems fuel false)

/-- A mapping with a single entry that stands in a flow sequence. -/
def flowPair : Nat → Compose Place
  | 0 => malformed
  | fuel + 1 => do
    let pair ← addNode none ⟨.mapping, .mapping []⟩
    let key ← flowPart fuel .key .flowSequenceEnd
    let value ← flowPart fuel .value .flowSequenceEnd
    setContent pair (.mapping [(key, value)])
    return pair

/-- The entries of a flow mapping, and its end. -/
def flowEntries : Nat → Bool → Compose (List (Place × Place))
  | 0, _ => malformed
  | fuel + 1, first => do
    if ← follows [.flowMappingEnd] then
      advance
      return []
    else
      separate first
      if ← follows [.key] then
        let key ← flowPart fuel .key .flowMappingEnd
        let value ← flowPart fuel .value .flowMappingEnd
        return (key, value) :: (← flowEntries fuel false)
      else if ← follows [.flowMappingEnd] then
        advance
        return []
      else
        let key ← node fuel false false
        let value ← emptyNode
        return (key, value) :: (← flowEntries fuel false)

/-- The key or the value of an entry of a flow collection behind its indicator, which may be
missing. -/
def flowPart : Nat → Token → Token → Compose Place
  | 0, _, _ => malformed
  | fuel + 1, indicator, ending => do
    if ← follows [indicator] then
      advance
      nodeUnless (if indicator = .key then [.value, .flowEntry, ending] else [.flowEntry, ending])
        (node fuel false false)
    else emptyNode

end

/-! ## Documents -/

/-- What the tag handles stand for unless a document says otherwise. -/
def standardHandles : List (String × String) :=
  [("!", "!"), ("!!", "tag:yaml.org,2002:")]

/-- Reads the directive lines of a document, which give meanings to tag handles. -/
def declarations : Nat → Bool → List (String × String) → Step (List (String × String))
  | 0, _, _ => malformed
  | fuel + 1, hasVersion, handles => do
    match ← peek with
    | some (.declaration content) =>
      advance
      match content with
      | .version major =>
        if hasVersion || major != 1 then malformed else declarations fuel true handles
      | .handle name expansion =>
        if (handles.lookup name).isSome then malformed
        else declarations fuel hasVersion ((name, expansion) :: handles)
      | .other => declarations fuel hasVersion handles
    | _ => return handles

/-- Whether the content of a document that was announced is missing before a token. -/
def endsDocument : Option Token → Bool
  | none | some (.declaration _) | some .documentStart | some .documentEnd => true
  | _ => false

/-- Passes over the markers of the end of a document. -/
def passEnds : Nat → Step Unit
  | 0 => malformed
  | fuel + 1 => do
    if ← follows [.documentEnd] then
      advance
      passEnds fuel

/-- Refuses everything behind a document but markers of its end.  A further document is refused as
soon as its beginning is read. -/
def expectEnd (fuel : Nat) : Step Unit := do
  passEnds fuel
  if (← peek).isSome then
    let _ ← declarations fuel false []
    let _ ← peek
    malformed

/-- The root of a document that is announced. -/
def announcedRoot (fuel : Nat) : Compose Place := do
  let handles ← declarations fuel false []
  expect .documentStart
  modify fun composer => { composer with handles := handles ++ standardHandles }
  if endsDocument (← peek) then emptyNode else node fuel true false

/-- The document of the tokens, of which there is at most one. -/
def onlyDocument? (fuel : Nat) : Compose (Option Place) := do
  match ← peek with
  | none => return none
  | some (.declaration _) | some .documentStart =>
    let root ← announcedRoot fuel
    expectEnd fuel
    return some root
  | some _ =>
    let root ← node fuel true false
    expectEnd fuel
    return some root

/-- The document of a text, if there is one, of which so many nodes may be read within each
other. -/
def Document.ofText? (room : Nat) (text : String) : Except Failure (Option Document) := do
  let stream := tokens text.toList
  let (root, composer) ← ((onlyDocument? (5 * stream.tokens.length + 5)).run room).run
    ⟨stream, .empty, [], standardHandles⟩
  pure (root.map fun root => ⟨composer.graph, root⟩)

end Claw.Yaml
