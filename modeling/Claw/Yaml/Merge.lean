import Claw.Yaml.Failure
import Claw.Yaml.Graph

/-!
# Mappings that take over entries

An entry with the key `<<` stands for the entries of another mapping, or of all mappings in a
sequence.  Such a mapping is *completed*: the entry goes, and what it stands for is put in front of
the entries that are left, so that these win where keys agree.  Of the mappings in a sequence the
later ones come first, so that the earlier ones win.

* `complete`: completes a mapping, and before it the mappings that it takes over from, as far as
  there is room for it;
* `completionBound`: how deep this can go in a graph.

A mapping may lead to itself.  It is met again with the entries that are not completed yet, and
these are taken away before anything is followed, so that every step leaves fewer of them.

Completing also gives the key `=` the type of text: as the key of a mapping it stands for itself.
-/

namespace Claw.Yaml

/-- A step of completing the mappings of a graph. -/
abbrev Completing := Within Nat Graph

/-- What the first entry that takes over others refers to, and the entries without it. -/
def firstMerge? (graph : Graph) (entries : List (Place × Place)) :
    Option (Place × List (Place × Place)) := do
  let index ← entries.findIdx? fun (key, _) => graph.hasTag .merge key
  let (_, source) ← entries[index]?
  pure (source, entries.eraseIdx index)

/-- The graph in which the keys `=` of the given entries are text. -/
def settleKeys (graph : Graph) (entries : List (Place × Place)) : Graph :=
  entries.foldl
    (fun graph (key, _) => if graph.hasTag .equals key then graph.setTag key .text else graph) graph

/-- The graph in which the given entries are put in front of those of a mapping. -/
def prependEntries (graph : Graph) (place : Place) (taken : List (Place × Place)) : Graph :=
  let entries := taken ++ graph.entries place
  settleKeys (graph.setContent place (.mapping entries)) entries

mutual

/-- Completes a mapping. -/
def complete : Nat → Place → Completing Unit
  | 0, _ => throw .malformed
  | fuel + 1, place => deeper do
    let taken ← takeOver fuel place
    modify (prependEntries · place taken)
termination_by structural fuel => fuel

/-- Takes away the entries of a mapping that stand for others, and gives the others. -/
def takeOver : Nat → Place → Completing (List (Place × Place))
  | 0, _ => throw .malformed
  | fuel + 1, place => do
    let graph ← get
    match firstMerge? graph (graph.entries place) with
    | none => return []
    | some (source, entries) =>
      set (graph.setContent place (.mapping entries))
      let offered ← offer fuel source
      return offered ++ (← takeOver fuel place)

/-- The entries that a node offers to be taken over. -/
def offer : Nat → Place → Completing (List (Place × Place))
  | 0, _ => throw .malformed
  | fuel + 1, source => do
    match ((← get).node source).content with
    | .scalar _ => throw .malformed
    | .mapping _ => offerMapping fuel source
    | .sequence items => return (← items.mapM (offerMapping fuel)).reverse.flatten

/-- The entries of a node that has to be a mapping, after it has been completed. -/
def offerMapping : Nat → Place → Completing (List (Place × Place))
  | 0, _ => throw .malformed
  | fuel + 1, source => do
    match ((← get).node source).content with
    | .mapping _ =>
      complete fuel source
      return (← get).entries source
    | _ => throw .malformed

end

/-- A bound for `complete`: on the way to a mapping within another one, an entry that takes over
others is taken away. -/
def completionBound (graph : Graph) : Nat :=
  let merges := (List.range graph.size).map fun place =>
    ((graph.entries place).filter fun (key, _) => graph.hasTag .merge key).length
  4 * merges.foldl Nat.add 0 + 4

end Claw.Yaml
