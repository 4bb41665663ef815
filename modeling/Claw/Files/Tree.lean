import Claw.Files.Basic
import Claw.Files.Path

/-!
# A file system from a list of entries

`Files.ofEntries` is the file system of a working directory that holds the given entries and
nothing else.  A path is followed component by component; double dots lead back to the directory
before, and a path that leaves the working directory finds nothing behind it.

The paths of the entries may be written in any way; where two are the same, the later one counts.
-/

namespace Claw

/-- What a path leads to: the components below the working directory, innermost first, or a
directory outside of it. -/
inductive Location
  | inside (reversed : List String)
  | outside
  deriving DecidableEq, Repr

/-- The components to which the path of an entry leads from the given ones, innermost first. -/
def entryPlace (reversed : List String) : List String → List String
  | [] => reversed
  | component :: rest =>
    if component = "" ∨ component = "." then entryPlace reversed rest
    else if component = ".." then entryPlace reversed.tail rest
    else entryPlace (component :: reversed) rest

/-- The directories that the path of an entry leads into and out of again, innermost first. -/
def detours (reversed : List String) : List String → List (List String)
  | [] => []
  | component :: rest =>
    if component = "" ∨ component = "." then detours reversed rest
    else if component = ".." then reversed :: detours reversed.tail rest
    else detours (component :: reversed) rest

/-- Entries with the components of their paths, innermost first. -/
abbrev PlacedEntries := List (List String × Entry)

/-- An entry with its components, and the directories that exist because its path leads through
them. -/
def placedEntry (path : String) (entry : Entry) : PlacedEntries :=
  (entryPlace [] (components path), entry) ::
    (detours [] (components path)).map fun place => (place, .directory)

/-- What the entries say of the given components, innermost first. -/
def entryAt (entries : PlacedEntries) (reversed : List String) : Except AccessFault Entry :=
  if reversed.isEmpty then .ok .directory
  else if reversed.head?.any hasLongName then .error .nameTooLong
  else
    match entries.lookup reversed with
    | some entry => .ok entry
    | none =>
      -- an entry within a directory makes the directory
      if entries.any fun (place, _) => reversed.isSuffixOf place then .ok .directory
      else .error .missing

/-- What is found by following the components of a path from a directory. -/
def follow (entries : PlacedEntries) : Location → List String → Except AccessFault Entry
  | .inside place, [] => entryAt entries place
  | .outside, [] => .ok .directory
  | .inside place, component :: rest =>
    match entryAt entries place with
    | .error fault => .error fault
    | .ok (.file _) => .error .notDirectory
    | .ok .directory =>
      if component = "" ∨ component = "." then follow entries (.inside place) rest
      else if component = ".." then
        match place with
        | [] => follow entries .outside rest
        | _ :: parent => follow entries (.inside parent) rest
      else follow entries (.inside (component :: place)) rest
  | .outside, component :: rest =>
    if component = "" ∨ component = "." ∨ component = ".." then follow entries .outside rest
    else if hasLongName component then .error .nameTooLong
    else .error .missing

/-- The file system of a working directory with the given entries. -/
def Files.ofEntries (entries : List (String × Entry)) : Files where
  find path :=
    let placed := entries.reverse.flatMap fun (path, entry) => placedEntry path entry
    if path = "" then .error .missing
    else if isTooLong path then .error .nameTooLong
    else if path.toList.head? = some '/' then follow placed .outside (components path)
    else follow placed (.inside []) (components path)

end Claw
