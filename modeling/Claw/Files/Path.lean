import Claw.Text.Lines

/-!
# Paths

A path is a text whose components stand between slashes.

* `components`: the components of a path, empty ones included;
* `tidyPath`: the path without components that say nothing: empty ones and single dots.  Double dots
  stay, because what they lead to depends on the file system;
* `isTooLong`, `hasLongName`: the limits of paths and of the names in them, in bytes.
-/

namespace Claw

/-- The components of a path. -/
def components (path : String) : List String :=
  (Text.pieces '/' path.toList).map String.ofList

/-- The slashes in front of an absolute path: one, except that exactly two are kept. -/
def leadingSlashes (path : String) : String :=
  match (path.toList.takeWhile (· == '/')).length with
  | 0 => ""
  | 2 => "//"
  | _ => "/"

/-- The path without empty components and single dots, and a dot if nothing is left. -/
def tidyPath (path : String) : String :=
  let kept := (components path).filter fun component => component != "" && component != "."
  let tidied := leadingSlashes path ++ "/".intercalate kept
  if tidied = "" then "." else tidied

/-- Whether a path is longer than any that is looked up. -/
def isTooLong (path : String) : Bool :=
  4096 ≤ path.utf8ByteSize

/-- Whether a component of a path is longer than any name. -/
def hasLongName (component : String) : Bool :=
  255 < component.utf8ByteSize

end Claw
