import Claw.Yaml.Graph
import Claw.Yaml.Scalar

/-!
# YAML data

What a YAML text denotes: a scalar or a collection.  Collections refer to what they hold by place,
like the nodes of a document, because a collection may be part of itself.

* `Value`: a scalar, or the place of a collection;
* `Collection`: what a collection holds;
* `Data`: a value with the collections that belong to it.

Keys of mappings and members of sets are scalars, because only they have a fixed identity.  A
mapping keeps the order in which its keys first came up.
-/

namespace Claw.Yaml

/-- A scalar, or the collection at a place. -/
inductive Value
  | scalar (value : Scalar)
  | collection (place : Place)
  deriving DecidableEq, Repr

/-- What a collection holds. -/
inductive Collection
  | sequence (items : List Value)
  | mapping (entries : List (Scalar × Value))
  | set (members : List Scalar)
  | pairs (entries : List (Value × Value))
  deriving DecidableEq, Repr

/-- What a YAML text denotes. -/
structure Data where
  root : Value
  collections : List (Place × Collection)
  deriving DecidableEq, Repr

/-- The scalar alone. -/
def Data.ofScalar (value : Scalar) : Data := ⟨.scalar value, []⟩

/-- The collection that a value is, if it is one. -/
def Data.collection? (data : Data) : Value → Option Collection
  | .scalar _ => none
  | .collection place => data.collections.lookup place

/-- Puts a value under a key: in place of an earlier value, or at the end. -/
def putEntry (key : Scalar) (value : Value) : List (Scalar × Value) → List (Scalar × Value)
  | [] => [(key, value)]
  | entry :: rest =>
    if entry.1 = key then (key, value) :: rest else entry :: putEntry key value rest

/-- The entries of a mapping in which later values replace earlier ones. -/
def ofPairs (pairs : List (Scalar × Value)) : List (Scalar × Value) :=
  pairs.foldl (fun entries (key, value) => putEntry key value entries) []

end Claw.Yaml
