import Claw.Source.Definition
import Claw.Source.Statement

/-!
# Categories of lines

Every line has a category, by the first of five patterns that its content matches.  Directives come
first, because the value of a definition may hold a data directive; they count as unknown, since
they carry no code.

* `Pattern.accepts` and `Pattern.category`: what a pattern matches and what it says;
* `categoryBy`: the category by a given order of patterns;
* `categoryOf`: the category by the order of this library.
-/

namespace Claw.Source

/-- What a line holds. -/
inductive Category
  | data
  | instruction
  | label
  | unknown
  | empty
  deriving DecidableEq, Repr

namespace Category

/-- Every category. -/
def all : List Category := [.data, .instruction, .label, .unknown, .empty]

/-- The name of a category. -/
def name : Category → String
  | .data => "DATA"
  | .instruction => "INSTRUCTION"
  | .label => "LABEL"
  | .unknown => "UNKNOWN"
  | .empty => "EMPTY"

end Category

/-- The patterns that tell lines apart. -/
inductive Pattern
  | define
  | undefine
  | data
  | instruction
  | label
  deriving DecidableEq, Repr

namespace Pattern

/-- Whether the content of a line matches the pattern. -/
def accepts : Pattern → List Char → Bool
  | .define, cs => (defineDirective? cs).isSome
  | .undefine, cs => (undefineDirective? cs).isSome
  | .data, cs => (dataStatement? cs).isSome
  | .instruction, cs => (instructionStatement? cs).isSome
  | .label, cs => (labelStatement? cs).isSome

/-- The category of a line that matches the pattern. -/
def category : Pattern → Category
  | .define => .unknown
  | .undefine => .unknown
  | .data => .data
  | .instruction => .instruction
  | .label => .label

/-- The patterns in the order in which they are tried. -/
def order : List Pattern := [.define, .undefine, .data, .instruction, .label]

end Pattern

/-- The category of a line when the patterns are tried in the given order. -/
def categoryBy (order : List Pattern) (cs : List Char) : Category :=
  if cs.isEmpty then .empty
  else
    match order.find? (·.accepts cs) with
    | some pattern => pattern.category
    | none => .unknown

/-- No pattern says that a line is empty. -/
theorem Pattern.category_ne_empty (pattern : Pattern) : pattern.category ≠ .empty := by
  cases pattern <;> decide

/-- In whatever order the patterns are tried, a line is empty just if its content is. -/
theorem categoryBy_eq_empty_iff (order : List Pattern) (cs : List Char) :
    categoryBy order cs = .empty ↔ cs = [] := by
  unfold categoryBy
  cases cs with
  | nil => simp
  | cons c cs =>
    simp only [List.isEmpty_cons, Bool.false_eq_true, if_false, reduceCtorEq, iff_false]
    split
    · exact Pattern.category_ne_empty _
    · decide

/-- The category of a line with the given content. -/
def categoryOf (content : String) : Category :=
  categoryBy Pattern.order content.toList

/-- A line is empty just if its content is. -/
theorem categoryOf_eq_empty_iff (content : String) : categoryOf content = .empty ↔ content = "" := by
  rw [categoryOf, categoryBy_eq_empty_iff, String.toList_eq_nil_iff]

end Claw.Source
