import Claw.Proofs.Text.Lines
import Claw.Proofs.Text.Pair
import Claw.Source.Line

/-!
# Sources put together at a line break

Two source texts with a line break between them are read as the lines of the first followed by the
lines of the second, numbered on: `read_append`.  The seam is safe as long as the first text ends
neither in a backslash, which would join the two lines around it, nor in a carriage return, which
would become part of the line break.

Each stage of the reading has its own law on the way there: `layout_append` for the three passes
over the text, `Text.lines_append` for the cut into lines, `number_append` and `number_add` for the
numbering, and `definitions_append` for the directives.

Consumed by `Claw/Proofs/Concatenation.lean`; `Claw/Proofs/Program/Rendering.lean` uses the laws of
the stages for a text that is put together line by line, and `Claw/Proofs/Recording.lean` those of
directives for a text that is read line by line.
-/

namespace Claw.Source

open Text (replacePair_append replacePair_cons getLast?_replacePair)

/-! ## The layout -/

/-- Whether a line break may follow the text without becoming part of what is before it. -/
def IsClosed (cs : List Char) : Prop :=
  cs.getLast? ≠ some '\\' ∧ cs.getLast? ≠ some '\r'

instance (cs : List Char) : Decidable (IsClosed cs) :=
  inferInstanceAs (Decidable (_ ∧ _))

lemma unifyPairs_append {cs : List Char} (h : IsClosed cs) (ds : List Char) :
    unifyPairs (cs ++ '\n' :: ds) = unifyPairs cs ++ '\n' :: unifyPairs ds := by
  rw [unifyPairs_eq, replacePair_append (.inl h.2), replacePair_cons (.inl (by decide))]

lemma joinContinued_append {cs : List Char} (h : cs.getLast? ≠ some '\\') (ds : List Char) :
    joinContinued (cs ++ '\n' :: ds) = joinContinued cs ++ '\n' :: joinContinued ds := by
  rw [joinContinued_eq, replacePair_append (.inl h), replacePair_cons (.inl (by decide))]

/-- An escaped line break is written with a letter, so a real one completes none. -/
lemma breakEscapes_append (cs ds : List Char) :
    breakEscapes (cs ++ '\n' :: ds) = breakEscapes cs ++ '\n' :: breakEscapes ds := by
  rw [breakEscapes_eq, replacePair_append (.inr (by simp)), replacePair_cons (.inl (by decide))]

/-- **The seam of two layouts.** Behind a closed text a line break is a line break. -/
lemma layout_append {cs : List Char} (h : IsClosed cs) (ds : List Char) :
    layout (cs ++ '\n' :: ds) = layout cs ++ '\n' :: layout ds := by
  have hlast : (unifyPairs cs).getLast? ≠ some '\\' := by
    rw [unifyPairs_eq, getLast?_replacePair]
    exact h.1
  rw [layout, unifyPairs_append h, joinContinued_append hlast, breakEscapes_append]
  rfl

/-! ## Contents and numbers -/

lemma contents_append {front : String} (h : IsClosed front.toList) (behind : String) :
    contents (front ++ "\n" ++ behind) = contents front ++ contents behind := by
  have htext : (front ++ "\n" ++ behind).toList = front.toList ++ '\n' :: behind.toList := by
    simp
  rw [contents, htext, layout_append h, Text.lines_append, List.map_append]
  rfl

/-- The line as it is read from a source with so many lines before it. -/
def Line.shift (count : Nat) (line : Line) : Line :=
  { line with number := line.number + count }

@[simp] lemma Line.shift_content (count : Nat) (line : Line) :
    (line.shift count).content = line.content := rfl

@[simp] lemma Line.shift_category (count : Nat) (line : Line) :
    (line.shift count).category = line.category := rfl

@[simp] lemma Line.shift_processed (count : Nat) (line : Line) :
    (line.shift count).processed = line.processed := rfl

@[simp] lemma length_number (file : String) (start : Int) (contents : List String) :
    (number file start contents).length = contents.length := by
  induction contents generalizing start with
  | nil => rfl
  | cons content rest ih => simp [number, ih]

lemma number_append (file : String) (start : Int) (front behind : List String) :
    number file start (front ++ behind) =
      number file start front ++ number file (start + front.length) behind := by
  induction front generalizing start with
  | nil => simp [number]
  | cons content rest ih =>
    simp only [List.cons_append, number, ih, List.length_cons]
    rw [show start + 1 + (rest.length : Int) = start + ((rest.length + 1 : Nat) : Int) by
      push_cast; omega]

lemma number_add (file : String) (start : Int) (count : Nat) (contents : List String) :
    number file (start + count) contents = (number file start contents).map (Line.shift count) := by
  induction contents generalizing start with
  | nil => rfl
  | cons content rest ih =>
    have hnext : start + (count : Int) + 1 = start + 1 + count := by omega
    simp only [number, hnext, ih, List.map_cons]
    rfl

lemma length_read (text file : String) : (read text file).length = (contents text).length :=
  length_number file 1 (contents text)

/-- **The seam of two readings.** The lines of the second source come behind those of the first and
are numbered on. -/
lemma read_append {front : String} (h : IsClosed front.toList) (behind file : String) :
    read (front ++ "\n" ++ behind) file =
      read front file ++ (read behind file).map (Line.shift (read front file).length) := by
  rw [read, contents_append h, number_append, number_add, length_read]
  rfl

/-! ## Directives -/

/-- What a list of directives leaves of given definitions. -/
def applyAll (record : Definitions) (directives : List (Int × Directive)) : Definitions :=
  directives.foldl (fun record directive => record.apply directive.2) record

lemma applyAll_append (record : Definitions) (front behind : List (Int × Directive)) :
    applyAll record (front ++ behind) = applyAll (applyAll record front) behind :=
  List.foldl_append

/-- The numbers of the lines are of no account to the definitions. -/
lemma applyAll_directives_shift (record : Definitions) (count : Nat) (lines : List Line) :
    applyAll record (directives (lines.map (Line.shift count))) =
      applyAll record (directives lines) := by
  induction lines generalizing record with
  | nil => rfl
  | cons line rest ih =>
    simp only [directives, List.map_cons, List.filterMap_cons, Line.shift_content]
    cases directive? line.content.toList with
    | none => exact ih record
    | some directive => exact ih (record.apply directive)

lemma definitions_append {front : String} (h : IsClosed front.toList) (behind file : String) :
    definitions (read (front ++ "\n" ++ behind) file) =
      applyAll (definitions (read front file)) (directives (read behind file)) := by
  have hdirectives : ∀ ls : List Line, definitions ls = applyAll .empty (directives ls) :=
    fun ls => rfl
  rw [read_append h, hdirectives, directives, List.filterMap_append, applyAll_append]
  exact applyAll_directives_shift _ _ _

end Claw.Source
