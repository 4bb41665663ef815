import Claw.Text.Lines
import Mathlib.Data.List.Infix
import Mathlib.Tactic.Common

/-!
# Pieces and lines

A text is cut into pieces at every occurrence of a separator; lines are the pieces between line
breaks.

* `pieces_append`, `pieces_eq_singleton`: where a text is cut, and where it is not;
* `length_pieces`: how many pieces there are;
* `isInfix_of_mem_pieces`, `not_mem_of_mem_pieces`: a piece is a part of the text, without the
  separator;
* `unlines_lines`: the lines put together again are the text;
* `IsUnbroken` and `rows_joinLines`: rows without a line break in them, joined to a text, are the rows
  of this text.

Consumers: `Claw/Proofs/Source/Seam.lean` for the seam between two sources,
`Claw/Proofs/Comment.lean` and `Claw/Proofs/Recording.lean` for the lines of one,
`Claw/Proofs/Token/Fields.lean` for value lists, and `Claw/Proofs/Rows.lean` for listings and reports.
-/

namespace Claw.Text

variable {separator : Char} {cs piece : List Char}

/-! ## Pieces -/

lemma pieces_ne_nil (separator : Char) (cs : List Char) : pieces separator cs ≠ [] := by
  cases cs with
  | nil => simp [pieces]
  | cons c cs =>
    rw [pieces]
    split
    · simp
    · simpa using pieces_ne_nil separator cs

/-- The first piece goes on with the first character of the text, unless that is the separator. -/
lemma exists_pieces_cons (separator : Char) (cs : List Char) :
    ∃ first rest, pieces separator cs = first :: rest ∧
      ∀ c, c ≠ separator → pieces separator (c :: cs) = (c :: first) :: rest := by
  obtain ⟨first, rest, hpieces⟩ := List.exists_cons_of_ne_nil (pieces_ne_nil separator cs)
  refine ⟨first, rest, hpieces, fun c hc => ?_⟩
  rw [pieces, if_neg hc, hpieces, List.modifyHead_cons]

/-- A separator between two texts separates their pieces. -/
lemma pieces_append (separator : Char) (cs ds : List Char) :
    pieces separator (cs ++ separator :: ds) = pieces separator cs ++ pieces separator ds := by
  induction cs with
  | nil => simp [pieces]
  | cons c cs ih =>
    simp only [List.cons_append, pieces, ih]
    split
    · rfl
    · obtain ⟨piece, rest, hpieces⟩ := List.exists_cons_of_ne_nil (pieces_ne_nil separator cs)
      simp [hpieces]

lemma pieces_eq_singleton (h : separator ∉ cs) : pieces separator cs = [cs] := by
  induction cs with
  | nil => rfl
  | cons c cs ih =>
    obtain ⟨hc, hcs⟩ := not_or.mp (List.mem_cons.not.mp h)
    rw [pieces, if_neg (Ne.symm hc), ih hcs, List.modifyHead]

lemma length_pieces (separator : Char) (cs : List Char) :
    (pieces separator cs).length = cs.count separator + 1 := by
  induction cs with
  | nil => rfl
  | cons c cs ih =>
    rw [pieces, List.count_cons]
    split
    · next hc => simp [hc, ih]
    · next hc => simp [hc, ih]

lemma prefix_and_infix_pieces (separator : Char) (cs : List Char) :
    (∀ piece ∈ (pieces separator cs).head?, piece <+: cs) ∧
      ∀ piece ∈ pieces separator cs, piece <:+: cs := by
  induction cs with
  | nil => simp [pieces]
  | cons c cs ih =>
    obtain ⟨first, rest, hpieces, hcons⟩ := exists_pieces_cons separator cs
    rw [hpieces] at ih
    obtain ⟨hhead, hparts⟩ := ih
    by_cases hc : c = separator
    · subst hc
      rw [pieces, if_pos rfl, hpieces]
      refine ⟨by simp, List.forall_mem_cons.mpr ⟨List.nil_infix, fun piece hpiece => ?_⟩⟩
      exact List.infix_cons (hparts piece hpiece)
    · have hfirst : c :: first <+: c :: cs := List.cons_prefix_cons.mpr ⟨rfl, hhead first rfl⟩
      rw [hcons c hc]
      refine ⟨?_, List.forall_mem_cons.mpr ⟨hfirst.isInfix, fun piece hpiece => ?_⟩⟩
      · rintro _ ⟨rfl⟩
        exact hfirst
      · exact List.infix_cons (hparts piece (List.mem_cons_of_mem _ hpiece))

lemma isInfix_of_mem_pieces (h : piece ∈ pieces separator cs) : piece <:+: cs :=
  (prefix_and_infix_pieces separator cs).2 piece h

lemma mem_of_mem_pieces {c : Char} (hpiece : piece ∈ pieces separator cs) (hc : c ∈ piece) :
    c ∈ cs :=
  (isInfix_of_mem_pieces hpiece).subset hc

/-- There is no separator in a piece. -/
lemma not_mem_of_mem_pieces (h : piece ∈ pieces separator cs) : separator ∉ piece := by
  induction cs generalizing piece with
  | nil => simp_all [pieces]
  | cons c cs ih =>
    obtain ⟨first, rest, hpieces, hcons⟩ := exists_pieces_cons separator cs
    by_cases hc : c = separator
    · subst hc
      rw [pieces, if_pos rfl] at h
      rcases List.mem_cons.mp h with rfl | hrest
      · simp
      · exact ih hrest
    · rw [hcons c hc] at h
      rcases List.mem_cons.mp h with rfl | hrest
      · have hfirst : separator ∉ first := ih (by simp [hpieces])
        exact List.not_mem_cons_of_ne_of_not_mem (Ne.symm hc) hfirst
      · exact ih (by simp [hpieces, hrest])

/-! ## Lines -/

lemma lines_append (cs ds : List Char) : lines (cs ++ '\n' :: ds) = lines cs ++ lines ds :=
  pieces_append '\n' cs ds

lemma unlines_cons {line : List Char} {rest : List (List Char)} (h : rest ≠ []) :
    unlines (line :: rest) = line ++ '\n' :: unlines rest := by
  cases rest with
  | nil => exact absurd rfl h
  | cons second rest => rfl

/-- **The lines of a text** put together again are the text. -/
lemma unlines_lines (cs : List Char) : unlines (lines cs) = cs := by
  induction cs with
  | nil => rfl
  | cons c cs ih =>
    obtain ⟨first, rest, hpieces, hcons⟩ := exists_pieces_cons '\n' cs
    rw [lines] at ih ⊢
    by_cases hc : c = '\n'
    · subst hc
      rw [pieces, if_pos rfl, unlines_cons (pieces_ne_nil _ _), ih, List.nil_append]
    · rw [hcons c hc]
      rw [hpieces] at ih
      cases rest with
      | nil => exact congrArg (c :: ·) ih
      | cons second rest => exact congrArg (c :: ·) ih

/-! ## Rows -/

/-- A text without a line break. -/
def IsUnbroken (s : String) : Prop :=
  '\n' ∉ s.toList

instance (s : String) : Decidable (IsUnbroken s) :=
  inferInstanceAs (Decidable (_ ∉ _))

/-- The lines of a text, as texts. -/
def rows (s : String) : List String :=
  (lines s.toList).map String.ofList

lemma isUnbroken_append {s t : String} :
    IsUnbroken (s ++ t) ↔ IsUnbroken s ∧ IsUnbroken t := by
  rw [IsUnbroken, String.toList_append, List.mem_append, not_or]
  rfl

lemma isUnbroken_ofList {cs : List Char} : IsUnbroken (String.ofList cs) ↔ '\n' ∉ cs := by
  rw [IsUnbroken, String.toList_ofList]

lemma IsUnbroken.of_subset {s t : String} (h : IsUnbroken t) (hsubset : s.toList ⊆ t.toList) :
    IsUnbroken s :=
  fun hmem => h (hsubset hmem)

lemma rows_of_isUnbroken {row : String} (h : IsUnbroken row) : rows row = [row] := by
  rw [rows, lines, pieces_eq_singleton h, List.map_singleton, String.ofList_toList]

/-- **Rows** that are joined come apart again as they were. -/
lemma rows_joinLines {parts : List String} (hne : parts ≠ [])
    (h : ∀ row ∈ parts, IsUnbroken row) : rows (joinLines parts) = parts := by
  induction parts with
  | nil => exact absurd rfl hne
  | cons row rest ih =>
    obtain ⟨hrow, hrest⟩ := List.forall_mem_cons.mp h
    cases rest with
    | nil => exact rows_of_isUnbroken hrow
    | cons second rest =>
      have hjoined : (joinLines (row :: second :: rest)).toList =
          row.toList ++ '\n' :: (joinLines (second :: rest)).toList := by
        simp [joinLines]
      rw [rows, hjoined, lines_append, List.map_append, ← rows, ← rows, rows_of_isUnbroken hrow,
        ih (List.cons_ne_nil _ _) hrest]
      rfl

end Claw.Text
