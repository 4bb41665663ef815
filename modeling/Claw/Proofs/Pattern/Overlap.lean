import Claw.Proofs.Pattern.Data
import Claw.Proofs.Pattern.Directive
import Claw.Proofs.Program.Recognition
import Claw.Source.Category
import Mathlib.Data.List.Permutation

/-!
# Where the patterns overlap

The category of a line is that of the first pattern that the line matches, so the order of the
patterns matters wherever two of them match the same line.  There is one such place: the value of a
definition, or what follows a name that is forgotten, may hold a data directive.

* `Pattern.isMatched`: whether a line matches a pattern as an expression, and
  `Pattern.accepts_eq_isMatched`, that the recognisers say the same;
* `Pattern.eq_or_overlap`: two patterns that match the same line are a directive about a name and the
  data directive;
* `idxOf_le_of_find?`: the first pattern that matches is in front of all others that do, and
  `find?_eq_some_iff`: which one it is.

`patterns_overlap` puts this together.
-/

namespace Claw.Source

open Text (isWord isGap)

namespace Pattern

/-- Whether the content of a line matches the pattern as an expression: a data directive anywhere,
and everything else at the head. -/
def isMatched : Pattern → List Char → Bool
  | .define, cs => (Expression.define.first? [] cs).isSome
  | .undefine, cs => (Expression.undefine.first? [] cs).isSome
  | .data, cs => (Expression.data.search? cs).isSome
  | .instruction, cs => (Expression.instruction.first? [] cs).isSome
  | .label, cs => (Expression.label.first? [] cs).isSome

/-- **The recognisers match what the patterns match.** -/
lemma accepts_eq_isMatched (pattern : Pattern) (cs : List Char) :
    pattern.accepts cs = pattern.isMatched cs := by
  cases pattern with
  | define => exact Expression.isSome_first?_define.symm
  | undefine => exact Expression.isSome_first?_undefine.symm
  | data =>
    have hfound := congrArg Option.isSome (Expression.map_search?_data cs)
    rwa [Option.isSome_map, Option.isSome_map, eq_comm] at hfound
  | instruction =>
    have hfound := congrArg Option.isSome (Expression.captures?_instruction cs)
    rwa [Expression.captures?, Option.isSome_map, Option.isSome_map, eq_comm] at hfound
  | label => exact Expression.isSome_first?_label.symm

end Pattern

/-! ## Pairs of patterns -/

/-- Whether the pattern is one of the directives about names. -/
def Pattern.isDirective (pattern : Pattern) : Bool :=
  pattern = .define || pattern = .undefine

/-- A name is not recorded and forgotten by the same line. -/
lemma undefineDirective?_of_define {cs : List Char} (h : (defineDirective? cs).isSome = true) :
    (undefineDirective? cs).isSome = false := by
  obtain ⟨keyword, behind, hkeyword, rfl, -⟩ := isSome_defineDirective?_iff.mp h
  by_contra hundefine
  obtain ⟨keyword', ending, behind', hkeyword', -, heq, -⟩ :=
    isSome_undefineDirective?_iff.mp (eq_true_of_ne_false hundefine)
  have hlower := congrArg (List.map Char.toLower) heq
  rw [List.map_append, List.map_append, hkeyword, hkeyword'] at hlower
  exact absurd (congrArg (fun lower => lower[1]?) hlower) (by simp)

lemma exists_isWord_head {cs : List Char}
    (h : (instructionStatement? cs).isSome = true ∨ (labelStatement? cs).isSome = true) :
    ∃ c rest, cs = c :: rest ∧ isWord c = true := by
  rcases h with h | h
  · obtain ⟨statement, hstatement⟩ := Option.isSome_iff_exists.mp h
    cases cs with
    | nil => cases hstatement
    | cons c rest =>
      refine ⟨c, rest, rfl, ?_⟩
      by_contra hc
      simp [instructionStatement?, List.takeWhile_cons_of_neg hc] at hstatement
  · obtain ⟨c, rest, hc, -, rfl⟩ := isSome_labelStatement?_iff.mp h
    exact ⟨c, _, rfl, hc⟩

lemma not_mem_of_not_mem_dropWhile {p : Char → Bool} {c : Char} {cs : List Char} (hc : p c = false)
    (h : c ∉ cs.dropWhile p) : c ∉ cs := by
  intro hmem
  rw [← List.takeWhile_append_dropWhile (p := p) (l := cs)] at hmem
  rcases List.mem_append.mp hmem with hrun | hrest
  · cases hc.symm.trans (List.mem_takeWhile_imp hrun)
  · exact h hrest

lemma dot_not_mem_of_atEnd {cs : List Char} (h : atEnd cs = true) : '.' ∉ cs := by
  rw [atEnd, Bool.or_eq_true, beq_iff_eq, beq_iff_eq] at h
  rcases h with rfl | rfl <;> decide

lemma dot_not_mem_of_selectors? {cs : List Char} (h : (selectors? cs).isSome = true) : '.' ∉ cs := by
  unfold selectors? at h
  split at h
  · simp
  · next c cs =>
    split at h
    · next hletter =>
      dsimp only at h
      split at h
      · next hend =>
        have hdot : '.' ≠ c := by
          rintro rfl
          cases hletter
        have hrest := not_mem_of_not_mem_dropWhile (p := isSeparator) rfl
          (not_mem_of_not_mem_dropWhile (p := isStackLetter) rfl (dot_not_mem_of_atEnd hend))
        exact List.not_mem_cons_of_ne_of_not_mem hdot hrest
      · contradiction
    · split at h
      · next hend => exact dot_not_mem_of_atEnd hend
      · contradiction

lemma dot_not_mem {cs : List Char}
    (h : (instructionStatement? cs).isSome = true ∨ (labelStatement? cs).isSome = true) :
    '.' ∉ cs := by
  rcases h with h | h
  · rw [instructionStatement?] at h
    split at h
    · contradiction
    · rw [Option.isSome_map] at h
      have hrest := dot_not_mem_of_selectors? h
      exact not_mem_of_not_mem_dropWhile (by decide) (not_mem_of_not_mem_dropWhile rfl hrest)
  · obtain ⟨c, rest, hc, hend, rfl⟩ := isSome_labelStatement?_iff.mp h
    have hdot : '.' ≠ c := by
      rintro rfl
      exact absurd hc (by decide)
    exact List.not_mem_cons_of_ne_of_not_mem hdot
      (List.not_mem_cons_of_ne_of_not_mem (by decide) (dot_not_mem_of_atEnd hend))

/-- The colon of a label is no part of an instruction. -/
lemma instructionStatement?_of_label {cs : List Char} (h : (labelStatement? cs).isSome = true) :
    (instructionStatement? cs).isSome = false := by
  obtain ⟨c, rest, hc, -, rfl⟩ := isSome_labelStatement?_iff.mp h
  have hcolon : isWord ':' = false := by decide
  have hseparator : isSeparator ':' = false := rfl
  have hletter : isStackLetter ':' = false := rfl
  simp [instructionStatement?, hc, hcolon, hseparator, selectors?, hletter, atEnd]

/-- **The one overlap.** Two patterns that match the same line are the same, or one of them is a
directive about a name and the other one is the data directive. -/
lemma Pattern.eq_or_overlap {pattern pattern' : Pattern} {cs : List Char}
    (h : pattern.accepts cs = true) (h' : pattern'.accepts cs = true) :
    pattern = pattern' ∨ pattern.isDirective = true ∧ pattern' = .data ∨
      pattern = .data ∧ pattern'.isDirective = true := by
  have hcode : (instructionStatement? cs).isSome = true ∨ (labelStatement? cs).isSome = true →
      defineDirective? cs = none ∧ undefineDirective? cs = none ∧ dataStatement? cs = none := by
    intro hcode
    have hdata := dataStatement?_eq_none (dot_not_mem hcode)
    obtain ⟨c, rest, rfl, hc⟩ := exists_isWord_head hcode
    obtain ⟨hdefine, hundefine⟩ := directives_eq_none rest (toLower_ne_of_isWord hc)
    exact ⟨hdefine, hundefine, hdata⟩
  have hdirective : (defineDirective? cs).isSome = true → (undefineDirective? cs).isSome = false :=
    undefineDirective?_of_define
  have hlabel : (labelStatement? cs).isSome = true → (instructionStatement? cs).isSome = false :=
    instructionStatement?_of_label
  cases pattern <;> cases pattern' <;> simp_all [accepts, isDirective]

/-! ## Orders of patterns -/

variable {order : List Pattern} {cs : List Char}

lemma accepts_of_find? {found : Pattern} (h : order.find? (·.accepts cs) = some found) :
    found.accepts cs = true :=
  List.find?_some (p := fun pattern : Pattern => pattern.accepts cs) h

/-- The first pattern of its kind is in front of all others of this kind. -/
lemma idxOf_le_of_find? {p : Pattern → Bool} {found other : Pattern}
    (h : order.find? p = some found) (hmem : other ∈ order) (hother : p other = true) :
    order.idxOf found ≤ order.idxOf other := by
  induction order with
  | nil => cases hmem
  | cons pattern order ih =>
    by_cases hpattern : p pattern = true
    · rw [List.find?_cons_of_pos hpattern] at h
      obtain rfl := Option.some.inj h
      simp
    · rw [List.find?_cons_of_neg hpattern] at h
      have hne : pattern ≠ other := by
        rintro rfl
        exact hpattern hother
      have hne' : pattern ≠ found := by
        rintro rfl
        exact hpattern (List.find?_some h)
      have hbehind := ih h ((List.mem_cons.mp hmem).resolve_left hne.symm)
      rw [List.idxOf_cons_ne _ hne, List.idxOf_cons_ne _ hne']
      omega

/-- The directives about names are tried before the data directive. -/
def DirectivesFirst (order : List Pattern) : Prop :=
  order.idxOf .define < order.idxOf .data ∧ order.idxOf .undefine < order.idxOf .data

lemma DirectivesFirst.idxOf_lt (h : DirectivesFirst order) {pattern : Pattern}
    (hdirective : pattern.isDirective = true) : order.idxOf pattern < order.idxOf .data := by
  cases pattern with
  | define => exact h.1
  | undefine => exact h.2
  | _ => cases hdirective

lemma mem_of_perm (h : order.Perm Pattern.order) (pattern : Pattern) : pattern ∈ order := by
  rw [h.mem_iff]
  cases pattern <;> decide

/-- **Which pattern comes first** does not depend on the order, as long as the directives about names
are tried before the data directive. -/
lemma find?_eq_some_iff (hperm : order.Perm Pattern.order) (hfirst : DirectivesFirst order)
    {pattern : Pattern} :
    order.find? (·.accepts cs) = some pattern ↔
      pattern.accepts cs = true ∧ (pattern = .data →
        ∀ other : Pattern, other.isDirective = true → other.accepts cs = false) := by
  have hdata : order.find? (·.accepts cs) = some .data →
      ∀ other : Pattern, other.isDirective = true → other.accepts cs = false := by
    intro hfind other hdirective
    by_contra haccepts
    have hle := idxOf_le_of_find? hfind (mem_of_perm hperm other) (eq_true_of_ne_false haccepts)
    have hlt := hfirst.idxOf_lt hdirective
    omega
  constructor
  · intro h
    refine ⟨accepts_of_find? h, ?_⟩
    rintro rfl
    exact hdata h
  · rintro ⟨haccepts, hnone⟩
    obtain ⟨found, hfound⟩ : ∃ found, order.find? (·.accepts cs) = some found := by
      rw [← Option.isSome_iff_exists, List.find?_isSome]
      exact ⟨pattern, mem_of_perm hperm pattern, haccepts⟩
    have hfoundAccepts : found.accepts cs = true := accepts_of_find? hfound
    rcases Pattern.eq_or_overlap hfoundAccepts haccepts with rfl | ⟨hdirective, rfl⟩ |
      ⟨rfl, hdirective⟩
    · exact hfound
    · cases hfoundAccepts.symm.trans (hnone rfl found hdirective)
    · cases haccepts.symm.trans (hdata hfound pattern hdirective)

lemma directivesFirst_order : DirectivesFirst Pattern.order := by
  constructor <;> decide

lemma categoryBy_eq (hperm : order.Perm Pattern.order) (hfirst : DirectivesFirst order)
    (cs : List Char) : categoryBy order cs = categoryBy Pattern.order cs := by
  have hfind : order.find? (·.accepts cs) = Pattern.order.find? (·.accepts cs) := by
    ext pattern
    rw [find?_eq_some_iff hperm hfirst, find?_eq_some_iff (.refl _) directivesFirst_order]
  rw [categoryBy, categoryBy, hfind]

lemma categoryBy_of_find? {found : Pattern} (h : order.find? (·.accepts cs) = some found) :
    categoryBy order cs = found.category := by
  have hempty : cs.isEmpty = false := by
    cases cs with
    | nil =>
      have := accepts_of_find? h
      cases found <;> cases this
    | cons c cs => rfl
  rw [categoryBy, hempty, h]
  rfl

/-- In the overlap, the data directive decides if it is tried first. -/
lemma categoryBy_of_overlap (hperm : order.Perm Pattern.order) {directive : Pattern}
    (hdirective : directive.isDirective = true) (haccepts : directive.accepts cs = true)
    (hdata : Pattern.data.accepts cs = true)
    (hbefore : order.idxOf .data < order.idxOf directive) : categoryBy order cs = .data := by
  obtain ⟨found, hfound⟩ : ∃ found, order.find? (·.accepts cs) = some found := by
    rw [← Option.isSome_iff_exists, List.find?_isSome]
    exact ⟨.data, mem_of_perm hperm .data, hdata⟩
  have hle := idxOf_le_of_find? hfound (mem_of_perm hperm .data) hdata
  have hfoundData : found = .data := by
    rcases Pattern.eq_or_overlap (accepts_of_find? hfound) haccepts with rfl | ⟨-, rfl⟩ | ⟨rfl, -⟩
    · omega
    · cases hdirective
    · rfl
  rw [categoryBy_of_find? hfound, hfoundData]
  rfl

/-- An order that gives the categories of this library in the overlap tries the directive first. -/
lemma idxOf_lt_of_categoryBy_eq (hsame : categoryBy order cs = categoryBy Pattern.order cs)
    (hperm : order.Perm Pattern.order) {directive : Pattern}
    (hdirective : directive.isDirective = true) (haccepts : directive.accepts cs = true)
    (hdata : Pattern.data.accepts cs = true) : order.idxOf directive < order.idxOf .data := by
  have hne : directive ≠ .data := by
    rintro rfl
    cases hdirective
  have hne' : order.idxOf directive ≠ order.idxOf .data := fun heq =>
    hne ((List.idxOf_inj (mem_of_perm hperm directive)).mp heq)
  have hunknown : categoryBy Pattern.order cs = .unknown := by
    rw [categoryBy_of_find? ((find?_eq_some_iff (.refl _) directivesFirst_order).mpr
      ⟨haccepts, fun heq => absurd heq hne⟩)]
    cases directive <;> first | rfl | cases hdirective
  by_contra hnot
  rw [categoryBy_of_overlap hperm hdirective haccepts hdata (by omega), hunknown] at hsame
  contradiction

/-- A directive about a name that holds a data directive. -/
def overlapping (keyword : String) : List Char :=
  (keyword ++ " a .DB8(1)").toList

/-- **The patterns overlap in one place only.** What the recognisers accept is what the patterns
match.  If two patterns match the same text, one of them is that of a directive about a name and the
other one that of data directives.  So the order of the patterns does not matter, just as long as
both directives about names are tried before data directives; and a line is empty just if its
content is. -/
theorem patterns_overlap :
    (∀ (pattern : Pattern) (cs : List Char), pattern.accepts cs = pattern.isMatched cs) ∧
    (∀ (pattern pattern' : Pattern) (cs : List Char), pattern.isMatched cs = true →
      pattern'.isMatched cs = true → pattern ≠ pattern' →
        pattern.isDirective = true ∧ pattern' = .data ∨
          pattern = .data ∧ pattern'.isDirective = true) ∧
    (∀ order : List Pattern, order.Perm Pattern.order →
      ((∀ cs, categoryBy order cs = categoryBy Pattern.order cs) ↔ DirectivesFirst order)) ∧
    ∀ content, categoryOf content = .empty ↔ content = "" := by
  refine ⟨Pattern.accepts_eq_isMatched, ?_, ?_, categoryOf_eq_empty_iff⟩
  · intro pattern pattern' cs h h' hne
    rw [← Pattern.accepts_eq_isMatched] at h h'
    exact (Pattern.eq_or_overlap h h').resolve_left hne
  · intro order hperm
    refine ⟨fun hsame => ⟨?_, ?_⟩, categoryBy_eq hperm⟩
    · exact idxOf_lt_of_categoryBy_eq (hsame (overlapping "#define")) hperm rfl (by decide +kernel)
        (by decide +kernel)
    · exact idxOf_lt_of_categoryBy_eq (hsame (overlapping "#undef")) hperm rfl (by decide +kernel)
        (by decide +kernel)

end Claw.Source
