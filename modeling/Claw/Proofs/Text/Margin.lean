import Claw.Text.Blank
import Claw.Text.Word
import Mathlib.Data.List.TakeWhile
import Mathlib.Tactic.Common

/-!
# Margins and runs of characters

What trimming leaves alone and what it empties, and how a text falls apart into a run of characters
of a class and the rest.

* `trim_eq_nil_iff`: only a text of blanks trims to nothing;
* `trim_eq_self`: a text that neither starts nor ends in a blank has no margins;
* `takeWhile_append_trim`: a text that does not end in a blank loses its leading blanks only;
* `isInfix_trim`: trimming leaves a part of the text, with a blank neither at its head nor at its end
  (`isBlank_of_mem_head?_trim`, `isBlank_of_mem_getLast?_trim`);
* `isBlank_of_isWord`: no blank is a word character;
* `takeWhile_append_eq` and `dropWhile_append_eq`: a run that cannot be longer than it is.

Consumers: `Claw/Proofs/Accounting.lean` for the fields of a value list,
`Claw/Proofs/Program/Rendering.lean` for the lines of a program, `Claw/Proofs/Recording.lean` for the
lines of any source, and the files under `Claw/Proofs/Grammar/` and `Claw/Proofs/Pattern/`.
-/

namespace Claw.Text

lemma trimStart_eq_self {cs : List Char} (h : ∀ c ∈ cs.head?, isBlank c = false) :
    trimStart cs = cs := by
  cases cs with
  | nil => rfl
  | cons c cs =>
    have hc : isBlank c = false := h c rfl
    rw [trimStart, List.dropWhile_cons_of_neg (by simp [hc])]

lemma trimEnd_eq_self {cs : List Char} (h : ∀ c ∈ cs.getLast?, isBlank c = false) :
    trimEnd cs = cs := by
  have hreverse : trimStart cs.reverse = cs.reverse :=
    trimStart_eq_self (by rwa [List.head?_reverse])
  rw [trimEnd, ← trimStart, hreverse, List.reverse_reverse]

lemma trim_eq_self {cs : List Char} (hhead : ∀ c ∈ cs.head?, isBlank c = false)
    (hlast : ∀ c ∈ cs.getLast?, isBlank c = false) : trim cs = cs := by
  rw [trim, trimStart_eq_self hhead, trimEnd_eq_self hlast]

lemma trim_eq_self_of_forall {cs : List Char} (h : ∀ c ∈ cs, isBlank c = false) : trim cs = cs :=
  trim_eq_self (fun c hc => h c (List.mem_of_head? hc)) fun c hc => h c (List.mem_of_getLast? hc)

/-- A trimmed text does not end in a blank. -/
lemma isBlank_of_mem_getLast?_trim {cs : List Char} {c : Char} (h : c ∈ (trim cs).getLast?) :
    isBlank c = false := by
  rw [trim, trimEnd, List.getLast?_reverse] at h
  have := List.head?_dropWhile_not isBlank (trimStart cs).reverse
  rwa [Option.mem_def.mp h] at this

/-- A text without blanks behind it is its leading blanks and what trimming leaves. -/
lemma takeWhile_append_trim {cs : List Char} (h : ∀ c ∈ cs.getLast?, isBlank c = false) :
    cs.takeWhile isBlank ++ trim cs = cs := by
  have hsplit : cs.takeWhile isBlank ++ trimStart cs = cs := List.takeWhile_append_dropWhile
  have hlast : ∀ c ∈ (trimStart cs).getLast?, isBlank c = false := by
    intro c hc
    refine h c ?_
    rw [← hsplit, List.getLast?_append, Option.mem_def.mp hc]
    rfl
  rw [trim, trimEnd_eq_self hlast, hsplit]

lemma trimEnd_eq_nil_iff {cs : List Char} : trimEnd cs = [] ↔ ∀ c ∈ cs, isBlank c = true := by
  rw [trimEnd, List.reverse_eq_nil_iff, List.dropWhile_eq_nil_iff]
  simp only [List.mem_reverse]

lemma isPrefix_trimEnd (cs : List Char) : trimEnd cs <+: cs := by
  rw [← List.reverse_suffix, trimEnd, List.reverse_reverse]
  exact List.dropWhile_suffix _

/-- Trimming only removes, and only at the ends. -/
lemma isInfix_trim (cs : List Char) : trim cs <:+: cs :=
  (isPrefix_trimEnd _).isInfix.trans (List.dropWhile_suffix _).isInfix

lemma mem_of_mem_trim {cs : List Char} {c : Char} (h : c ∈ trim cs) : c ∈ cs :=
  (isInfix_trim cs).subset h

lemma isBlank_of_mem_head?_trim {cs : List Char} {c : Char} (h : c ∈ (trim cs).head?) :
    isBlank c = false := by
  obtain ⟨behind, hbehind⟩ := isPrefix_trimEnd (trimStart cs)
  have hstart : (trimStart cs).head? = some c := by
    rw [← hbehind, ← trim, List.head?_append, Option.mem_def.mp h, Option.some_or]
  have hblank := List.head?_dropWhile_not isBlank cs
  rwa [← trimStart, hstart] at hblank

lemma trim_cons {c : Char} (hc : isBlank c = true) (cs : List Char) : trim (c :: cs) = trim cs := by
  rw [trim, trimStart, List.dropWhile_cons_of_pos hc, trim, trimStart]

lemma trim_eq_nil_iff {cs : List Char} : trim cs = [] ↔ ∀ c ∈ cs, isBlank c = true := by
  induction cs with
  | nil => simp [trim, trimStart, trimEnd]
  | cons c cs ih =>
    by_cases hc : isBlank c = true
    · rw [trim_cons hc, ih, List.forall_mem_cons]
      exact ⟨fun h => ⟨hc, h⟩, fun h => h.2⟩
    · have hstart : trimStart (c :: cs) = c :: cs := List.dropWhile_cons_of_neg hc
      rw [trim, hstart, trimEnd_eq_nil_iff]

/-- The blank code points. -/
def blankCodes : List Nat :=
  List.range' 0x9 5 ++ List.range' 0x1C 5 ++ List.range' 0x2000 11 ++
    [0x85, 0xA0, 0x1680, 0x2028, 0x2029, 0x202F, 0x205F, 0x3000]

lemma toNat_mem_blankCodes {c : Char} (h : isBlank c = true) : c.toNat ∈ blankCodes := by
  simp only [isBlank, Bool.or_eq_true, Bool.and_eq_true, decide_eq_true_eq, beq_iff_eq] at h
  simp only [blankCodes, List.mem_append, List.mem_range'_1, List.mem_cons, List.not_mem_nil,
    or_false]
  omega

lemma isBlank_of_isWord {c : Char} (h : isWord c = true) : isBlank c = false := by
  by_contra hblank
  have hmem := toNat_mem_blankCodes (eq_true_of_ne_false hblank)
  have hall : ∀ n ∈ blankCodes, (if n < 0x80 then
      (0x30 ≤ n && n ≤ 0x39) || (0x41 ≤ n && n ≤ 0x5A) || n == 0x5F || (0x61 ≤ n && n ≤ 0x7A)
    else wordRanges.any fun range => range.1 ≤ n && n ≤ range.2) = false := by
    decide +kernel
  exact absurd (h.symm.trans (hall c.toNat hmem)) (by decide)

variable {p : Char → Bool} {run rest : List Char}

/-- A run of characters of a class, before a rest that does not start in the class. -/
lemma takeWhile_append_eq (hrun : ∀ c ∈ run, p c = true) (hrest : ∀ c ∈ rest.head?, p c = false) :
    (run ++ rest).takeWhile p = run := by
  rw [List.takeWhile_append_of_pos hrun]
  cases rest with
  | nil => simp
  | cons c rest =>
    have hc : p c = false := hrest c rfl
    rw [List.takeWhile_cons_of_neg (by simp [hc]), List.append_nil]

/-- The rest behind such a run. -/
lemma dropWhile_append_eq (hrun : ∀ c ∈ run, p c = true) (hrest : ∀ c ∈ rest.head?, p c = false) :
    (run ++ rest).dropWhile p = rest := by
  rw [List.dropWhile_append_of_pos hrun]
  cases rest with
  | nil => rfl
  | cons c rest =>
    have hc : p c = false := hrest c rfl
    rw [List.dropWhile_cons_of_neg (by simp [hc])]

end Claw.Text
