import Claw.Source.Comment
import Claw.Source.Layout
import Mathlib.Data.List.Infix
import Mathlib.Tactic.Common

/-!
# Replacing pairs of characters

The three passes that settle the layout of a source, and the one that drops the escapes of
semicolons, look for two adjacent characters and put something in their place, from left to right
and without looking at their own output.  `replacePair` is that pass with the pair and the
replacement as parameters, and `unifyPairs_eq`, `joinContinued_eq`, `breakEscapes_eq` and
`unescape_eq` say which pass is which.

What the passes have in common is then proved once:

* `replacePair_append`: a text can be cut anywhere but between the two characters of a pair, and the
  parts be treated on their own;
* `replacePair_eq_self`: a text without the pair stays as it is;
* `getLast?_replacePair`: a replacement by the second character alone keeps the last character;
* `not_pair_infix_replacePair`: a replacement by a character of no pair leaves none, and
  `pair_infix_of_replacePair`: one by the second character makes no pair of another kind.

Consumers: `Claw/Proofs/Source/Seam.lean` for the seam between two sources,
`Claw/Proofs/Program/Rendering.lean` for texts that no pass changes, and
`Claw/Proofs/Recording.lean` for what the passes leave behind.
-/

namespace Claw.Text

/-- The text with `out` in place of every `a` that is directly followed by `b`, together with that
`b`. -/
def replacePair (a b : Char) (out : List Char) : List Char → List Char
  | [] => []
  | [c] => [c]
  | c :: d :: cs =>
    if c = a ∧ d = b then out ++ replacePair a b out cs else c :: replacePair a b out (d :: cs)

variable {a b : Char} {out : List Char}

lemma replacePair_pair (cs : List Char) :
    replacePair a b out (a :: b :: cs) = out ++ replacePair a b out cs := by
  rw [replacePair, if_pos ⟨rfl, rfl⟩]

lemma replacePair_cons {c : Char} {cs : List Char} (h : c ≠ a ∨ cs.head? ≠ some b) :
    replacePair a b out (c :: cs) = c :: replacePair a b out cs := by
  cases cs with
  | nil => rfl
  | cons d cs =>
    rw [replacePair, if_neg]
    rintro ⟨rfl, rfl⟩
    simp at h

/-- **Cutting.** Where no pair is cut apart, the parts of a text are treated on their own. -/
lemma replacePair_append {cs ds : List Char} (h : cs.getLast? ≠ some a ∨ ds.head? ≠ some b) :
    replacePair a b out (cs ++ ds) = replacePair a b out cs ++ replacePair a b out ds := by
  -- the recursion takes one character or two, so the induction is along the function
  induction cs using replacePair.induct a b with
  | case1 => rfl
  | case2 c =>
    have hc : c ≠ a ∨ ds.head? ≠ some b := by simpa using h
    rw [List.singleton_append, replacePair_cons hc]
    rfl
  | case3 c d cs hpair ih =>
    obtain ⟨rfl, rfl⟩ := hpair
    rw [List.cons_append, List.cons_append, replacePair_pair, replacePair_pair, List.append_assoc]
    cases cs with
    | nil => rfl
    | cons e cs => rw [ih (by simpa using h)]
  | case4 c d cs hpair ih =>
    have hhead : c ≠ a ∨ (d :: cs).head? ≠ some b := by
      simp only [List.head?_cons, ne_eq, Option.some.injEq]
      exact not_and_or.mp hpair
    have hrest := ih (by simpa using h)
    rw [List.cons_append, replacePair_cons (by simpa using hhead), replacePair_cons hhead, hrest]
    rfl

lemma pair_infix_cons {c : Char} {cs : List Char} :
    [a, b] <:+: c :: cs ↔ c = a ∧ cs.head? = some b ∨ [a, b] <:+: cs := by
  rw [List.infix_cons_iff, List.cons_prefix_cons, eq_comm]
  cases cs with
  | nil => simp
  | cons d cs => simp [eq_comm]

/-- A character that ends no pair adds none at the end of a text. -/
lemma pair_infix_of_concat {c : Char} {cs : List Char} (hc : c ≠ b) (h : [a, b] <:+: cs ++ [c]) :
    [a, b] <:+: cs := by
  induction cs with
  | nil => simp [pair_infix_cons] at h
  | cons d cs ih =>
    rw [List.cons_append, pair_infix_cons] at h
    rcases h with ⟨rfl, hhead⟩ | h
    · rw [pair_infix_cons]
      cases cs with
      | nil => simp [hc] at hhead
      | cons e cs => exact .inl ⟨rfl, hhead⟩
    · exact List.infix_cons (ih h)

/-- A text without the pair stays as it is. -/
lemma replacePair_eq_self {cs : List Char} (h : ¬[a, b] <:+: cs) :
    replacePair a b out cs = cs := by
  induction cs with
  | nil => rfl
  | cons c cs ih =>
    obtain ⟨hhead, hrest⟩ := not_or.mp (pair_infix_cons.not.mp h)
    rw [replacePair_cons (not_and_or.mp hhead), ih hrest]

lemma getLast?_replacePair (cs : List Char) : (replacePair a b [b] cs).getLast? = cs.getLast? := by
  induction cs using replacePair.induct a b with
  | case1 => rfl
  | case2 c => rfl
  | case3 c d cs hpair ih =>
    obtain ⟨rfl, rfl⟩ := hpair
    rw [replacePair_pair, List.singleton_append]
    simp only [List.getLast?_cons, ih, Option.getD_some]
  | case4 c d cs hpair ih =>
    rw [replacePair, if_neg hpair, List.getLast?_cons_cons, List.getLast?_cons, ih,
      List.getLast?_cons, Option.getD_some]

lemma replacePair_sublist (cs : List Char) : (replacePair a b [b] cs).Sublist cs := by
  induction cs using replacePair.induct a b with
  | case1 => exact .refl _
  | case2 c => exact .refl _
  | case3 c d cs hpair ih =>
    obtain ⟨rfl, rfl⟩ := hpair
    rw [replacePair_pair, List.singleton_append]
    exact (ih.cons_cons _).cons _
  | case4 c d cs hpair ih =>
    rw [replacePair, if_neg hpair]
    exact ih.cons_cons _

/-- A character at the head of the result that the pass did not put there was there before. -/
lemma head?_of_replacePair {c d : Char} {cs : List Char} (hc : c ≠ d)
    (h : (replacePair a b [d] cs).head? = some c) : cs.head? = some c := by
  cases cs with
  | nil => exact h
  | cons e cs =>
    by_cases hpair : e = a ∧ cs.head? = some b
    · obtain ⟨rfl, hhead⟩ := hpair
      obtain ⟨rest, rfl⟩ := List.head?_eq_some_iff.mp hhead
      rw [replacePair_pair, List.singleton_append, List.head?_cons] at h
      exact absurd (Option.some.inj h).symm hc
    · rwa [replacePair_cons (not_and_or.mp hpair), List.head?_cons] at h

/-- No pair is left when every one makes way for a character that is of none. -/
lemma not_pair_infix_replacePair {d : Char} (ha : d ≠ a) (hb : d ≠ b) (cs : List Char) :
    ¬[a, b] <:+: replacePair a b [d] cs := by
  induction cs using replacePair.induct a b with
  | case1 => simp [replacePair]
  | case2 c => simp [replacePair, pair_infix_cons]
  | case3 c e cs hpair ih =>
    obtain ⟨rfl, rfl⟩ := hpair
    rw [replacePair_pair, List.singleton_append, pair_infix_cons]
    exact not_or.mpr ⟨fun h => ha h.1, ih⟩
  | case4 c e cs hpair ih =>
    rw [replacePair, if_neg hpair, pair_infix_cons]
    refine not_or.mpr ⟨fun ⟨hc, hhead⟩ => hpair ⟨hc, ?_⟩, ih⟩
    exact Option.some.inj (head?_of_replacePair hb.symm hhead)

/-- When every pair makes way for its second character, which ends no pair of another kind, no new
pair of that kind comes about. -/
lemma pair_infix_of_replacePair {c d : Char} (hd : d ≠ b) {cs : List Char}
    (h : [c, d] <:+: replacePair a b [b] cs) : [c, d] <:+: cs := by
  induction cs using replacePair.induct a b with
  | case1 => exact h
  | case2 e => exact h
  | case3 e f cs hpair ih =>
    obtain ⟨rfl, rfl⟩ := hpair
    rw [replacePair_pair, List.singleton_append, pair_infix_cons] at h
    refine List.infix_cons (pair_infix_cons.mpr ?_)
    exact h.imp (fun ⟨hc, hhead⟩ => ⟨hc, head?_of_replacePair hd hhead⟩) ih
  | case4 e f cs hpair ih =>
    rw [replacePair, if_neg hpair, pair_infix_cons] at h
    exact pair_infix_cons.mpr (h.imp (fun ⟨hc, hhead⟩ => ⟨hc, head?_of_replacePair hd hhead⟩) ih)

/-! ## The passes -/

/-- The four passes have the same three equations, so their proofs differ in the pair alone. -/
lemma eq_replacePair {pass : List Char → List Char} (hnil : pass [] = [])
    (hpair : ∀ cs, pass (a :: b :: cs) = out ++ pass cs)
    (hcons : ∀ c cs, (c ≠ a ∨ cs.head? ≠ some b) → pass (c :: cs) = c :: pass cs) :
    pass = replacePair a b out := by
  funext cs
  induction cs using replacePair.induct a b with
  | case1 => exact hnil
  | case2 c => rw [hcons c [] (by simp), hnil, replacePair]
  | case3 c d cs hcd ih =>
    obtain ⟨rfl, rfl⟩ := hcd
    rw [hpair, replacePair_pair, ih]
  | case4 c d cs hcd ih =>
    have hhead : c ≠ a ∨ (d :: cs).head? ≠ some b := by
      simp only [List.head?_cons, ne_eq, Option.some.injEq]
      exact not_and_or.mp hcd
    rw [hcons c _ hhead, replacePair_cons hhead, ih]

end Claw.Text

namespace Claw.Source

open Text (replacePair eq_replacePair)

lemma unifyPairs_eq : unifyPairs = replacePair '\r' '\n' ['\n'] := by
  refine eq_replacePair rfl (fun cs => rfl) fun c cs h => ?_
  rw [unifyPairs]
  rintro ds rfl rfl
  simp at h

lemma joinContinued_eq : joinContinued = replacePair '\\' '\n' [] := by
  refine eq_replacePair rfl (fun cs => rfl) fun c cs h => ?_
  rw [joinContinued]
  rintro ds rfl rfl
  simp at h

lemma breakEscapes_eq : breakEscapes = replacePair '\\' 'n' ['\n'] := by
  refine eq_replacePair rfl (fun cs => rfl) fun c cs h => ?_
  rw [breakEscapes]
  rintro ds rfl rfl
  simp at h

lemma unescape_eq : unescape = replacePair '\\' ';' [';'] := by
  refine eq_replacePair rfl (fun cs => rfl) fun c cs h => ?_
  rw [unescape]
  rintro ds rfl rfl
  simp at h

end Claw.Source
