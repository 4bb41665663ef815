import Mathlib

/-!
# Words in either case

A word counts in either case if its letters are compared after all of them were put into one case.
Only two characters have a letter as their capital, the letter and its small form, and likewise for
small letters; so a word has finitely many spellings.

* `eq_or_eq_toLower` and `eq_or_eq_toUpper`: the characters behind a letter;
* `spellings`: the ways to write a word of capitals, and `mem_spellings`, that there are no others.

Consumed by `Claw/Proofs/Pattern/Data.lean` and `Claw/Proofs/Pattern/Directive.lean`.
-/

namespace Claw.Text

lemma eq_or_eq_toLower {c capital : Char} (h : c.toUpper = capital) :
    c = capital ∨ c = capital.toLower := by
  subst h
  by_cases hsmall : c.isLower = true
  · right
    rw [Char.toLower_toUpper_eq_toLower,
      Char.toLower_eq_of_not_isUpper (Char.not_isUpper_of_isLower hsmall)]
  · exact .inl (Char.toUpper_eq_of_not_isLower hsmall).symm

lemma eq_or_eq_toUpper {c small : Char} (h : c.toLower = small) :
    c = small ∨ c = small.toUpper := by
  subst h
  by_cases hcapital : c.isUpper = true
  · right
    rw [Char.toUpper_toLower_eq_toUpper,
      Char.toUpper_eq_of_not_isLower (Char.not_isLower_of_isUpper hcapital)]
  · exact .inl (Char.toLower_eq_of_not_isUpper hcapital).symm

/-- The texts that are a word of capitals, in any case. -/
def spellings (word : List Char) : List (List Char) :=
  (word.map fun capital => [capital, capital.toLower]).sections

lemma mem_spellings {text word : List Char} (h : text.map Char.toUpper = word) :
    text ∈ spellings word := by
  subst h
  rw [spellings, List.mem_sections, List.map_map, List.forall₂_map_right_iff, List.forall₂_same]
  intro c _
  simpa using eq_or_eq_toLower rfl

end Claw.Text
