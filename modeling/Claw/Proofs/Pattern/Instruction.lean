import Claw.Proofs.Pattern.Expression
import Claw.Proofs.Source.Reading
import Claw.Proofs.Text.Margin
import Mathlib.Data.List.DropRight

/-!
# The pattern of instructions

`Expression.instruction` is the pattern of a line that consists of an instruction.  It is ambiguous
in several ways: the letters of stacks are word characters, so that a mnemonic could leave some of
them to the selectors; separators can be in front of the input or of the output; and a letter can be
the input or a part of the output.

`captures?_instruction` says that all the same the groups of the pattern are the parts that
`instructionStatement?` finds without trying anything twice.

* `first?_outputLetters`, `first?_separated_outputLetters`: the output has all letters up to the end;
* `first?_input_cons`, `first?_input_of_not`, `first?_selectors`: a letter behind the separators is
  the input, whatever follows;
* `isSome_selectors?_of_word`: what a mnemonic could give back is of no use to the selectors.

Consumed by `Claw/Proofs/Grammar/Instruction.lean` and `Claw/Proofs/Pattern/Overlap.lean`.
-/

namespace Claw.Source

open Text (isWord isGap)

namespace Expression

/-- The letters of an output, if there are any, up to the end. -/
def outputLetters : Expression :=
  seq (optional (group 3 (run isStackLetter))) ends

/-- What is behind a mnemonic. -/
def selectors : Expression :=
  seq (run isSeparator) (seq (optional (group 2 (one isStackLetter)))
    (seq (run isSeparator) outputLetters))

/-- A line that consists of an instruction. -/
def instruction : Expression :=
  seq (group 1 (word isWord)) selectors

end Expression

/-! ## Classes of characters -/

lemma isSeparator_of_isStackLetter {c : Char} (h : isStackLetter c = true) :
    isSeparator c = false := by
  rcases eq_of_isStackLetter h with rfl | rfl | rfl | rfl | rfl | rfl | rfl | rfl <;> rfl

lemma isStackLetter_of_isSeparator {c : Char} (h : isSeparator c = true) :
    isStackLetter c = false := by
  by_contra hletter
  have := isSeparator_of_isStackLetter (eq_true_of_ne_false hletter)
  cases this.symm.trans h

lemma isSeparator_of_isWord {c : Char} (h : isWord c = true) : isSeparator c = false := by
  by_contra hseparator
  have hcases : c = '\t' ∨ c = ' ' ∨ c = ',' := by
    have := eq_true_of_ne_false hseparator
    simpa [isSeparator, isGap, or_assoc] using this
  rcases hcases with rfl | rfl | rfl <;> exact absurd h (by decide)

/-- Only a line break in front of the end is at the end itself. -/
lemma atEnd_cons {c : Char} {cs : List Char} : atEnd (c :: cs) = true ↔ c = '\n' ∧ cs = [] := by
  simp [atEnd]

lemma atEnd_cons_eq_false {c : Char} {cs : List Char} (h : c ≠ '\n') : atEnd (c :: cs) = false := by
  by_contra hend
  exact h (atEnd_cons.mp (eq_true_of_ne_false hend)).1

lemma atEnd_dropWhile_isStackLetter {cs : List Char} (h : atEnd cs = true) :
    cs.dropWhile isStackLetter = cs := by
  cases cs with
  | nil => rfl
  | cons c cs =>
    obtain ⟨rfl, rfl⟩ := atEnd_cons.mp h
    rfl

lemma dropWhile_isSeparator_of_atEnd {cs : List Char}
    (h : atEnd (cs.dropWhile isStackLetter) = true) : cs.dropWhile isSeparator = cs := by
  cases cs with
  | nil => rfl
  | cons c cs =>
    refine List.dropWhile_cons_of_neg fun hc => ?_
    rw [List.dropWhile_cons_of_neg (by simp [isStackLetter_of_isSeparator hc])] at h
    obtain ⟨rfl, -⟩ := atEnd_cons.mp h
    cases hc

lemma isSome_selectors?_of_atEnd {cs : List Char}
    (h : atEnd (cs.dropWhile isStackLetter) = true) : (selectors? cs).isSome = true := by
  cases cs with
  | nil => rfl
  | cons c cs =>
    by_cases hc : isStackLetter c = true
    · rw [List.dropWhile_cons_of_pos hc] at h
      rw [selectors?, if_pos hc, dropWhile_isSeparator_of_atEnd h]
      dsimp only
      rw [if_pos h]
      rfl
    · rw [List.dropWhile_cons_of_neg hc] at h
      rw [selectors?, if_neg hc, if_pos h]
      rfl

lemma isWord_of_isStackLetter {c : Char} (h : isStackLetter c = true) : isWord c = true := by
  rcases eq_of_isStackLetter h with rfl | rfl | rfl | rfl | rfl | rfl | rfl | rfl <;> rfl

/-- What a word gives back is no list of selectors, unless there is one behind the whole word. -/
lemma isSome_selectors?_of_word {c : Char} {cs : List Char} (hc : isWord c = true)
    (h : (selectors? (c :: cs)).isSome = true) :
    (selectors? ((cs.dropWhile isWord).dropWhile isSeparator)).isSome = true := by
  have hbreak : c ≠ '\n' := by
    rintro rfl
    cases hc
  have hend : atEnd ((cs.dropWhile isSeparator).dropWhile isStackLetter) = true := by
    by_contra hnot
    simp [selectors?, hnot, atEnd_cons_eq_false hbreak] at h
  cases cs with
  | nil => rfl
  | cons d ds =>
    by_cases hd : isWord d = true
    · -- the whole text is letters, and so a part of the word
      have hseparator : ¬isSeparator d = true := by simp [isSeparator_of_isWord hd]
      rw [List.dropWhile_cons_of_neg hseparator] at hend
      generalize hcs : d :: ds = cs at hend
      have hword : cs.dropWhile isWord = cs.dropWhile isStackLetter := by
        have hrun : ∀ e ∈ cs.takeWhile isStackLetter, isWord e = true := fun e he =>
          isWord_of_isStackLetter (List.mem_takeWhile_imp he)
        have hrest : ∀ e ∈ (cs.dropWhile isStackLetter).head?, isWord e = false := by
          intro e he
          cases hbehind : cs.dropWhile isStackLetter with
          | nil => simp [hbehind] at he
          | cons f fs =>
            rw [hbehind] at hend he
            obtain ⟨rfl, -⟩ := atEnd_cons.mp hend
            obtain rfl := Option.some.inj he
            rfl
        have := Text.dropWhile_append_eq hrun hrest
        rwa [List.takeWhile_append_dropWhile] at this
      have hletters := atEnd_dropWhile_isStackLetter hend
      rw [hword, dropWhile_isSeparator_of_atEnd (by rwa [hletters])]
      exact isSome_selectors?_of_atEnd (by rwa [hletters])
    · rw [List.dropWhile_cons_of_neg hd]
      exact isSome_selectors?_of_atEnd hend

namespace Expression

lemma first?_ends (groups : Groups) (cs : List Char) :
    ends.first? groups cs = if atEnd cs then some (groups, cs) else none := by
  rw [first?, ways]
  split <;> rfl

/-- The output has all its letters, since the end cannot be in front of a letter. -/
lemma first?_outputLetters (groups : Groups) (cs : List Char) :
    outputLetters.first? groups cs =
      if atEnd (cs.dropWhile isStackLetter) then
        some ((3, cs.takeWhile isStackLetter) :: groups, cs.dropWhile isStackLetter)
      else none := by
  have hletter : ∀ inner c rest, isStackLetter c = true → ends.first? inner (c :: rest) = none := by
    intro inner c rest hc
    have hbreak : c ≠ '\n' := by
      rintro rfl
      cases hc
    rw [first?_ends, atEnd_cons_eq_false hbreak]
    rfl
  rw [outputLetters, first?_optional_seq, first?_group_run_seq_of_head hletter, first?_ends,
    first?_ends]
  cases hcs : atEnd cs with
  | true => simp [atEnd_dropWhile_isStackLetter hcs, hcs]
  | false => simp

/-- The separators in front of an output are all of them. -/
lemma first?_separated_outputLetters (groups : Groups) (cs : List Char) :
    (seq (run isSeparator) outputLetters).first? groups cs =
      outputLetters.first? groups (cs.dropWhile isSeparator) := by
  refine first?_run_seq_of_head fun c rest hc => ?_
  have hletter := isStackLetter_of_isSeparator hc
  have hbreak : c ≠ '\n' := by
    rintro rfl
    cases hc
  rw [first?_outputLetters, List.dropWhile_cons_of_neg (by simp [hletter]),
    atEnd_cons_eq_false hbreak]
  rfl

/-- A letter is taken as the input, if there is one: as a part of the output it would not help. -/
lemma first?_input_cons (groups : Groups) {c : Char} (cs : List Char)
    (h : isStackLetter c = true) :
    (seq (optional (group 2 (one isStackLetter)))
        (seq (run isSeparator) outputLetters)).first? groups (c :: cs) =
      outputLetters.first? ((2, [c]) :: groups) (cs.dropWhile isSeparator) := by
  have hgroup : (seq (group 2 (one isStackLetter))
      (seq (run isSeparator) outputLetters)).first? groups (c :: cs) =
        outputLetters.first? ((2, [c]) :: groups) (cs.dropWhile isSeparator) := by
    rw [first?_seq, ← first?_separated_outputLetters]
    simp [ways, h]
  have hinput := isSeparator_of_isStackLetter h
  rw [first?_optional_seq, hgroup, first?_separated_outputLetters,
    List.dropWhile_cons_of_neg (by simp [hinput]), first?_outputLetters, first?_outputLetters,
    List.dropWhile_cons_of_pos h]
  by_cases hend : atEnd (cs.dropWhile isStackLetter) = true
  · rw [dropWhile_isSeparator_of_atEnd hend, if_pos hend]
    rfl
  · rw [if_neg hend, Option.or_none]

lemma first?_input_of_not (groups : Groups) {cs : List Char}
    (h : ∀ c ∈ cs.head?, isStackLetter c = false) :
    (seq (optional (group 2 (one isStackLetter)))
        (seq (run isSeparator) outputLetters)).first? groups cs =
      outputLetters.first? groups (cs.dropWhile isSeparator) := by
  have hgroup : (seq (group 2 (one isStackLetter))
      (seq (run isSeparator) outputLetters)).first? groups cs = none := by
    rw [first?_seq]
    cases cs with
    | nil => rfl
    | cons c cs => simp [ways, h c rfl]
  rw [first?_optional_seq, hgroup, Option.none_or, first?_separated_outputLetters]

/-- The groups of the selectors. -/
def selectorGroups (input : Option Char) (output : List Char) : Groups :=
  (3, output) :: input.toList.map fun letter => (2, [letter])

/-- **The selectors.** The first letter behind the separators is the input, whatever follows it. -/
lemma first?_selectors (groups : Groups) (cs : List Char) :
    (selectors.first? groups cs).map Prod.fst =
      (selectors? (cs.dropWhile isSeparator)).map fun (input, output) =>
        selectorGroups input output ++ groups := by
  have hbehind : (cs.dropWhile isSeparator).dropWhile isSeparator = cs.dropWhile isSeparator :=
    List.dropWhile_idempotent _ _
  rw [selectors, first?_run_seq]
  · generalize cs.dropWhile isSeparator = behind at hbehind
    cases behind with
    | nil => rfl
    | cons c behind =>
      by_cases hc : isStackLetter c = true
      · rw [first?_input_cons groups behind hc, first?_outputLetters, selectors?, if_pos hc]
        dsimp only
        split <;> rfl
      · have hnot : ∀ d ∈ (c :: behind).head?, isStackLetter d = false := by
          rintro d ⟨rfl⟩
          exact eq_false_of_ne_true hc
        rw [first?_input_of_not groups hnot, hbehind, first?_outputLetters, selectors?, if_neg hc,
          List.dropWhile_cons_of_neg hc, List.takeWhile_cons_of_neg hc]
        split <;> rfl
  · -- a separator that is given back is taken again in front of the output
    intro hnone c rest hc hsame
    have hletter : ∀ d ∈ (c :: rest).head?, isStackLetter d = false := by
      rintro d ⟨rfl⟩
      exact isStackLetter_of_isSeparator hc
    rw [first?_optional_seq, Option.or_eq_none_iff, first?_separated_outputLetters, hbehind] at hnone
    rw [first?_input_of_not groups hletter, List.dropWhile_cons_of_pos hc, hsame]
    exact hnone.2

/-- The groups of an instruction. -/
def instructionGroups (statement : InstructionStatement) : Groups :=
  selectorGroups statement.input statement.output.toList ++ [(1, statement.mnemonic.toList)]

/-- **Instructions are recognised as the pattern says.** The mnemonic never gives a character back:
where the selectors fail behind the whole of it they fail behind every part. -/
lemma captures?_instruction (cs : List Char) :
    instruction.captures? cs = (instructionStatement? cs).map instructionGroups := by
  rw [captures?, instruction, first?_group_word_seq, instructionStatement?]
  · dsimp only
    by_cases hempty : (cs.takeWhile isWord).isEmpty = true
    · rw [if_pos hempty, if_pos hempty]
      rfl
    · rw [if_neg hempty, if_neg hempty, first?_selectors, Option.map_map]
      refine Option.map_congr fun selected _ => ?_
      simp [instructionGroups]
  · intro hnone inner c rest hc hsame
    have hbehind := first?_selectors [(1, cs.takeWhile isWord)] (cs.dropWhile isWord)
    rw [hnone, Option.map_none, eq_comm, Option.map_eq_none_iff, ← hsame] at hbehind
    have hseparator : ¬isSeparator c = true := by simp [isSeparator_of_isWord hc]
    have hhere := first?_selectors inner (c :: rest)
    rw [List.dropWhile_cons_of_neg hseparator] at hhere
    by_contra hsome
    have hselected : (selectors? (c :: rest)).isSome = true := by
      rw [← Option.isSome_map, ← hhere, Option.isSome_map]
      exact Option.isSome_iff_ne_none.mpr hsome
    have := isSome_selectors?_of_word hc hselected
    simp [hbehind] at this

end Expression

end Claw.Source
