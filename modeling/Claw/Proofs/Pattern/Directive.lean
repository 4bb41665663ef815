import Claw.Proofs.Pattern.Instruction
import Claw.Proofs.Text.Letters
import Claw.Source.Definition

/-!
# The patterns of definitions and labels

`Expression.define`, `Expression.undefine` and `Expression.label` are the patterns of the directives
about names and of labels.  Whether they match is what the recognisers say; what the groups of a
directive take is of no account for the category of a line.

* `gapWord?_eq_some_iff`: the name behind a keyword, which is a whole word (`IsWholeWord`);
  `StartsWord` says that there is one at all (`isSome_gapWord?_iff`);
* `defineDirective?_eq_some_iff` and `undefineDirective?_eq_some_iff`: the directives that are read
  off a text, and `isSome_defineDirective?_iff`, `isSome_undefineDirective?_iff` and
  `isSome_labelStatement?_iff`: the texts that are recognised;
* `Expression.isSome_first?_define`, `Expression.isSome_first?_undefine` and
  `Expression.isSome_first?_label`: these are the texts that the patterns match.

Consumers: `Claw/Proofs/Pattern/Overlap.lean` and `Claw/Proofs/Definitions.lean`.
-/

namespace Claw.Source

open Text (isGap isWord takeWhile_append_eq dropWhile_append_eq)

/-! ## The recognisers -/

lemma behindKeyword?_eq_some_iff {word cs rest : List Char} :
    behindKeyword? word cs = some rest ↔
      ∃ front, front.map Char.toLower = word ∧ cs = front ++ rest := by
  constructor
  · intro h
    induction word generalizing cs with
    | nil =>
      obtain rfl := Option.some.inj h
      exact ⟨[], rfl, rfl⟩
    | cons k word ih =>
      cases cs with
      | nil => contradiction
      | cons c cs =>
        rw [behindKeyword?] at h
        split at h
        · next hc =>
          obtain ⟨front, hfront, rfl⟩ := ih h
          exact ⟨c :: front, by rw [List.map_cons, hc, hfront], rfl⟩
        · contradiction
  · rintro ⟨front, rfl, rfl⟩
    induction front with
    | nil => rfl
    | cons c front ih => rwa [List.map_cons, List.cons_append, behindKeyword?, if_pos rfl]

/-- The name is a word in front of the rest of a text, and does not go on there. -/
structure IsWholeWord (name rest : List Char) : Prop where
  ne_nil : name ≠ []
  isWord : ∀ c ∈ name, isWord c = true
  whole : ∀ c ∈ rest.head?, Text.isWord c = false

/-- At least one tab or space. -/
def IsGapText (gap : List Char) : Prop :=
  gap ≠ [] ∧ ∀ c ∈ gap, isGap c = true

/-- The text starts with a word behind at least one tab or space. -/
def StartsWord (cs : List Char) : Prop :=
  ∃ gap name rest, IsGapText gap ∧ IsWholeWord name rest ∧ cs = gap ++ (name ++ rest)

/-- The word that a text starts with may go on behind what is known of it. -/
lemma startsWord_of_word {gap name rest : List Char} (hgap : IsGapText gap) (hne : name ≠ [])
    (hname : ∀ c ∈ name, isWord c = true) : StartsWord (gap ++ (name ++ rest)) := by
  refine ⟨gap, name ++ rest.takeWhile isWord, rest.dropWhile isWord, hgap,
    ⟨by simp [hne], ?_, fun d hd => ?_⟩, ?_⟩
  · exact List.forall_mem_append.mpr ⟨hname, fun _ => List.mem_takeWhile_imp⟩
  · have hstop := List.head?_dropWhile_not isWord rest
    rwa [Option.mem_def.mp hd] at hstop
  · rw [List.append_assoc, List.takeWhile_append_dropWhile]

lemma isGap_of_isWord {c : Char} (h : isWord c = true) : isGap c = false :=
  (Bool.or_eq_false_iff.mp (isSeparator_of_isWord h)).1

/-- **Names.** What is read off is the gap and the whole word behind it. -/
lemma gapWord?_eq_some_iff {cs name rest : List Char} :
    gapWord? cs = some (name, rest) ↔
      IsWholeWord name rest ∧ ∃ gap, IsGapText gap ∧ cs = gap ++ (name ++ rest) := by
  constructor
  · intro h
    cases cs with
    | nil => contradiction
    | cons c cs =>
      rw [gapWord?] at h
      split at h
      · next hword =>
        rw [Bool.and_eq_true, Bool.not_eq_true', List.isEmpty_eq_false_iff] at hword
        obtain ⟨rfl, rfl⟩ := Prod.mk.inj (Option.some.inj h)
        refine ⟨⟨hword.2, fun _ => List.mem_takeWhile_imp, fun d hd => ?_⟩,
          c :: cs.takeWhile isGap, ⟨by simp,
          List.forall_mem_cons.mpr ⟨hword.1, fun _ => List.mem_takeWhile_imp⟩⟩, ?_⟩
        · have hstop := List.head?_dropWhile_not isWord (cs.dropWhile isGap)
          rwa [Option.mem_def.mp hd] at hstop
        · rw [List.takeWhile_append_dropWhile, List.cons_append, List.takeWhile_append_dropWhile]
      · contradiction
  · rintro ⟨⟨hne, hname, hwhole⟩, gap, ⟨hgapNe, hgap⟩, rfl⟩
    obtain ⟨c, gap, rfl⟩ := List.exists_cons_of_ne_nil hgapNe
    obtain ⟨hc, hgap⟩ := List.forall_mem_cons.mp hgap
    have hhead : ∀ e ∈ (name ++ rest).head?, isGap e = false := by
      obtain ⟨d, name, rfl⟩ := List.exists_cons_of_ne_nil hne
      rintro e ⟨rfl⟩
      exact isGap_of_isWord (hname d List.mem_cons_self)
    rw [List.cons_append, gapWord?, dropWhile_append_eq hgap hhead]
    simp [takeWhile_append_eq hname hwhole, dropWhile_append_eq hname hwhole, hc, hne]

lemma isSome_gapWord?_iff {cs : List Char} : (gapWord? cs).isSome = true ↔ StartsWord cs := by
  rw [Option.isSome_iff_exists]
  constructor
  · rintro ⟨⟨name, rest⟩, hword⟩
    obtain ⟨hname, gap, hgap, rfl⟩ := gapWord?_eq_some_iff.mp hword
    exact ⟨gap, name, rest, hgap, hname, rfl⟩
  · rintro ⟨gap, name, rest, hgap, hname, rfl⟩
    exact ⟨⟨name, rest⟩, gapWord?_eq_some_iff.mpr ⟨hname, gap, hgap, rfl⟩⟩

/-- A text that starts a word is not a keyword written out. -/
lemma StartsWord.behindKeyword?_eq_none {cs : List Char} (h : StartsWord cs) :
    behindKeyword? "ine".toList cs = none := by
  obtain ⟨gap, name, rest, ⟨hne, hgap⟩, -, rfl⟩ := h
  obtain ⟨c, gap, rfl⟩ := List.exists_cons_of_ne_nil hne
  have hc : c = '\t' ∨ c = ' ' := by
    have := hgap c List.mem_cons_self
    rwa [isGap, Bool.or_eq_true, beq_iff_eq, beq_iff_eq] at this
  rcases hc with rfl | rfl <;> rfl

lemma defineDirective?_eq_some_iff {cs : List Char} {directive : Directive} :
    defineDirective? cs = some directive ↔ ∃ keyword behind name rest,
      keyword.map Char.toLower = "#define".toList ∧ cs = keyword ++ behind ∧
      gapWord? behind = some (name, rest) ∧
      directive = .define (String.ofList name) (String.ofList (definedValue rest)) := by
  simp only [defineDirective?, Option.bind_eq_bind, Option.bind_eq_some_iff, Option.pure_def,
    Option.some.injEq, behindKeyword?_eq_some_iff]
  constructor
  · rintro ⟨behind, ⟨keyword, hkeyword, rfl⟩, ⟨name, rest⟩, hword, rfl⟩
    exact ⟨keyword, behind, name, rest, hkeyword, rfl, hword, rfl⟩
  · rintro ⟨keyword, behind, name, rest, hkeyword, rfl, hword, rfl⟩
    exact ⟨behind, ⟨keyword, hkeyword, rfl⟩, ⟨name, rest⟩, hword, rfl⟩

lemma isSome_defineDirective?_iff {cs : List Char} :
    (defineDirective? cs).isSome = true ↔ ∃ keyword behind,
      keyword.map Char.toLower = "#define".toList ∧ cs = keyword ++ behind ∧ StartsWord behind := by
  rw [Option.isSome_iff_exists]
  constructor
  · rintro ⟨directive, hdirective⟩
    obtain ⟨keyword, behind, name, rest, hkeyword, rfl, hword, -⟩ :=
      defineDirective?_eq_some_iff.mp hdirective
    exact ⟨keyword, behind, hkeyword, rfl,
      isSome_gapWord?_iff.mp (Option.isSome_iff_exists.mpr ⟨_, hword⟩)⟩
  · rintro ⟨keyword, behind, hkeyword, rfl, hstarts⟩
    obtain ⟨⟨name, rest⟩, hword⟩ := Option.isSome_iff_exists.mp (isSome_gapWord?_iff.mpr hstarts)
    exact ⟨_, defineDirective?_eq_some_iff.mpr
      ⟨keyword, behind, name, rest, hkeyword, rfl, hword, rfl⟩⟩

/-- The keyword may be written out. -/
lemma undefineDirective?_eq_some_iff {cs : List Char} {directive : Directive} :
    undefineDirective? cs = some directive ↔ ∃ keyword ending behind name rest,
      keyword.map Char.toLower = "#undef".toList ∧
      (ending = [] ∨ ending.map Char.toLower = "ine".toList) ∧
      cs = keyword ++ (ending ++ behind) ∧ gapWord? behind = some (name, rest) ∧
      directive = .undefine (String.ofList name) := by
  simp only [undefineDirective?, Option.bind_eq_bind, Option.bind_eq_some_iff, Option.pure_def,
    Option.some.injEq, behindKeyword?_eq_some_iff]
  constructor
  · rintro ⟨behind, ⟨keyword, hkeyword, rfl⟩, ⟨name, rest⟩, hword, rfl⟩
    cases hending : behindKeyword? "ine".toList behind with
    | none =>
      rw [hending] at hword
      exact ⟨keyword, [], behind, name, rest, hkeyword, .inl rfl, rfl, hword, rfl⟩
    | some behind' =>
      rw [hending] at hword
      obtain ⟨ending, hspelled, rfl⟩ := behindKeyword?_eq_some_iff.mp hending
      exact ⟨keyword, ending, behind', name, rest, hkeyword, .inr hspelled, rfl, hword, rfl⟩
  · rintro ⟨keyword, ending, behind, name, rest, hkeyword, hending, rfl, hword, rfl⟩
    refine ⟨ending ++ behind, ⟨keyword, hkeyword, rfl⟩, ⟨name, rest⟩, ?_, rfl⟩
    rcases hending with rfl | hending
    · have hstarts := isSome_gapWord?_iff.mp (Option.isSome_iff_exists.mpr ⟨_, hword⟩)
      rw [List.nil_append, hstarts.behindKeyword?_eq_none]
      exact hword
    · rw [behindKeyword?_eq_some_iff.mpr ⟨ending, hending, rfl⟩]
      exact hword

lemma isSome_undefineDirective?_iff {cs : List Char} :
    (undefineDirective? cs).isSome = true ↔ ∃ keyword ending behind,
      keyword.map Char.toLower = "#undef".toList ∧
      (ending = [] ∨ ending.map Char.toLower = "ine".toList) ∧
      cs = keyword ++ (ending ++ behind) ∧ StartsWord behind := by
  rw [Option.isSome_iff_exists]
  constructor
  · rintro ⟨directive, hdirective⟩
    obtain ⟨keyword, ending, behind, name, rest, hkeyword, hending, rfl, hword, -⟩ :=
      undefineDirective?_eq_some_iff.mp hdirective
    exact ⟨keyword, ending, behind, hkeyword, hending, rfl,
      isSome_gapWord?_iff.mp (Option.isSome_iff_exists.mpr ⟨_, hword⟩)⟩
  · rintro ⟨keyword, ending, behind, hkeyword, hending, rfl, hstarts⟩
    obtain ⟨⟨name, rest⟩, hword⟩ := Option.isSome_iff_exists.mp (isSome_gapWord?_iff.mpr hstarts)
    exact ⟨_, undefineDirective?_eq_some_iff.mpr
      ⟨keyword, ending, behind, name, rest, hkeyword, hending, rfl, hword, rfl⟩⟩

lemma isSome_labelStatement?_iff {cs : List Char} :
    (labelStatement? cs).isSome = true ↔
      ∃ c rest, isWord c = true ∧ atEnd rest = true ∧ cs = c :: ':' :: rest := by
  constructor
  · intro h
    unfold labelStatement? at h
    split at h
    · split at h
      · next c rest hlabel =>
        rw [Bool.and_eq_true] at hlabel
        exact ⟨c, rest, hlabel.1, hlabel.2, rfl⟩
      · contradiction
    · contradiction
  · rintro ⟨c, rest, hc, hrest, rfl⟩
    simp [labelStatement?, hc, hrest]

/-! ## The patterns -/

namespace Expression

/-- A small letter in either case. -/
def letter (small : Char) : Expression :=
  among [small.toUpper, small]

/-- A word of small letters in any case, from its first letter on. -/
def keyword (first : Char) : List Char → Expression
  | [] => letter first
  | next :: others => seq (letter first) (keyword next others)

/-- A name, set off by tabs or spaces. -/
def name : Expression :=
  seq (word isGap) (group 1 (word isWord))

/-- A `#define` directive. -/
def define : Expression :=
  seq (keyword '#' "define".toList)
    (seq name (optional (seq (word isGap) (group 2 (word (· != '\n'))))))

/-- An `#undef` or `#undefine` directive. -/
def undefine : Expression :=
  seq (keyword '#' "undef".toList) (seq (optional (keyword 'i' "ne".toList)) name)

/-- A line that consists of a label. -/
def label : Expression :=
  seq (group 1 (one isWord)) (seq (char ':') ends)

variable {groups inner : Groups} {cs rest : List Char}

lemma mem_ways_letter {small : Char} (h : small.toLower = small) :
    (inner, rest) ∈ (letter small).ways groups cs ↔
      ∃ c, c.toLower = small ∧ cs = c :: rest ∧ inner = groups := by
  have hletter : ∀ c, c ∈ [small.toUpper, small] ↔ c.toLower = small := by
    intro c
    rw [List.mem_cons, List.mem_singleton]
    constructor
    · rintro (rfl | rfl)
      · rwa [Char.toLower_toUpper_eq_toLower]
      · exact h
    · exact fun hc => (Text.eq_or_eq_toUpper hc).symm
  simp only [letter, mem_ways_among, hletter]

lemma mem_ways_keyword {first : Char} {others : List Char}
    (h : (first :: others).map Char.toLower = first :: others) :
    (inner, rest) ∈ (keyword first others).ways groups cs ↔
      ∃ front, front.map Char.toLower = first :: others ∧ cs = front ++ rest ∧ inner = groups := by
  induction others generalizing first cs groups with
  | nil =>
    rw [keyword, mem_ways_letter (List.cons.inj h).1]
    constructor
    · rintro ⟨c, rfl, rfl, rfl⟩
      exact ⟨[c], rfl, rfl, rfl⟩
    · rintro ⟨front, hfront, rfl, rfl⟩
      obtain ⟨c, rfl, rfl⟩ := List.map_eq_singleton_iff.mp hfront
      exact ⟨c, rfl, rfl, rfl⟩
  | cons next others ih =>
    rw [keyword, mem_ways_seq]
    simp only [mem_ways_letter (List.cons.inj h).1, ih (List.cons.inj h).2]
    constructor
    · rintro ⟨_, _, ⟨c, hc, rfl, rfl⟩, front, hfront, rfl, rfl⟩
      exact ⟨c :: front, by rw [List.map_cons, hc, hfront], rfl, rfl⟩
    · rintro ⟨front, hfront, rfl, rfl⟩
      obtain ⟨c, front, rfl, hc, hfront⟩ := List.map_eq_cons_iff.mp hfront
      exact ⟨_, _, ⟨c, hc, rfl, rfl⟩, front, hfront, rfl, rfl⟩

/-- A name with a margin is what starts a word. -/
lemma exists_mem_ways_name_iff :
    (∃ inner rest, (inner, rest) ∈ name.ways groups cs) ↔ StartsWord cs := by
  simp only [name, mem_ways_seq, mem_ways_word, mem_ways_group]
  constructor
  · rintro ⟨_, rest, _, _, ⟨gap, hgapNe, hgap, rfl, rfl⟩, _, ⟨word, hwordNe, hword, rfl, rfl⟩, rfl⟩
    exact startsWord_of_word ⟨hgapNe, hgap⟩ hwordNe hword
  · rintro ⟨gap, word, rest, ⟨hgapNe, hgap⟩, hword, rfl⟩
    exact ⟨_, rest, _, _, ⟨gap, hgapNe, hgap, rfl, rfl⟩, _,
      ⟨word, hword.ne_nil, hword.isWord, rfl, rfl⟩, rfl⟩

lemma isSome_first?_define :
    (define.first? [] cs).isSome = (defineDirective? cs).isSome := by
  rw [Bool.eq_iff_iff, isSome_first?_iff, isSome_defineDirective?_iff]
  simp only [define, mem_ways_seq]
  constructor
  · rintro ⟨_, _, _, behind, hkeyword, between, middle, hname, -⟩
    obtain ⟨front, hfront, rfl, rfl⟩ := (mem_ways_keyword rfl).mp hkeyword
    exact ⟨front, behind, hfront, rfl, exists_mem_ways_name_iff.mp ⟨between, middle, hname⟩⟩
  · rintro ⟨front, behind, hfront, rfl, hstarts⟩
    obtain ⟨inner, rest, hname⟩ : ∃ inner rest, (inner, rest) ∈ name.ways [] behind :=
      exists_mem_ways_name_iff.mpr hstarts
    exact ⟨inner, rest, [], behind, (mem_ways_keyword rfl).mpr ⟨front, hfront, rfl, rfl⟩, inner, rest,
      hname, mem_ways_optional.mpr (.inr ⟨rfl, rfl⟩)⟩

lemma isSome_first?_undefine :
    (undefine.first? [] cs).isSome = (undefineDirective? cs).isSome := by
  rw [Bool.eq_iff_iff, isSome_first?_iff, isSome_undefineDirective?_iff]
  simp only [undefine, mem_ways_seq]
  constructor
  · rintro ⟨inner, rest, _, _, hkeyword, _, behind, hending, hname⟩
    obtain ⟨front, hfront, rfl, rfl⟩ := (mem_ways_keyword rfl).mp hkeyword
    have hstarts := exists_mem_ways_name_iff.mp ⟨inner, rest, hname⟩
    rcases mem_ways_optional.mp hending with hending | ⟨rfl, rfl⟩
    · obtain ⟨ending, hspelled, rfl, rfl⟩ := (mem_ways_keyword rfl).mp hending
      exact ⟨front, ending, behind, hfront, .inr hspelled, rfl, hstarts⟩
    · exact ⟨front, [], behind, hfront, .inl rfl, rfl, hstarts⟩
  · rintro ⟨front, ending, behind, hfront, hending, rfl, hstarts⟩
    obtain ⟨inner, rest, hname⟩ := exists_mem_ways_name_iff.mpr hstarts
    refine ⟨inner, rest, [], ending ++ behind, (mem_ways_keyword rfl).mpr ⟨front, hfront, rfl, rfl⟩,
      [], behind, mem_ways_optional.mpr ?_, hname⟩
    rcases hending with rfl | hspelled
    · exact .inr ⟨rfl, rfl⟩
    · exact .inl ((mem_ways_keyword rfl).mpr ⟨ending, hspelled, rfl, rfl⟩)

lemma isSome_first?_label :
    (label.first? [] cs).isSome = (labelStatement? cs).isSome := by
  rw [Bool.eq_iff_iff, isSome_first?_iff, isSome_labelStatement?_iff]
  simp only [label, mem_ways_seq, mem_ways_group, mem_ways_one, mem_ways_char, mem_ways_ends]
  constructor
  · rintro ⟨_, _, _, _, ⟨_, ⟨c, hc, rfl, rfl⟩, rfl⟩, _, _, ⟨rfl, rfl⟩, hends, rfl, rfl⟩
    exact ⟨c, _, hc, hends, rfl⟩
  · rintro ⟨c, rest, hc, hends, rfl⟩
    exact ⟨_, _, _, _, ⟨_, ⟨c, hc, rfl, rfl⟩, rfl⟩, _, _, ⟨rfl, rfl⟩, hends, rfl, rfl⟩

end Expression

end Claw.Source
