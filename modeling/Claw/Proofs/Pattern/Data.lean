import Claw.Proofs.Pattern.Expression
import Claw.Proofs.Source.Reading
import Claw.Proofs.Text.Letters
import Claw.Proofs.Text.Margin

/-!
# The pattern of data directives

`Expression.data` is the pattern of a data directive, which is searched for in a line.  It could be
ambiguous in one place, the mark of an unsigned type, which may also be left out; but nothing that
follows can start with the mark.  So there is only one way to match, and the order in which the
choices are tried is of no account.

* `DataStatement.IsWritten`: the texts that a directive is written as, without any reference to how
  they are recognised, and `DataStatement.IsWritten.unique`: a text starts with one directive at most;
* `dataStatementAt?_eq_some_iff` and `dataStatement?_eq_some`: the recognisers find them;
* `Expression.mem_ways_data`: the ways to match are these texts, and `Expression.first?_data_iff` and
  `Expression.search?_data`: what the pattern takes at the head of a text, and what is found in it.

Consumed by `Claw/Proofs/Grammar/Data.lean` and `Claw/Proofs/Pattern/Overlap.lean`.
-/

namespace Claw.Source

open Text (isGap spellings mem_spellings takeWhile_append_eq dropWhile_append_eq)

/-! ## What a directive is written as -/

/-- The directive is written as the text: `.DB` and the suffix of a type, in any case, tabs or
spaces, and the operand. -/
def DataStatement.IsWritten (statement : DataStatement) (text : List Char) : Prop :=
  ∃ mark gap, text = mark ++ (statement.suffix.toList ++ (gap ++ statement.operand.written)) ∧
    mark.map Char.toUpper = ".DB".toList ∧
    (∃ type : DataType, statement.suffix.toList.map Char.toUpper = type.suffix.toList) ∧
    (∀ c ∈ gap, isGap c = true) ∧ statement.operand.IsAdmitted

/-! ## Words in any case -/

lemma map_toUpper_eq_mark_iff {mark : List Char} :
    mark.map Char.toUpper = ".DB".toList ↔
      ∃ d ∈ ['D', 'd'], ∃ b ∈ ['B', 'b'], mark = ['.', d, b] := by
  constructor
  · intro h
    have hall : ∀ mark ∈ spellings ".DB".toList,
        mark ∈ [['.', 'D', 'B'], ['.', 'D', 'b'], ['.', 'd', 'B'], ['.', 'd', 'b']] := by decide
    have hmark := hall mark (mem_spellings h)
    simp only [List.mem_cons, List.not_mem_nil, or_false] at hmark
    rcases hmark with rfl | rfl | rfl | rfl <;> simp
  · rintro ⟨d, hd, b, hb, rfl⟩
    simp only [List.mem_cons, List.not_mem_nil, or_false] at hd hb
    rcases hd with rfl | rfl <;> rcases hb with rfl | rfl <;> rfl

lemma mem_suffixSpellings_iff {suffix : List Char} :
    suffix ∈ suffixSpellings ↔
      ∃ type : DataType, suffix.map Char.toUpper = type.suffix.toList := by
  constructor
  · have hall : ∀ suffix ∈ suffixSpellings, ∃ type ∈ DataType.all,
        suffix.map Char.toUpper = type.suffix.toList := by decide
    intro h
    obtain ⟨type, -, heq⟩ := hall suffix h
    exact ⟨type, heq⟩
  · rintro ⟨type, h⟩
    have hall : ∀ type ∈ DataType.all, ∀ text ∈ spellings type.suffix.toList,
        text ∈ suffixSpellings := by decide
    exact hall type type.mem_all suffix (mem_spellings h)

/-! ## The recognisers -/

lemma behindDirective?_eq_some_iff {cs rest : List Char} :
    behindDirective? cs = some rest ↔
      ∃ mark, mark.map Char.toUpper = ".DB".toList ∧ cs = mark ++ rest := by
  constructor
  · intro h
    unfold behindDirective? at h
    split at h
    · next d b cs =>
      split at h
      · next hletters =>
        obtain rfl := Option.some.inj h
        simp only [Bool.and_eq_true, List.contains_iff_mem] at hletters
        exact ⟨['.', d, b], map_toUpper_eq_mark_iff.mpr ⟨d, hletters.1, b, hletters.2, rfl⟩, rfl⟩
      · contradiction
    · contradiction
  · rintro ⟨mark, hmark, rfl⟩
    obtain ⟨d, hd, b, hb, rfl⟩ := map_toUpper_eq_mark_iff.mp hmark
    have hletters : (['D', 'd'].contains d && ['B', 'b'].contains b) = true := by
      rw [Bool.and_eq_true, List.contains_iff_mem, List.contains_iff_mem]
      exact ⟨hd, hb⟩
    exact if_pos hletters

lemma eq_append_of_takeUnsigned {read cs suffix rest : List Char}
    (h : takeUnsigned read cs = (suffix, rest)) : read ++ cs = suffix ++ rest := by
  unfold takeUnsigned at h
  split at h <;> cases h <;> simp

lemma eq_append_of_takeSuffix? {cs suffix rest : List Char}
    (h : takeSuffix? cs = some (suffix, rest)) : cs = suffix ++ rest := by
  unfold takeSuffix? at h
  split at h
  · exact eq_append_of_takeUnsigned (Option.some.inj h)
  · exact eq_append_of_takeUnsigned (Option.some.inj h)
  · exact eq_append_of_takeUnsigned (Option.some.inj h)
  · split at h <;> cases h
    rfl
  · contradiction

/-- **Directives at the head of a text.** The directive that is recognised is the one that the head
of the text is written as. -/
lemma dataStatementAt?_eq_some_iff {cs : List Char} {statement : DataStatement} :
    dataStatementAt? cs = some statement ↔
      ∃ text rest, statement.IsWritten text ∧ cs = text ++ rest := by
  constructor
  · intro h
    simp only [dataStatementAt?, Option.bind_eq_bind, Option.bind_eq_some_iff, Option.pure_def,
      Option.some.injEq] at h
    obtain ⟨behind, hbehind, ⟨suffix, rest⟩, hsuffix, operand, hoperand, rfl⟩ := h
    obtain ⟨mark, hmark, rfl⟩ := behindDirective?_eq_some_iff.mp hbehind
    obtain ⟨hadmitted, rest', hrest'⟩ := operandAt?_eq_some_iff.mp hoperand
    have hspelled := mem_suffixSpellings_of_takeSuffix? hsuffix
    have hgap : ∀ c ∈ rest.takeWhile isGap, isGap c = true := fun _ => List.mem_takeWhile_imp
    refine ⟨_, rest', ⟨mark, rest.takeWhile isGap, rfl, hmark, ?_, hgap, hadmitted⟩, ?_⟩
    · rw [String.toList_ofList]
      exact mem_suffixSpellings_iff.mp hspelled
    · simp only [List.append_assoc]
      rw [← hrest', List.takeWhile_append_dropWhile, String.toList_ofList,
        ← eq_append_of_takeSuffix? hsuffix]
  · rintro ⟨text, rest, ⟨mark, gap, rfl, hmark, htype, hgap, hadmitted⟩, rfl⟩
    have hbehind : behindDirective?
        (mark ++ (statement.suffix.toList ++ (gap ++ statement.operand.written)) ++ rest) =
          some (statement.suffix.toList ++ (gap ++ (statement.operand.written ++ rest))) :=
      behindDirective?_eq_some_iff.mpr ⟨mark, hmark, by simp only [List.append_assoc]⟩
    have hhead : ∀ c ∈ (gap ++ (statement.operand.written ++ rest)).head?, c ≠ 'U' ∧ c ≠ 'u' := by
      obtain ⟨c, cs, hwritten, hc⟩ := statement.operand.exists_written_eq
      rw [hwritten]
      cases gap with
      | nil =>
        rintro d ⟨rfl⟩
        rcases hc with rfl | rfl <;> decide
      | cons g gap =>
        rintro d ⟨rfl⟩
        constructor <;> rintro rfl <;> exact absurd (hgap _ List.mem_cons_self) (by decide)
    have hoperand := operandAt?_eq_some_iff.mpr ⟨hadmitted, rest, rfl⟩
    rw [dataStatementAt?, hbehind]
    simp only [Option.bind_eq_bind, Option.bind_some]
    rw [takeSuffix?_append (mem_suffixSpellings_iff.mpr htype) hhead, Option.bind_some,
      dropWhile_append_eq hgap (statement.operand.isGap_head rest), hoperand, String.ofList_toList]
    rfl

/-- **A text starts with one directive at most**, and it is seen where the directive ends. -/
lemma DataStatement.IsWritten.unique {statement statement' : DataStatement}
    {text text' rest rest' : List Char} (h : statement.IsWritten text)
    (h' : statement'.IsWritten text') (heq : text ++ rest = text' ++ rest') :
    statement = statement' ∧ text = text' ∧ rest = rest' := by
  have hhere := dataStatementAt?_eq_some_iff.mpr ⟨text, rest, h, rfl⟩
  have hhere' := dataStatementAt?_eq_some_iff.mpr ⟨text', rest', h', rfl⟩
  rw [heq] at hhere
  obtain rfl := Option.some.inj (hhere.symm.trans hhere')
  obtain ⟨mark, gap, rfl, hmark, -, hgap, -⟩ := h
  obtain ⟨mark', gap', rfl, hmark', -, hgap', -⟩ := h'
  have hlength : mark.length = mark'.length := by
    have := congrArg List.length (hmark.trans hmark'.symm)
    simpa using this
  simp only [List.append_assoc] at heq
  obtain ⟨rfl, hbehind⟩ := List.append_inj heq hlength
  have hbehind := List.append_cancel_left hbehind
  have hgaps : gap = gap' := by
    have := congrArg (List.takeWhile isGap) hbehind
    rwa [takeWhile_append_eq hgap (statement.operand.isGap_head rest),
      takeWhile_append_eq hgap' (statement.operand.isGap_head rest')] at this
  subst hgaps
  have hrest := List.append_cancel_left (List.append_cancel_left hbehind)
  exact ⟨rfl, rfl, hrest⟩

lemma dataStatement?_eq_some {front behind : List Char} {statement : DataStatement}
    (h : dataStatementAt? behind = some statement)
    (hshortest : ∀ front' behind', front ++ behind = front' ++ behind' →
      front'.length < front.length → dataStatementAt? behind' = none) :
    dataStatement? (front ++ behind) = some statement := by
  induction front with
  | nil =>
    cases behind with
    | nil => cases h
    | cons c cs =>
      rw [List.nil_append, dataStatement?, h]
      rfl
  | cons c front ih =>
    have hhere : dataStatementAt? (c :: (front ++ behind)) = none :=
      hshortest [] _ rfl (Nat.zero_lt_succ _)
    rw [List.cons_append, dataStatement?, hhere]
    refine ih fun front' behind' heq hshort => ?_
    exact hshortest (c :: front') behind' (congrArg (c :: ·) heq) (Nat.succ_lt_succ hshort)

/-! ## The pattern -/

namespace Expression

/-- The mark of an unsigned type, if there is one. -/
def unsigned : Expression :=
  optional (among ['U', 'u'])

/-- The suffix of a data directive. -/
def suffix : Expression :=
  either (seq (char '8') unsigned) (either (seq (char '1') (seq (char '6') unsigned))
    (either (seq (char '3') (seq (char '2') unsigned)) (among ['S', 's', 'F', 'f'])))

/-- The operand of a data directive. -/
def operand : Expression :=
  either (seq (char '(') (seq (group 2 (run isValueChar)) (char ')')))
    (seq (char '"') (seq (group 3 (run (· != '"'))) (char '"')))

/-- A data directive. -/
def data : Expression :=
  seq (char '.') (seq (among ['D', 'd']) (seq (among ['B', 'b'])
    (seq (group 1 suffix) (seq (run isGap) operand))))

variable {groups inner : Groups} {cs rest : List Char}

lemma mem_ways_unsigned :
    (inner, rest) ∈ unsigned.ways groups cs ↔
      (cs = rest ∨ cs = 'U' :: rest ∨ cs = 'u' :: rest) ∧ inner = groups := by
  rw [unsigned, mem_ways_optional, mem_ways_among]
  simp only [List.mem_cons, List.not_mem_nil, or_false, exists_eq_or_imp, exists_eq_left]
  tauto

lemma mem_ways_suffix :
    (inner, rest) ∈ suffix.ways groups cs ↔
      ∃ text ∈ suffixSpellings, cs = text ++ rest ∧ inner = groups := by
  simp only [suffix, mem_ways_either, mem_ways_seq, mem_ways_char, mem_ways_unsigned,
    mem_ways_among]
  constructor
  · rintro (⟨_, _, ⟨rfl, rfl⟩, rfl | rfl | rfl, rfl⟩ |
      ⟨_, _, ⟨rfl, rfl⟩, _, _, ⟨rfl, rfl⟩, rfl | rfl | rfl, rfl⟩ |
      ⟨_, _, ⟨rfl, rfl⟩, _, _, ⟨rfl, rfl⟩, rfl | rfl | rfl, rfl⟩ | ⟨c, hc, rfl, rfl⟩)
    · exact ⟨['8'], by decide, rfl, rfl⟩
    · exact ⟨['8', 'U'], by decide, rfl, rfl⟩
    · exact ⟨['8', 'u'], by decide, rfl, rfl⟩
    · exact ⟨['1', '6'], by decide, rfl, rfl⟩
    · exact ⟨['1', '6', 'U'], by decide, rfl, rfl⟩
    · exact ⟨['1', '6', 'u'], by decide, rfl, rfl⟩
    · exact ⟨['3', '2'], by decide, rfl, rfl⟩
    · exact ⟨['3', '2', 'U'], by decide, rfl, rfl⟩
    · exact ⟨['3', '2', 'u'], by decide, rfl, rfl⟩
    · refine ⟨[c], ?_, rfl, rfl⟩
      simp only [List.mem_cons, List.not_mem_nil, or_false] at hc
      rcases hc with rfl | rfl | rfl | rfl <;> decide
  · rintro ⟨text, htext, rfl, rfl⟩
    simp only [suffixSpellings, List.map_cons, List.map_nil, List.mem_cons, List.not_mem_nil,
      or_false] at htext
    rcases htext with rfl | rfl | rfl | rfl | rfl | rfl | rfl | rfl | rfl | rfl | rfl | rfl | rfl <;>
      simp

/-- The group that takes an operand. -/
def operandGroup : Operand → Nat × List Char
  | .values raw => (2, raw.toList)
  | .quoted text => (3, text.toList)

lemma mem_ways_delimited {number : Nat} {p : Char → Bool} {opening closing : Char} :
    (inner, rest) ∈ (seq (char opening) (seq (group number (run p)) (char closing))).ways groups cs ↔
      ∃ text, (∀ c ∈ text, p c = true) ∧ cs = opening :: (text ++ closing :: rest) ∧
        inner = (number, text) :: groups := by
  simp only [mem_ways_seq, mem_ways_char, mem_ways_group, mem_ways_run]
  constructor
  · rintro ⟨_, _, ⟨rfl, rfl⟩, _, _, ⟨_, ⟨text, htext, rfl, rfl⟩, rfl⟩, rfl, rfl⟩
    rw [take_length_sub]
    exact ⟨text, htext, rfl, rfl⟩
  · rintro ⟨text, htext, rfl, rfl⟩
    refine ⟨_, _, ⟨rfl, rfl⟩, _, _, ⟨_, ⟨text, htext, rfl, rfl⟩, rfl⟩, rfl, ?_⟩
    rw [take_length_sub]

lemma mem_ways_operand :
    (inner, rest) ∈ operand.ways groups cs ↔
      ∃ listed : Operand, listed.IsAdmitted ∧ cs = listed.written ++ rest ∧
        inner = operandGroup listed :: groups := by
  rw [operand, mem_ways_either, mem_ways_delimited, mem_ways_delimited]
  constructor
  · rintro (⟨raw, hraw, rfl, rfl⟩ | ⟨text, htext, rfl, rfl⟩)
    · refine ⟨.values (String.ofList raw), ?_, ?_, ?_⟩
      · simpa [Operand.IsAdmitted] using hraw
      · simp [Operand.written]
      · simp [operandGroup]
    · refine ⟨.quoted (String.ofList text), ?_, ?_, ?_⟩
      · simpa [Operand.IsAdmitted] using fun hmem => htext '"' hmem
      · simp [Operand.written]
      · simp [operandGroup]
  · rintro ⟨listed, hadmitted, rfl, rfl⟩
    cases listed with
    | values raw => exact .inl ⟨raw.toList, hadmitted, by simp [Operand.written], rfl⟩
    | quoted text =>
      refine .inr ⟨text.toList, fun c hc => ?_, by simp [Operand.written], rfl⟩
      simpa using fun heq : c = '"' => hadmitted (heq ▸ hc)

/-- The groups of a directive. -/
def dataGroups (statement : DataStatement) : Groups :=
  [operandGroup statement.operand, (1, statement.suffix.toList)]

/-- **The ways to match** are the directives that the head of the text is written as. -/
lemma mem_ways_data :
    (groups, rest) ∈ data.ways [] cs ↔
      ∃ statement : DataStatement, ∃ text, statement.IsWritten text ∧ cs = text ++ rest ∧
        groups = dataGroups statement := by
  simp only [data, mem_ways_seq, mem_ways_char, mem_ways_among, mem_ways_group, mem_ways_suffix,
    mem_ways_run, mem_ways_operand]
  constructor
  · rintro ⟨_, _, ⟨rfl, rfl⟩, _, _, ⟨d, hd, rfl, rfl⟩, _, _, ⟨b, hb, rfl, rfl⟩, _, _,
      ⟨_, ⟨suffix, hsuffix, rfl, rfl⟩, rfl⟩, _, _, ⟨gap, hgap, rfl, rfl⟩, listed, hadmitted, rfl,
      rfl⟩
    rw [take_length_sub]
    refine ⟨⟨String.ofList suffix, listed⟩, _, ⟨['.', d, b], gap, rfl,
      map_toUpper_eq_mark_iff.mpr ⟨d, hd, b, hb, rfl⟩, ?_, hgap, hadmitted⟩, ?_, ?_⟩
    · simpa using mem_suffixSpellings_iff.mp hsuffix
    · simp
    · simp [dataGroups]
  · rintro ⟨statement, _, ⟨mark, gap, rfl, hmark, htype, hgap, hadmitted⟩, rfl, rfl⟩
    obtain ⟨d, hd, b, hb, rfl⟩ := map_toUpper_eq_mark_iff.mp hmark
    have hsuffix := mem_suffixSpellings_iff.mpr htype
    simp only [List.append_assoc, List.cons_append, List.nil_append]
    refine ⟨_, _, ⟨rfl, rfl⟩, _, _, ⟨d, hd, rfl, rfl⟩, _, _, ⟨b, hb, rfl, rfl⟩, _, _,
      ⟨_, ⟨_, hsuffix, rfl, rfl⟩, rfl⟩, _, _, ⟨gap, hgap, rfl, rfl⟩, _, hadmitted, rfl, ?_⟩
    rw [take_length_sub]
    rfl

/-- At the head of a text the pattern takes the directive that the head is written as. -/
lemma first?_data_iff :
    data.first? [] cs = some (groups, rest) ↔
      ∃ statement : DataStatement, ∃ text, statement.IsWritten text ∧ cs = text ++ rest ∧
        groups = dataGroups statement := by
  rw [first?_eq_some_iff, mem_ways_data]
  rintro ⟨groups, rest⟩ hway ⟨groups', rest'⟩ hway'
  obtain ⟨statement, text, hwritten, heq, rfl⟩ := mem_ways_data.mp hway
  obtain ⟨statement', text', hwritten', heq', rfl⟩ := mem_ways_data.mp hway'
  obtain ⟨rfl, -, rfl⟩ := hwritten.unique hwritten' (heq.symm.trans heq')
  rfl

/-- **The groups of the pattern** take what is recognised at the head of a text. -/
lemma captures?_data (cs : List Char) :
    data.captures? cs = (dataStatementAt? cs).map dataGroups := by
  ext groups
  rw [captures?, Option.map_eq_some_iff, Option.map_eq_some_iff]
  constructor
  · rintro ⟨⟨_, rest⟩, hfirst, rfl⟩
    obtain ⟨statement, text, hwritten, heq, rfl⟩ := first?_data_iff.mp hfirst
    exact ⟨statement, dataStatementAt?_eq_some_iff.mpr ⟨text, rest, hwritten, heq⟩, rfl⟩
  · rintro ⟨statement, hstatement, rfl⟩
    obtain ⟨text, rest, hwritten, heq⟩ := dataStatementAt?_eq_some_iff.mp hstatement
    exact ⟨(_, rest), first?_data_iff.mpr ⟨statement, text, hwritten, heq, rfl⟩, rfl⟩

lemma first?_data_eq_none_iff : data.first? [] cs = none ↔ dataStatementAt? cs = none := by
  rw [← Option.map_eq_none_iff (f := dataGroups), ← captures?_data, captures?, Option.map_eq_none_iff]

/-- **What is found in a text** is the directive at the first place where there is one, and it is the
directive that is recognised. -/
lemma search?_data {front : List Char} (h : data.search? cs = some (front, groups, rest)) :
    ∃ statement : DataStatement, ∃ text, statement.IsWritten text ∧ cs = front ++ (text ++ rest) ∧
      groups = dataGroups statement ∧ dataStatement? cs = some statement ∧
      ∀ (statement' : DataStatement) (front' text' rest' : List Char), statement'.IsWritten text' →
        cs = front' ++ (text' ++ rest') → front.length ≤ front'.length := by
  obtain ⟨behind, rfl, hfirst, hshortest⟩ := search?_eq_some_iff.mp h
  obtain ⟨statement, text, hwritten, rfl, rfl⟩ := first?_data_iff.mp hfirst
  have hnone : ∀ front' behind', front ++ (text ++ rest) = front' ++ behind' →
      front'.length < front.length → dataStatementAt? behind' = none :=
    fun front' behind' heq hshort =>
      first?_data_eq_none_iff.mp (hshortest front' behind' heq hshort)
  have hhere := dataStatementAt?_eq_some_iff.mpr ⟨text, rest, hwritten, rfl⟩
  refine ⟨statement, text, hwritten, rfl, rfl, dataStatement?_eq_some hhere hnone, ?_⟩
  intro statement' front' text' rest' hwritten' heq
  by_contra hshort
  have hthere := dataStatementAt?_eq_some_iff.mpr ⟨text', rest', hwritten', rfl⟩
  rw [hnone front' _ heq (Nat.lt_of_not_le hshort)] at hthere
  contradiction

/-- The recogniser looks at the places of a text as the pattern does. -/
lemma map_search?_data (cs : List Char) :
    (data.search? cs).map (fun found => found.2.1) = (dataStatement? cs).map dataGroups := by
  induction cs with
  | nil => rfl
  | cons c cs ih =>
    have hhere := captures?_data (c :: cs)
    rw [captures?] at hhere
    rw [search?, dataStatement?, Option.orElse_eq_orElse, Option.orElse_eq_or,
      Option.orElse_eq_orElse, Option.orElse_eq_or, Option.map_or, Option.map_or, ← ih, ← hhere,
      Option.map_map, Option.map_map]
    rfl

lemma isSome_search?_data_iff :
    (data.search? cs).isSome = true ↔ ∃ statement : DataStatement, ∃ front text rest,
      statement.IsWritten text ∧ cs = front ++ (text ++ rest) := by
  constructor
  · intro h
    obtain ⟨⟨front, groups, rest⟩, hsearch⟩ := Option.isSome_iff_exists.mp h
    obtain ⟨statement, text, hwritten, heq, -⟩ := search?_data hsearch
    exact ⟨statement, front, text, rest, hwritten, heq⟩
  · rintro ⟨statement, front, text, rest, hwritten, rfl⟩
    by_contra hnone
    rw [Bool.not_eq_true, Option.isSome_eq_false_iff, Option.isNone_iff_eq_none,
      search?_eq_none_iff] at hnone
    have hfirst : data.first? [] (text ++ rest) = some (dataGroups statement, rest) :=
      first?_data_iff.mpr ⟨statement, text, hwritten, rfl, rfl⟩
    rw [hnone front _ rfl] at hfirst
    contradiction

end Expression

end Claw.Source
