import Claw.DataType
import Claw.Proofs.Text.Margin
import Claw.Source.Line
import Claw.Stack
import Mathlib.Tactic.Common

/-!
# The lines that are read from a text

A line that was read from a text, as opposed to one that was put together by hand, is in the
category that its content has, and its content bears the category out: a data line holds a data
directive with a suffix that names a type, an instruction line holds an instruction whose input, if
it names one, is a stack, and a label line holds a label.

* `exists_eq_ofContent`: the form of a line that was read, and `processed_eq_false_of_mem`;
* `accepts_of_categoryOf`: what content is behind a category;
* `exists_type_of_dataStatement?`, `isStackLetter_of_instructionStatement?`: what the recognisers
  guarantee to the reader of tokens, which looks the suffix and the letter up in tables of its own;
* `Declares`: the type and the operand of a data line, which `exists_declares` provides;
  `exists_instructionStatement` and `exists_labelStatement` are the same for the other lines;
* `Operand.written` and `operandAt?_eq_some_iff`: the texts that operands are read off;
* `isValueChar_of_declares` and `quoted_of_declares`: the characters of a value list, and where a
  quoted string comes from.

Consumers: `Claw/Proofs/Overlong.lean`, `Claw/Proofs/Accounting.lean`, `Claw/Proofs/Agreement.lean`,
`Claw/Proofs/Values.lean`, `Claw/Proofs/Infinite.lean`, `Claw/Proofs/Recording.lean` and the files
under `Claw/Proofs/Program/` and `Claw/Proofs/Pattern/`.
-/

namespace Claw

lemma DataType.mem_all (type : DataType) : type ∈ DataType.all := by
  rcases type with ⟨⟨⟩ | ⟨⟩, ⟨⟩ | ⟨⟩ | ⟨⟩⟩ | ⟨⟩ | ⟨⟩ <;> decide

namespace Source

open Text (isGap takeWhile_append_eq dropWhile_append_eq)

/-! ## The form of a line -/

lemma getElem?_number (file : String) (start : Int) (contents : List String) (i : Nat) :
    (number file start contents)[i]? = contents[i]?.map (Line.ofContent file (start + i)) := by
  induction contents generalizing start i with
  | nil => simp [number]
  | cons content rest ih =>
    cases i with
    | zero => simp [number]
    | succ i =>
      have hplace : start + 1 + (i : Int) = start + ((i + 1 : Nat) : Int) := by
        push_cast
        omega
      simp only [number, List.getElem?_cons_succ, ih, hplace]

/-- The lines of a text are numbered from one on and known by their contents. -/
lemma exists_eq_ofContent {text file : String} {i : Nat} {line : Line}
    (h : (read text file)[i]? = some line) :
    ∃ content, (contents text)[i]? = some content ∧
      line = Line.ofContent file (1 + i) content := by
  rw [read, getElem?_number, Option.map_eq_some_iff] at h
  obtain ⟨content, hcontent, hline⟩ := h
  exact ⟨content, hcontent, hline.symm⟩

lemma exists_eq_ofContent_of_mem {text file : String} {line : Line}
    (h : line ∈ read text file) : ∃ number content, line = Line.ofContent file number content := by
  obtain ⟨i, hi⟩ := List.mem_iff_getElem?.mp h
  obtain ⟨content, -, hline⟩ := exists_eq_ofContent hi
  exact ⟨_, content, hline⟩

/-- There is something to be done about every line that is not empty. -/
lemma processed_eq_false_of_mem {text file : String} {line : Line} (h : line ∈ read text file)
    (hcategory : line.category ≠ .empty) : line.processed = false := by
  obtain ⟨number, content, rfl⟩ := exists_eq_ofContent_of_mem h
  exact beq_eq_false_iff_ne.mpr hcategory

/-! ## What is behind a category -/

/-- A category that carries code is that of one pattern only, and the content of the line matches
that pattern. -/
lemma accepts_of_categoryOf (pattern : Pattern) {content : String}
    (hcode : pattern.category ≠ .unknown) (h : categoryOf content = pattern.category) :
    pattern.accepts content.toList = true := by
  unfold categoryOf categoryBy at h
  split at h
  · exact absurd h.symm pattern.category_ne_empty
  · split at h
    · next found hfind =>
      have haccepts : found.accepts content.toList = true := by
        simpa using List.find?_some hfind
      have hsame : found = pattern := by
        cases found <;> cases pattern <;> simp_all [Pattern.category]
      exact hsame ▸ haccepts
    · exact absurd h.symm hcode

/-- A directive is tried before everything else, so it carries no code whatever it defines. -/
lemma categoryOf_of_isDirective {content : String} (h : isDirective content = true) :
    categoryOf content = .unknown := by
  have hhead : (defineDirective? content.toList).isSome = true ∨
      (undefineDirective? content.toList).isSome = true := by
    simpa [isDirective, directive?, Option.isSome_or] using h
  have hne : content.toList.isEmpty = false := by
    cases hcs : content.toList with
    | nil => simp [hcs, defineDirective?, undefineDirective?, behindKeyword?] at hhead
    | cons c cs => rfl
  rw [categoryOf, categoryBy, if_neg (by simp [hne])]
  by_cases hdefine : (defineDirective? content.toList).isSome = true
  · simp [Pattern.order, Pattern.accepts, hdefine, Pattern.category]
  · have hundefine := hhead.resolve_left hdefine
    simp [Pattern.order, List.find?, Pattern.accepts, hdefine, hundefine, Pattern.category]

/-! ## What the recognisers guarantee -/

/-- The spellings of a suffix that a data directive admits. -/
def suffixSpellings : List (List Char) :=
  ["8", "8U", "8u", "16", "16U", "16u", "32", "32U", "32u", "S", "s", "F", "f"].map String.toList

lemma takeUnsigned_fst (read cs : List Char) :
    (takeUnsigned read cs).1 = read ∨ (takeUnsigned read cs).1 = read ++ ['U'] ∨
      (takeUnsigned read cs).1 = read ++ ['u'] := by
  unfold takeUnsigned
  split <;> simp

lemma mem_suffixSpellings_of_takeSuffix? {cs suffix rest : List Char}
    (h : takeSuffix? cs = some (suffix, rest)) : suffix ∈ suffixSpellings := by
  have hwidth : ∀ read cs : List Char, takeUnsigned read cs = (suffix, rest) →
      suffix = read ∨ suffix = read ++ ['U'] ∨ suffix = read ++ ['u'] := by
    intro read cs heq
    have := takeUnsigned_fst read cs
    rwa [heq] at this
  unfold takeSuffix? at h
  split at h
  · rcases hwidth _ _ (Option.some.inj h) with rfl | rfl | rfl <;> decide
  · rcases hwidth _ _ (Option.some.inj h) with rfl | rfl | rfl <;> decide
  · rcases hwidth _ _ (Option.some.inj h) with rfl | rfl | rfl <;> decide
  · split at h
    · next hletter =>
      obtain ⟨rfl, -⟩ := Prod.mk.inj (Option.some.inj h)
      simp only [List.contains_eq_mem, decide_eq_true_eq, List.mem_cons, List.not_mem_nil,
        or_false] at hletter
      rcases hletter with rfl | rfl | rfl | rfl <;> decide
    · contradiction
  · contradiction

/-- A suffix is read off as a whole, unless the mark of an unsigned type follows it. -/
lemma takeSuffix?_append {suffix rest : List Char} (h : suffix ∈ suffixSpellings)
    (hrest : ∀ c ∈ rest.head?, c ≠ 'U' ∧ c ≠ 'u') :
    takeSuffix? (suffix ++ rest) = some (suffix, rest) := by
  have hplain : ∀ read, takeUnsigned read rest = (read, rest) := by
    intro read
    unfold takeUnsigned
    split
    · exact absurd rfl (hrest 'U' rfl).1
    · exact absurd rfl (hrest 'u' rfl).2
    · rfl
  simp only [suffixSpellings, List.map_cons, List.map_nil, List.mem_cons, List.not_mem_nil,
    or_false] at h
  rcases h with rfl | rfl | rfl | rfl | rfl | rfl | rfl | rfl | rfl | rfl | rfl | rfl | rfl
  · exact congrArg some (hplain ['8'])
  · rfl
  · rfl
  · exact congrArg some (hplain ['1', '6'])
  · rfl
  · rfl
  · exact congrArg some (hplain ['3', '2'])
  all_goals rfl

lemma exists_type_of_mem_suffixSpellings {suffix : List Char} (h : suffix ∈ suffixSpellings) :
    ∃ type, DataType.ofSuffix? (String.ofList suffix) = some type := by
  have hall : ∀ suffix ∈ suffixSpellings,
      (DataType.ofSuffix? (String.ofList suffix)).isSome = true := by decide
  exact Option.isSome_iff_exists.mp (hall suffix h)

lemma exists_type_of_dataStatementAt? {cs : List Char} {statement : DataStatement}
    (h : dataStatementAt? cs = some statement) :
    ∃ type, DataType.ofSuffix? statement.suffix = some type := by
  simp only [dataStatementAt?, Option.bind_eq_bind, Option.bind_eq_some_iff, Option.pure_def,
    Option.some.injEq] at h
  obtain ⟨behind, -, ⟨suffix, rest⟩, hsuffix, operand, -, rfl⟩ := h
  exact exists_type_of_mem_suffixSpellings (mem_suffixSpellings_of_takeSuffix? hsuffix)

lemma exists_type_of_dataStatement? {cs : List Char} {statement : DataStatement}
    (h : dataStatement? cs = some statement) :
    ∃ type, DataType.ofSuffix? statement.suffix = some type := by
  induction cs with
  | nil => simp [dataStatement?] at h
  | cons c cs ih =>
    rw [dataStatement?] at h
    cases hhead : dataStatementAt? (c :: cs) with
    | none => exact ih (by simpa [hhead] using h)
    | some found =>
      obtain rfl : found = statement := by simpa [hhead] using h
      exact exists_type_of_dataStatementAt? hhead

/-- The first data directive of the content is of the type and lists the operand. -/
def Declares (content : String) (type : DataType) (operand : Operand) : Prop :=
  ∃ suffix, dataStatement? content.toList = some ⟨suffix, operand⟩ ∧
    DataType.ofSuffix? suffix = some type

lemma exists_declares {content : String} (h : categoryOf content = .data) :
    ∃ type operand, Declares content type operand := by
  obtain ⟨⟨suffix, operand⟩, hstatement⟩ :=
    Option.isSome_iff_exists.mp (accepts_of_categoryOf .data (by decide) h)
  obtain ⟨type, htype⟩ := exists_type_of_dataStatement? hstatement
  exact ⟨type, operand, suffix, hstatement, htype⟩

/-! ## What a directive lists -/

lemma suffix_of_behindDirective? {cs rest : List Char} (h : behindDirective? cs = some rest) :
    rest <:+ cs := by
  unfold behindDirective? at h
  split at h
  · next d b cs =>
    split at h
    · obtain rfl := Option.some.inj h
      exact List.suffix_append ['.', d, b] cs
    · contradiction
  · contradiction

lemma suffix_takeUnsigned (read cs : List Char) : (takeUnsigned read cs).2 <:+ cs := by
  unfold takeUnsigned
  split
  · exact List.suffix_cons _ _
  · exact List.suffix_cons _ _
  · exact List.suffix_rfl

lemma suffix_of_takeSuffix? {cs suffix rest : List Char} (h : takeSuffix? cs = some (suffix, rest)) :
    rest <:+ cs := by
  have hwidth : ∀ read front behind : List Char, takeUnsigned read behind = (suffix, rest) →
      rest <:+ front ++ behind := by
    intro read front behind heq
    have hsuffix := suffix_takeUnsigned read behind
    rw [heq] at hsuffix
    exact hsuffix.trans (List.suffix_append _ _)
  unfold takeSuffix? at h
  split at h
  · exact hwidth _ ['8'] _ (Option.some.inj h)
  · exact hwidth _ ['1', '6'] _ (Option.some.inj h)
  · exact hwidth _ ['3', '2'] _ (Option.some.inj h)
  · split at h
    · obtain ⟨-, rfl⟩ := Prod.mk.inj (Option.some.inj h)
      exact List.suffix_cons _ _
    · contradiction
  · contradiction

lemma exists_operandAt? {cs : List Char} {statement : DataStatement}
    (h : dataStatement? cs = some statement) :
    ∃ rest, rest <:+ cs ∧ operandAt? rest = some statement.operand := by
  induction cs with
  | nil => simp [dataStatement?] at h
  | cons c cs ih =>
    rw [dataStatement?] at h
    cases hhead : dataStatementAt? (c :: cs) with
    | none =>
      obtain ⟨rest, hrest, hoperand⟩ := ih (by simpa [hhead] using h)
      exact ⟨rest, hrest.trans (List.suffix_cons _ _), hoperand⟩
    | some found =>
      obtain rfl : found = statement := by simpa [hhead] using h
      simp only [dataStatementAt?, Option.bind_eq_bind, Option.bind_eq_some_iff, Option.pure_def,
        Option.some.injEq] at hhead
      obtain ⟨behind, hbehind, ⟨suffix, rest⟩, hsuffix, operand, hoperand, rfl⟩ := hhead
      refine ⟨_, ?_, hoperand⟩
      exact (List.dropWhile_suffix _).trans
        ((suffix_of_takeSuffix? hsuffix).trans (suffix_of_behindDirective? hbehind))

/-- The text of an operand. -/
def Operand.written : Operand → List Char
  | .values raw => '(' :: (raw.toList ++ [')'])
  | .quoted text => '"' :: (text.toList ++ ['"'])

/-- Whether the characters of an operand are those that it may have. -/
def Operand.IsAdmitted : Operand → Prop
  | .values raw => ∀ c ∈ raw.toList, isValueChar c = true
  | .quoted text => '"' ∉ text.toList

/-- **Operands.** What is read off is the operand that the head of the text is written as. -/
lemma operandAt?_eq_some_iff {cs : List Char} {operand : Operand} :
    operandAt? cs = some operand ↔
      operand.IsAdmitted ∧ ∃ rest, cs = operand.written ++ rest := by
  have hdelimited : ∀ {p : Char → Bool} {close : Char} {behind : List Char},
      (behind.dropWhile p).head? = some close →
        ∃ rest, behind = behind.takeWhile p ++ close :: rest := by
    intro p close behind hclose
    obtain ⟨rest, heq⟩ := List.head?_eq_some_iff.mp hclose
    exact ⟨rest, by rw [← heq, List.takeWhile_append_dropWhile]⟩
  constructor
  · intro h
    unfold operandAt? at h
    split at h
    · split at h
      · next hclose =>
        obtain rfl := Option.some.inj h
        obtain ⟨rest, heq⟩ := hdelimited hclose
        refine ⟨fun c hc => ?_, rest, ?_⟩
        · rw [String.toList_ofList] at hc
          exact List.mem_takeWhile_imp hc
        · rw [Operand.written, String.toList_ofList, List.cons_append, List.append_assoc]
          exact congrArg _ heq
      · contradiction
    · split at h
      · next hclose =>
        obtain rfl := Option.some.inj h
        obtain ⟨rest, heq⟩ := hdelimited hclose
        refine ⟨fun hmem => ?_, rest, ?_⟩
        · rw [String.toList_ofList] at hmem
          simpa using List.mem_takeWhile_imp hmem
        · rw [Operand.written, String.toList_ofList, List.cons_append, List.append_assoc]
          exact congrArg _ heq
      · contradiction
    · contradiction
  · rintro ⟨hadmitted, rest, rfl⟩
    cases operand with
    | values raw =>
      have hclose : ∀ c ∈ (')' :: rest).head?, isValueChar c = false := by
        rintro c ⟨rfl⟩
        rfl
      have hadmitted : ∀ c ∈ raw.toList, isValueChar c = true := hadmitted
      rw [Operand.written, List.cons_append, List.append_assoc, List.singleton_append, operandAt?,
        dropWhile_append_eq hadmitted hclose, takeWhile_append_eq hadmitted hclose,
        String.ofList_toList]
      rfl
    | quoted text =>
      have hclose : ∀ c ∈ ('"' :: rest).head?, (c != '"') = false := by
        rintro c ⟨rfl⟩
        rfl
      have hinside : ∀ c ∈ text.toList, (c != '"') = true := by
        intro c hc
        simpa using fun heq : c = '"' => hadmitted (heq ▸ hc)
      rw [Operand.written, List.cons_append, List.append_assoc, List.singleton_append, operandAt?,
        dropWhile_append_eq hinside hclose, takeWhile_append_eq hinside hclose,
        String.ofList_toList]
      rfl

/-- The character at the head of an operand is neither a gap nor the mark of an unsigned type. -/
lemma Operand.exists_written_eq (operand : Operand) :
    ∃ c cs, operand.written = c :: cs ∧ (c = '(' ∨ c = '"') := by
  cases operand with
  | values raw => exact ⟨_, _, rfl, .inl rfl⟩
  | quoted text => exact ⟨_, _, rfl, .inr rfl⟩

lemma Operand.isGap_head (operand : Operand) (rest : List Char) :
    ∀ c ∈ (operand.written ++ rest).head?, isGap c = false := by
  obtain ⟨c, cs, hwritten, hc⟩ := operand.exists_written_eq
  rw [hwritten]
  rintro d ⟨rfl⟩
  rcases hc with rfl | rfl <;> rfl

lemma isValueChar_of_declares {content raw : String} {type : DataType}
    (h : Declares content type (.values raw)) : ∀ c ∈ raw.toList, isValueChar c = true := by
  obtain ⟨suffix, hstatement, -⟩ := h
  obtain ⟨rest, -, hoperand⟩ := exists_operandAt? hstatement
  exact (operandAt?_eq_some_iff.mp hoperand).1

/-- A quoted string is a part of the content and has no quote in it. -/
lemma quoted_of_declares {content text : String} {type : DataType}
    (h : Declares content type (.quoted text)) :
    text.toList <:+: content.toList ∧ '"' ∉ text.toList := by
  obtain ⟨suffix, hstatement, -⟩ := h
  obtain ⟨rest, hrest, hoperand⟩ := exists_operandAt? hstatement
  obtain ⟨hquote, behind, rfl⟩ := operandAt?_eq_some_iff.mp hoperand
  have hpart : text.toList <:+: Operand.written (.quoted text) ++ behind :=
    ⟨['"'], '"' :: behind, by simp [Operand.written]⟩
  exact ⟨hpart.trans hrest.isInfix, hquote⟩

/-! ## What the other lines hold -/

lemma exists_instructionStatement {content : String} (h : categoryOf content = .instruction) :
    ∃ statement, instructionStatement? content.toList = some statement :=
  Option.isSome_iff_exists.mp (accepts_of_categoryOf .instruction (by decide) h)

lemma exists_labelStatement {content : String} (h : categoryOf content = .label) :
    ∃ name, labelStatement? content.toList = some name :=
  Option.isSome_iff_exists.mp (accepts_of_categoryOf .label (by decide) h)

lemma Declares.unique {content : String} {type type' : DataType} {operand operand' : Operand}
    (h : Declares content type operand) (h' : Declares content type' operand') :
    type = type' ∧ operand = operand' := by
  obtain ⟨suffix, hstatement, htype⟩ := h
  obtain ⟨suffix', hstatement', htype'⟩ := h'
  obtain ⟨rfl, rfl⟩ : suffix = suffix' ∧ operand = operand' := by
    simpa using hstatement.symm.trans hstatement'
  exact ⟨Option.some.inj (htype.symm.trans htype'), rfl⟩

/-- The selectors are a letter of a stack and what is behind it, or there are none at all. -/
lemma selectors?_cases {cs : List Char} {input : Option Char} {output : List Char}
    (h : selectors? cs = some (input, output)) :
    (∃ letter, input = some letter ∧ isStackLetter letter = true) ∨ input = none ∧ output = [] := by
  unfold selectors? at h
  dsimp only at h
  split at h
  · simp_all
  · next c cs =>
    split at h
    · next hletter =>
      split at h
      · simp only [Option.some.injEq, Prod.mk.injEq] at h
        exact .inl ⟨c, h.1.symm, hletter⟩
      · contradiction
    · split at h
      · simp_all
      · contradiction

lemma selectors_of_instructionStatement? {cs : List Char} {statement : InstructionStatement}
    (h : instructionStatement? cs = some statement) :
    (∃ letter, statement.input = some letter ∧ isStackLetter letter = true) ∨
      statement.input = none ∧ statement.output = "" := by
  unfold instructionStatement? at h
  dsimp only at h
  split at h
  · contradiction
  · obtain ⟨⟨input, output⟩, hselectors, rfl⟩ := Option.map_eq_some_iff.mp h
    rcases selectors?_cases hselectors with hletter | ⟨hinput, houtput⟩
    · exact .inl hletter
    · exact .inr ⟨hinput, by simp [houtput]⟩

lemma isStackLetter_of_instructionStatement? {cs : List Char} {statement : InstructionStatement}
    {letter : Char} (h : instructionStatement? cs = some statement)
    (hinput : statement.input = some letter) : isStackLetter letter = true := by
  rcases selectors_of_instructionStatement? h with ⟨letter', hinput', hletter⟩ | ⟨hnone, -⟩
  · exact Option.some.inj (hinput.symm.trans hinput') ▸ hletter
  · cases hinput.symm.trans hnone

lemma eq_of_isStackLetter {letter : Char} (h : isStackLetter letter = true) :
    letter = 'A' ∨ letter = 'a' ∨ letter = 'B' ∨ letter = 'b' ∨ letter = 'C' ∨ letter = 'c' ∨
      letter = 'D' ∨ letter = 'd' := by
  simpa [isStackLetter] using h

lemma exists_stack_of_isStackLetter {letter : Char} (h : isStackLetter letter = true) :
    ∃ stack, Stack.ofName? (Text.uppercase (String.ofList [letter])) = some stack := by
  rcases eq_of_isStackLetter h with rfl | rfl | rfl | rfl | rfl | rfl | rfl | rfl
  · exact ⟨.a, rfl⟩
  · exact ⟨.a, rfl⟩
  · exact ⟨.b, rfl⟩
  · exact ⟨.b, rfl⟩
  · exact ⟨.c, rfl⟩
  · exact ⟨.c, rfl⟩
  · exact ⟨.d, rfl⟩
  · exact ⟨.d, rfl⟩

end Source

end Claw
