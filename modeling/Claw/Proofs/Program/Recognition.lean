import Claw.Proofs.Program.Rendering

/-!
# Statements are recognised

The content of a statement is recognised as what it is: `Statement.categoryOf_content` for the
category, and for the parts of the statement

* `Statement.declares_integers` and `Statement.declares_string`,
* `Statement.instructionStatement?_content`,
* `Statement.labelStatement?_content`.

A data directive is looked for anywhere on a line and before the other kinds of statement, so the
dot that starts it is what keeps it apart from them (`dataStatement?_eq_none`).

Consumed by `Claw/Proofs/Program/RoundTrip.lean`.
-/

namespace Claw

open Text (isWord isGap takeWhile_append_eq dropWhile_append_eq)

namespace Source

/-! ## What a line is not -/

/-- A directive starts with a number sign. -/
lemma directives_eq_none {c : Char} (cs : List Char) (h : c.toLower ≠ '#') :
    defineDirective? (c :: cs) = none ∧ undefineDirective? (c :: cs) = none := by
  have hkeyword : ∀ ks, behindKeyword? ('#' :: ks) (c :: cs) = none := fun ks => if_neg h
  have hdefine : "#define".toList = '#' :: "define".toList := rfl
  have hundefine : "#undef".toList = '#' :: "undef".toList := rfl
  constructor
  · rw [defineDirective?, hdefine, hkeyword]
    rfl
  · rw [undefineDirective?, hundefine, hkeyword]
    rfl

/-- Only a number sign has a number sign in lower case. -/
lemma toLower_ne_of_isWord {c : Char} (h : isWord c = true) : c.toLower ≠ '#' := by
  intro hlower
  unfold Char.toLower at hlower
  split at hlower
  · next hupper =>
    have hlarge : 65 ≤ c.val.toNat := hupper.1
    have hsmall : c.val.toNat ≤ 90 := hupper.2
    have hvalue : (c.val.toNat + 32) % 2 ^ 32 = 35 :=
      congrArg (fun c : Char => c.val.toNat) hlower
    omega
  · subst hlower
    exact absurd h (by decide)

/-- A data directive starts with a dot. -/
lemma dataStatement?_eq_none {cs : List Char} (h : '.' ∉ cs) : dataStatement? cs = none := by
  induction cs with
  | nil => rfl
  | cons c cs ih =>
    obtain ⟨hc, hcs⟩ := not_or.mp (List.mem_cons.not.mp h)
    have hbehind : behindDirective? (c :: cs) = none := by
      unfold behindDirective?
      split
      · next heq => exact absurd (List.cons.inj heq).1.symm hc
      · rfl
    have hhere : dataStatementAt? (c :: cs) = none := by
      rw [dataStatementAt?, hbehind]
      rfl
    rw [dataStatement?, hhere, ih hcs]
    rfl

/-- The category of a line that starts no directive. -/
lemma categoryOf_eq {content : String} {c : Char} {cs : List Char}
    (hcontent : content.toList = c :: cs) (hc : c.toLower ≠ '#') :
    categoryOf content =
      if (dataStatement? content.toList).isSome then .data
      else if (instructionStatement? content.toList).isSome then .instruction
      else if (labelStatement? content.toList).isSome then .label
      else .unknown := by
  obtain ⟨hdefine, hundefine⟩ := directives_eq_none cs hc
  rw [hcontent, categoryOf, hcontent, categoryBy, if_neg (by simp)]
  simp only [Pattern.order, List.find?, Pattern.accepts, hdefine, hundefine, Option.isSome_none]
  cases (dataStatement? (c :: cs)).isSome <;> cases (instructionStatement? (c :: cs)).isSome <;>
    cases (labelStatement? (c :: cs)).isSome <;> rfl

/-! ## Data directives -/

lemma ofSuffix?_suffix (type : DataType) : DataType.ofSuffix? type.suffix = some type := by
  have hall : ∀ type ∈ DataType.all, DataType.ofSuffix? type.suffix = some type := by decide
  exact hall type type.mem_all

lemma suffix_mem_suffixSpellings (type : DataType) : type.suffix.toList ∈ suffixSpellings := by
  have hall : ∀ type ∈ DataType.all, type.suffix.toList ∈ suffixSpellings := by decide
  exact hall type type.mem_all

lemma declares_of_written {content : String} {type : DataType} {operand : Operand}
    (hcontent : content.toList = '.' :: 'D' :: 'B' :: (type.suffix.toList ++ operand.written))
    (h : operand.IsAdmitted) : Declares content type operand := by
  refine ⟨type.suffix, ?_, ofSuffix?_suffix type⟩
  obtain ⟨c, cs, hwritten, hc⟩ := operand.exists_written_eq
  have hoperand : operandAt? (c :: cs) = some operand :=
    operandAt?_eq_some_iff.mpr ⟨h, [], by rw [hwritten, List.append_nil]⟩
  have hgap : isGap c = false := by rcases hc with rfl | rfl <;> rfl
  have hsuffix : takeSuffix? (type.suffix.toList ++ c :: cs) = some (type.suffix.toList, c :: cs) := by
    refine takeSuffix?_append (suffix_mem_suffixSpellings type) ?_
    rintro d ⟨rfl⟩
    rcases hc with rfl | rfl <;> decide
  have hbehind : behindDirective? content.toList = some (type.suffix.toList ++ c :: cs) := by
    rw [hcontent, hwritten]
    rfl
  have hhere : dataStatementAt? content.toList = some ⟨type.suffix, operand⟩ := by
    simp only [dataStatementAt?, hbehind, hsuffix, Option.bind_eq_bind, Option.bind_some,
      List.dropWhile_cons, hgap, hoperand, Bool.false_eq_true, if_false, String.ofList_toList]
    rfl
  rw [hcontent] at hhere ⊢
  rw [dataStatement?, hhere]
  rfl

/-! ## Instructions and labels -/

/-- A mnemonic and two letters, a space between each two. -/
lemma instructionStatement?_eq {mnemonic : List Char} {input output : Char}
    (hne : mnemonic ≠ []) (hmnemonic : ∀ c ∈ mnemonic, isWord c = true)
    (hinput : isStackLetter input = true) (houtput : isStackLetter output = true) :
    instructionStatement? (mnemonic ++ ' ' :: input :: ' ' :: [output]) =
      some ⟨String.ofList mnemonic, some input, String.ofList [output]⟩ := by
  have hspace : ∀ c ∈ (' ' :: input :: ' ' :: [output]).head?, isWord c = false := by
    rintro c ⟨rfl⟩
    rfl
  have hseparator : ∀ c, isStackLetter c = true → isSeparator c = false := by
    intro c hc
    rcases eq_of_isStackLetter hc with rfl | rfl | rfl | rfl | rfl | rfl | rfl | rfl <;> rfl
  have hselectors : selectors? (input :: ' ' :: [output]) = some (some input, [output]) := by
    have hfirst : isSeparator ' ' = true := rfl
    simp [selectors?, hinput, houtput, hseparator output houtput, hfirst, atEnd]
  have hbehind : (' ' :: input :: ' ' :: [output]).dropWhile isSeparator =
      input :: ' ' :: [output] := by
    rw [List.dropWhile_cons_of_pos rfl, List.dropWhile_cons_of_neg (by simp [hseparator _ hinput])]
  have hmnemonic' : mnemonic.isEmpty = false := by simpa using hne
  rw [instructionStatement?, takeWhile_append_eq hmnemonic hspace,
    dropWhile_append_eq hmnemonic hspace, hbehind, hselectors]
  simp [hmnemonic']

lemma instructionStatement?_label {c : Char} (h : isWord c = true) :
    instructionStatement? [c, ':'] = none := by
  have hcolon : isWord ':' = false := rfl
  have hseparator : isSeparator ':' = false := rfl
  have hletter : isStackLetter ':' = false := rfl
  simp [instructionStatement?, h, hcolon, hseparator, selectors?, hletter, atEnd]

lemma labelStatement?_label {c : Char} (h : isWord c = true) :
    labelStatement? [c, ':'] = some c := by
  simp [labelStatement?, h, atEnd]

end Source

/-! ## Statements -/

namespace Program

open Source (Declares)

variable {raw : String}

lemma declares_listDirective (type : DataType)
    (h : ∀ c ∈ raw.toList, Source.isValueChar c = true) :
    Declares (listDirective type raw) type (.values raw) :=
  Source.declares_of_written (toList_listDirective type raw) h

lemma categoryOf_listDirective (type : DataType)
    (h : ∀ c ∈ raw.toList, Source.isValueChar c = true) :
    Source.categoryOf (listDirective type raw) = .data := by
  obtain ⟨suffix, hstatement, -⟩ := declares_listDirective type h
  rw [Source.categoryOf_eq (toList_listDirective type raw) (by decide), hstatement]
  rfl

/-- A directive with a value list is a source of one line. -/
lemma read_listDirective (type : DataType) (file : String)
    (h : ∀ c ∈ raw.toList, Source.isValueChar c = true) :
    Source.read (listDirective type raw) file = [.ofContent file 1 (listDirective type raw)] := by
  rw [Source.read, contents_listDirective type h]
  rfl

namespace Statement

lemma declares_integers (type : IntegerType) (first : ListedInteger type)
    (others : List (ListedInteger type)) :
    Declares (integers type first others).content (.integer type)
      (.values (valueList (first :: others))) :=
  declares_listDirective (.integer type) (isValueChar_of_mem_valueList _)

lemma declares_string (text : PlainText) :
    Declares (string text).content .string (.quoted text.text) :=
  Source.declares_of_written (toList_content_string text) text.no_quote

lemma instructionStatement?_content (operation : Instruction) (input output : Stack) :
    Source.instructionStatement? (instruction operation input output).content.toList =
      some ⟨operation.name, input.name.toList.head?, output.name⟩ := by
  obtain ⟨letter, hinput, hletter⟩ := exists_letter input
  obtain ⟨letter', houtput, hletter'⟩ := exists_letter output
  rw [toList_content_instruction, hinput, houtput]
  have hread := Source.instructionStatement?_eq (name_ne_nil operation) (isWord_of_mem_name operation)
    hletter hletter'
  rw [← houtput, String.ofList_toList, String.ofList_toList] at hread
  rw [← houtput]
  exact hread

lemma labelStatement?_content (name : LabelName) :
    Source.labelStatement? (label name).content.toList = some name.name := by
  rw [toList_content_label, Source.labelStatement?_label name.isWord_name]

/-- The category of the line that holds the statement. -/
def category : Statement → Source.Category
  | integers .. => .data
  | string _ => .data
  | instruction .. => .instruction
  | label _ => .label

lemma dot_not_mem_content {statement : Statement} (h : statement.category ≠ .data) :
    '.' ∉ statement.content.toList := by
  cases statement with
  | integers => exact absurd rfl h
  | string => exact absurd rfl h
  | instruction operation input output =>
    have hstack : ∀ stack : Stack, '.' ∉ stack.name.toList := by
      intro stack
      cases stack <;> decide
    have hname : '.' ∉ operation.name.toList := fun hmem =>
      absurd (isWord_of_mem_name operation _ hmem) (by decide)
    rw [toList_content_instruction]
    simp [hname, hstack]
  | label name =>
    have hname : '.' ≠ name.name := fun heq => absurd name.isWord_name (heq ▸ by decide)
    rw [toList_content_label]
    simp [hname]

/-- **Statements are recognised.** -/
lemma categoryOf_content (statement : Statement) :
    Source.categoryOf statement.content = statement.category := by
  cases statement with
  | integers type first others =>
    exact categoryOf_listDirective (.integer type) (isValueChar_of_mem_valueList _)
  | string text =>
    obtain ⟨suffix, hstatement, -⟩ := declares_string text
    rw [Source.categoryOf_eq (toList_content_string text) (by decide), hstatement]
    rfl
  | instruction operation input output =>
    obtain ⟨c, cs, hname⟩ := List.exists_cons_of_ne_nil (name_ne_nil operation)
    have hc : isWord c = true := isWord_of_mem_name operation c (by simp [hname])
    have hcontent := toList_content_instruction operation input output
    rw [hname, List.cons_append] at hcontent
    rw [Source.categoryOf_eq hcontent (Source.toLower_ne_of_isWord hc),
      Source.dataStatement?_eq_none (dot_not_mem_content (by simp [category])),
      instructionStatement?_content]
    rfl
  | label name =>
    have hcontent := toList_content_label name
    rw [Source.categoryOf_eq hcontent (Source.toLower_ne_of_isWord name.isWord_name),
      Source.dataStatement?_eq_none (dot_not_mem_content (by simp [category])),
      labelStatement?_content, hcontent, Source.instructionStatement?_label name.isWord_name]
    rfl

end Statement

end Program

end Claw
