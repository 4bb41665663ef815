import Claw.Proofs.Correspondence

/-!
# The reader agrees with the categories

A line that was read from a text got its category from its content, and the reader of tokens looks
at the content once more.  The two agree, so that of the diagnostics that the reader has for lines it
cannot make out some never arise: only lines that were put together by hand can meet them.

* `Complaint` lists the diagnostics that do arise at a line of a text, each with what is wrong with
  the line, and `complaint_of_ofLine` shows the list to be complete.
* `HasInput`: the input of an instruction is left out or names a stack, which is why no complaint is
  about an input.
* `message_ne_malformed`: no complaint is worded as that about a line that is no instruction.

`reading_agrees` puts this together for whole sources.
-/

namespace Claw

open Source (Line Declares)

/-- Whether the input of an instruction, if it names one, is a stack. -/
def HasInput (statement : Source.InstructionStatement) : Prop :=
  ∀ letter, statement.input = some letter →
    ∃ stack, Stack.ofName? (Text.uppercase (String.ofList [letter])) = some stack

/-- The diagnostics that arise at a line of a text under the given options. -/
inductive Complaint (options : Options) (line : Line) : Diagnostic → Prop
  /-- The operand of a data directive is not what its type demands. -/
  | operand (message : String) (data : line.category = .data)
      (worded : IsOperandWording message) :
      Complaint options line (diagnosticAt line .malformedLiteral message)
  /-- The mnemonic is none of the instructions. -/
  | mnemonic (statement : Source.InstructionStatement)
      (recognised : Source.instructionStatement? line.content.toList = some statement)
      (unknown : Instruction.ofName? (Text.uppercase statement.mnemonic) = none) :
      Complaint options line (mnemonicFault line statement)
  /-- The output is none of the stacks; there is nothing wrong with the input. -/
  | output (statement : Source.InstructionStatement)
      (recognised : Source.instructionStatement? line.content.toList = some statement)
      (input : HasInput statement)
      (unknown : Stack.ofName? (Text.uppercase statement.output) = none) :
      Complaint options line (outputFault line statement)
  /-- The line is of unknown category, and such lines are reported. -/
  | unclassified (unknown : line.category = .unknown)
      (demanded : options.reportUnknown = true) :
      Complaint options line (unclassified line)

/-! ## What the recognisers leave to complain about -/

lemma hasInput_of_instructionStatement? {cs : List Char}
    {statement : Source.InstructionStatement}
    (h : Source.instructionStatement? cs = some statement) : HasInput statement := by
  intro letter hinput
  exact Source.exists_stack_of_isStackLetter (Source.isStackLetter_of_instructionStatement? h hinput)

/-- The one thing that an instruction's diagnostics can be about besides its mnemonic is its
output. -/
lemma complaint_of_mem_instructionLine {options : Options} {line : Line} {diagnostic : Diagnostic}
    {statement : Source.InstructionStatement}
    (h : Source.instructionStatement? line.content.toList = some statement)
    (hmem : diagnostic ∈ (instructionLine options line).2) :
    Complaint options line diagnostic := by
  obtain ⟨input, hinput⟩ := exists_input h options.defaultStack
  have hmnemonic : Instruction.ofName? (Text.uppercase statement.mnemonic) = none →
      Complaint options line (mnemonicFault line statement) := .mnemonic statement h
  have houtput : selectStack (Text.uppercase statement.output) (some input) = none →
      Complaint options line (outputFault line statement) := by
    intro hnone
    refine .output statement h (hasInput_of_instructionStatement? h) ?_
    simpa [selectStack, output_ne_empty hnone] using hnone
  rw [instructionLine_eq h hinput] at hmem
  split at hmem
  · simp at hmem
  · next hunknown _ =>
    rw [List.mem_singleton.mp hmem]
    exact hmnemonic hunknown
  · next hnone =>
    rw [List.mem_singleton.mp hmem]
    exact houtput hnone
  · next hunknown hnone =>
    rcases List.mem_pair.mp hmem with rfl | rfl
    · exact hmnemonic hunknown
    · exact houtput hnone

/-- **The list is complete.** A diagnostic of the step at a line of a text is a complaint. -/
lemma complaint_of_ofLine {options : Options} {index position : Nat} {file content : String}
    {number : Int} {step : Tokenization} {diagnostic : Diagnostic}
    (h : Tokenization.ofLine options index position (.ofContent file number content) = .ok step)
    (hmem : diagnostic ∈ step.diagnostics) :
    Complaint options (.ofContent file number content) diagnostic := by
  rcases Tokenization.ofLine_cases h with ⟨rfl, -⟩ | ⟨rfl, -, hcategory, hreported⟩ |
    ⟨tokens, diagnostics, rfl, -, hknown, hread⟩
  · cases hmem
  · rw [List.mem_singleton.mp hmem]
    exact .unclassified hcategory (isReported_iff.mp hreported).1
  · replace hmem : diagnostic ∈ diagnostics := by
      simpa [Tokenization.handle, Tokenization.empty] using hmem
    cases hcategory : Source.categoryOf content with
    | data =>
      obtain ⟨type, operand, hdeclares⟩ := Source.exists_declares hcategory
      have hdata : dataLine (.ofContent file number content) =
          operandTokens (.ofContent file number content) type operand :=
        dataLine_of_declares hdeclares
      have hyielded : operandTokens (.ofContent file number content) type operand =
          .ok (tokens, diagnostics) := by
        rw [← hdata]
        simpa [readLine, Line.ofContent, hcategory] using hread
      obtain ⟨message, rfl, hworded⟩ := (mem_operandTokens hyielded).2 diagnostic hmem
      exact .operand message hcategory hworded
    | instruction =>
      obtain ⟨statement, hstatement⟩ := Source.exists_instructionStatement hcategory
      have hyielded : instructionLine options (.ofContent file number content) =
          (tokens, diagnostics) := by
        simpa [readLine, Line.ofContent, hcategory] using hread
      refine complaint_of_mem_instructionLine hstatement ?_
      rwa [hyielded]
    | unknown => exact absurd hcategory hknown
    | _ =>
      -- neither a label nor an empty line gives diagnostics
      simp only [readLine, Line.ofContent, hcategory, Except.ok.injEq, Prod.mk.injEq] at hread
      rw [← hread.2] at hmem
      cases hmem

/-! ## How complaints are worded -/

lemma head?_message_ne {fault : LiteralFault} {message : String}
    (h : fault.message = .ok message) : message.toList.head? ≠ some 'M' := by
  cases fault with
  | outOfRange type value =>
    cases hshown : Numeral.boundedText value with
    | error failure => simp [LiteralFault.message, hshown, Except.map] at h
    | ok shown =>
      simp only [LiteralFault.message, hshown, Except.map, Except.ok.injEq] at h
      simp [← h, String.toList_append]
  | _ =>
    obtain rfl := Except.ok.inj h
    simp [String.toList_append]

lemma head?_ne_of_complaint {options : Options} {line : Line} {diagnostic : Diagnostic}
    (h : Complaint options line diagnostic) : diagnostic.message.toList.head? ≠ some 'M' := by
  cases h with
  | operand message data worded =>
    rcases worded with ⟨fault, hmessage⟩ | ⟨type, demand, rfl⟩
    · exact head?_message_ne hmessage
    · simp [diagnosticAt, DataType.directive, String.toList_append]
  | mnemonic => simp [mnemonicFault, diagnosticAt, String.toList_append]
  | output => simp [outputFault, diagnosticAt, String.toList_append]
  | unclassified => simp [unclassified, diagnosticAt, String.toList_append]

lemma message_ne_malformed {options : Options} {line : Line} {diagnostic : Diagnostic}
    (h : Complaint options line diagnostic) (content : String) :
    diagnostic.message ≠ "Malformed instruction: " ++ content := by
  intro hmessage
  refine head?_ne_of_complaint h ?_
  simp [hmessage, String.toList_append]

lemma kind_of_complaint {options : Options} {line : Line} {diagnostic : Diagnostic}
    (h : Complaint options line diagnostic) :
    diagnostic.kind = .malformedLiteral ∨ diagnostic.kind = .unknownMnemonic ∨
      diagnostic.kind = .unknownStack ∨
        diagnostic.kind = .unclassifiedLine ∧ options.reportUnknown = true := by
  cases h with
  | operand => exact .inl rfl
  | mnemonic => exact .inr (.inl rfl)
  | output => exact .inr (.inr (.inl rfl))
  | unclassified unknown demanded => exact .inr (.inr (.inr ⟨rfl, demanded⟩))

/-! ## Whole sources -/

section Sources

variable {options : Options} {text file : String} {result : Tokenization}

/-- Every diagnostic of a source is a complaint about one of its lines. -/
lemma exists_complaint {diagnostic : Diagnostic}
    (h : (Tokenization.ofLinesFrom options 0 0 (Source.read text file)).outcome = .ok result)
    (hmem : diagnostic ∈ result.diagnostics) :
    ∃ line ∈ Source.read text file, Complaint options line diagnostic := by
  rw [(Tokenization.tokens_of_ofLinesFrom h).2, List.mem_flatMap] at hmem
  obtain ⟨yield, hyield, hmem⟩ := hmem
  obtain ⟨i, line, position, step, -, hline, hstep, hstepped⟩ :=
    Tokenization.exists_step_of_mem_yields h hyield
  obtain ⟨content, -, rfl⟩ := Source.exists_eq_ofContent hline
  refine ⟨_, List.mem_of_getElem? hline, complaint_of_ofLine hstep ?_⟩
  rw [(Tokenization.tokens_of_ofLine hstep).2, List.mem_flatMap]
  exact ⟨yield, hstepped, hmem⟩

/-- A label line of a source yields its label, if labels become tokens, and nothing else. -/
lemma yieldAt?_of_label {i : Nat} {line : Line} {name : Char}
    (h : (Tokenization.ofLinesFrom options 0 0 (Source.read text file)).outcome = .ok result)
    (hline : (Source.read text file)[i]? = some line) (hcategory : line.category = .label)
    (hname : Source.labelStatement? line.content.toList = some name)
    (hemit : options.emitLabels = true) :
    ∃ position, result.yieldAt? i = some ⟨i, [tokenAt line (.label name position)], []⟩ := by
  have hprocessed : line.processed = false :=
    Source.processed_eq_false_of_mem (List.mem_of_getElem? hline) (by simp [hcategory])
  obtain ⟨position, tokens, diagnostics, hread, hyield⟩ :=
    Tokenization.exists_yieldAt? h hline hprocessed (by simp [hcategory])
  rw [readLine, hcategory] at hread
  dsimp only at hread
  rw [labelLine_of_labelStatement? position hname hemit] at hread
  obtain ⟨rfl, rfl⟩ := Prod.mk.inj (Except.ok.inj hread)
  exact ⟨position, hyield⟩

end Sources

/-- **The reader agrees with the categories.** No diagnostic of a source is about an unrecognised
type, a malformed instruction or an input; every diagnostic is a complaint about a line of the
source and is of one of four kinds, the last of them on demand only.  Every data line holds a
directive of a type, every instruction line an instruction with a proper input, and every label line
a label, which is the one thing that it yields where labels become tokens. -/
theorem reading_agrees (options : Options) (text file : String) (result : Tokenization)
    (h : (Tokenization.ofLines options (Source.read text file)).outcome = .ok result) :
    (∀ diagnostic ∈ result.diagnostics,
      diagnostic.kind ≠ .unrecognizedDataType ∧
      (∀ content, diagnostic.message ≠ "Malformed instruction: " ++ content) ∧
      (diagnostic.kind = .unknownStack → ∃ line ∈ Source.read text file, ∃ statement,
        Source.instructionStatement? line.content.toList = some statement ∧
        HasInput statement ∧ Stack.ofName? (Text.uppercase statement.output) = none ∧
        diagnostic = outputFault line statement) ∧
      (diagnostic.kind = .malformedLiteral ∨ diagnostic.kind = .unknownMnemonic ∨
        diagnostic.kind = .unknownStack ∨
          diagnostic.kind = .unclassifiedLine ∧ options.reportUnknown = true)) ∧
    ∀ (i : Nat) line, (Source.read text file)[i]? = some line →
      (line.category = .data → ∃ type operand, Declares line.content type operand) ∧
      (line.category = .instruction → ∃ statement,
        Source.instructionStatement? line.content.toList = some statement ∧ HasInput statement) ∧
      (line.category = .label → ∃ name, Source.labelStatement? line.content.toList = some name ∧
        (options.emitLabels = true → ∃ position,
          result.yieldAt? i = some ⟨i, [tokenAt line (.label name position)], []⟩)) := by
  rw [Tokenization.outcome_ofLines] at h
  constructor
  · intro diagnostic hmem
    obtain ⟨line, hline, hcomplaint⟩ := exists_complaint h hmem
    have hkind := kind_of_complaint hcomplaint
    refine ⟨?_, message_ne_malformed hcomplaint, ?_, hkind⟩
    · rcases hkind with hkind | hkind | hkind | ⟨hkind, -⟩ <;> rw [hkind] <;> decide
    · intro hstack
      cases hcomplaint with
      | output statement recognised input unknown =>
        exact ⟨line, hline, statement, recognised, input, unknown, rfl⟩
      | _ => cases hstack
  · intro i line hline
    refine ⟨?_, ?_, ?_⟩
    · obtain ⟨content, -, rfl⟩ := Source.exists_eq_ofContent hline
      exact Source.exists_declares
    · obtain ⟨content, -, rfl⟩ := Source.exists_eq_ofContent hline
      intro hcategory
      obtain ⟨statement, hstatement⟩ := Source.exists_instructionStatement hcategory
      exact ⟨statement, hstatement, hasInput_of_instructionStatement? hstatement⟩
    · intro hcategory
      obtain ⟨name, hname⟩ : ∃ name, Source.labelStatement? line.content.toList = some name := by
        obtain ⟨content, -, rfl⟩ := Source.exists_eq_ofContent hline
        exact Source.exists_labelStatement hcategory
      exact ⟨name, hname, yieldAt?_of_label h hline hcategory hname⟩

/-- The agreement at a source with a label and a complaint of every kind. -/
theorem reading_agrees_every_kind :
    ∃ result, (Tokenization.ofLines { emitLabels := true, reportUnknown := true }
        (Source.read "X:\n.DB8(1, -)\nFOO A BC\n???" "")).outcome = .ok result ∧
      result.diagnostics.map Diagnostic.kind =
        [.malformedLiteral, .unknownMnemonic, .unknownStack, .unclassifiedLine] ∧
      ∀ diagnostic ∈ result.diagnostics, diagnostic.kind ≠ .unrecognizedDataType :=
  have hagrees := reading_agrees { emitLabels := true, reportUnknown := true }
    "X:\n.DB8(1, -)\nFOO A BC\n???" "" _ rfl
  ⟨_, rfl, rfl, fun diagnostic hmem => (hagrees.1 diagnostic hmem).1⟩

end Claw
