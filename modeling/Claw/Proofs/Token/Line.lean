import Claw.Proofs.Source.Reading
import Claw.Token.Reader

/-!
# What one line yields

The reader of tokens looks at a line once more after its category is known.  For each kind of line
that carries code this file says what comes out, so that no later proof unfolds the reader.

* `dataLine_of_declares` and `dataLine_of_not_declares`: a data line is read by its first directive;
* `valueTokens_cons_eq_ok`: what one field of a value list does.  It follows that every field is
  accounted for (`length_valueTokens`) and where everything comes from (`mem_valueTokens`);
* `input_cases` and `instructionLine_eq`: an instruction gives its token, or a diagnostic for its
  mnemonic, for its output or for both; its input is never at fault;
* `labelLine_of_labelStatement?`: a label gives its token when labels are emitted;
* `mem_dataLine`, `mem_instructionLine`, `labelLine_cases` and `mem_readLine`: what any line can
  yield, also one whose content does not bear its category out.
-/

namespace Claw

open Source (Line Declares)

/-! ## Data -/

lemma dataLine_of_declares {line : Line} {type : DataType} {operand : Source.Operand}
    (h : Declares line.content type operand) : dataLine line = operandTokens line type operand := by
  obtain ⟨suffix, hstatement, htype⟩ := h
  simp only [dataLine, hstatement, htype]

lemma dataLine_of_not_declares {line : Line}
    (h : ¬∃ type operand, Declares line.content type operand) :
    dataLine line =
      .ok ([], [diagnosticAt line .unrecognizedDataType "Invalid data type"]) := by
  unfold dataLine
  dsimp only
  split
  · rfl
  · next statement hstatement =>
    split
    · rfl
    · next type htype => exact absurd ⟨type, statement.operand, _, hstatement, htype⟩ h

/-- **What a field does.** The head of a value list gives a token in front of the tokens of the
others, or a diagnostic in front of their diagnostics. -/
lemma valueTokens_cons_eq_ok {line : Line} {type : DataType} {field : String}
    {rest : List String} {tokens : List Token} {diagnostics : List Diagnostic}
    (h : valueTokens line type (field :: rest) = .ok (tokens, diagnostics)) :
    ∃ tokens' diagnostics', valueTokens line type rest = .ok (tokens', diagnostics') ∧
      ((∃ datum, literal type field = .ok datum ∧
          tokens = tokenAt line (.data datum) :: tokens' ∧ diagnostics = diagnostics') ∨
        ∃ fault message, literal type field = .error fault ∧ fault.message = .ok message ∧
          tokens = tokens' ∧
          diagnostics = diagnosticAt line .malformedLiteral message :: diagnostics') := by
  rw [valueTokens] at h
  cases hrest : valueTokens line type rest with
  | error failure =>
    cases hliteral : literal type field with
    | ok datum => simp [hliteral, hrest, bind, Except.bind] at h
    | error fault =>
      cases hmessage : fault.message <;> simp [hliteral, hmessage, hrest, bind, Except.bind] at h
  | ok yielded =>
    refine ⟨yielded.1, yielded.2, rfl, ?_⟩
    cases hliteral : literal type field with
    | ok datum =>
      simp only [hliteral, hrest, bind, Except.bind, pure, Except.pure, Except.ok.injEq,
        Prod.mk.injEq] at h
      exact .inl ⟨datum, rfl, h.1.symm, h.2.symm⟩
    | error fault =>
      cases hmessage : fault.message with
      | error failure => simp [hliteral, hmessage, bind, Except.bind] at h
      | ok message =>
        simp only [hliteral, hmessage, hrest, bind, Except.bind, pure, Except.pure,
          Except.ok.injEq, Prod.mk.injEq] at h
        exact .inr ⟨fault, message, rfl, hmessage, h.1.symm, h.2.symm⟩

lemma length_valueTokens {line : Line} {type : DataType} {fields : List String}
    {tokens : List Token} {diagnostics : List Diagnostic}
    (h : valueTokens line type fields = .ok (tokens, diagnostics)) :
    tokens.length + diagnostics.length = fields.length := by
  induction fields generalizing tokens diagnostics with
  | nil =>
    obtain ⟨rfl, rfl⟩ := Prod.mk.inj (Except.ok.inj h)
    rfl
  | cons field rest ih =>
    obtain ⟨tokens', diagnostics', hrest, hfield⟩ := valueTokens_cons_eq_ok h
    have := ih hrest
    rcases hfield with ⟨datum, -, rfl, rfl⟩ | ⟨fault, message, -, -, rfl, rfl⟩ <;>
      simp only [List.length_cons] <;> omega

lemma mem_valueTokens {line : Line} {type : DataType} {fields : List String}
    {tokens : List Token} {diagnostics : List Diagnostic}
    (h : valueTokens line type fields = .ok (tokens, diagnostics)) :
    (∀ token ∈ tokens, ∃ field ∈ fields, ∃ datum, literal type field = .ok datum ∧
        token = tokenAt line (.data datum)) ∧
      ∀ diagnostic ∈ diagnostics, ∃ field ∈ fields, ∃ fault message,
        literal type field = .error fault ∧ fault.message = .ok message ∧
          diagnostic = diagnosticAt line .malformedLiteral message := by
  induction fields generalizing tokens diagnostics with
  | nil =>
    obtain ⟨rfl, rfl⟩ := Prod.mk.inj (Except.ok.inj h)
    simp
  | cons field rest ih =>
    obtain ⟨tokens', diagnostics', hrest, hfield⟩ := valueTokens_cons_eq_ok h
    obtain ⟨htokens, hdiagnostics⟩ := ih hrest
    have hbehind : ∀ token ∈ tokens', ∃ field' ∈ field :: rest, ∃ datum,
        literal type field' = .ok datum ∧ token = tokenAt line (.data datum) := by
      intro token hmem
      obtain ⟨field', hmem', hvalue⟩ := htokens token hmem
      exact ⟨field', List.mem_cons_of_mem _ hmem', hvalue⟩
    have hbehind' : ∀ diagnostic ∈ diagnostics', ∃ field' ∈ field :: rest, ∃ fault message,
        literal type field' = .error fault ∧ fault.message = .ok message ∧
          diagnostic = diagnosticAt line .malformedLiteral message := by
      intro diagnostic hmem
      obtain ⟨field', hmem', hfault⟩ := hdiagnostics diagnostic hmem
      exact ⟨field', List.mem_cons_of_mem _ hmem', hfault⟩
    rcases hfield with ⟨datum, hliteral, rfl, rfl⟩ | ⟨fault, message, hliteral, hmessage, rfl, rfl⟩
    · refine ⟨List.forall_mem_cons.mpr ⟨?_, hbehind⟩, hbehind'⟩
      exact ⟨field, List.mem_cons_self, datum, hliteral, rfl⟩
    · refine ⟨hbehind, List.forall_mem_cons.mpr ⟨?_, hbehind'⟩⟩
      exact ⟨field, List.mem_cons_self, fault, message, hliteral, hmessage, rfl⟩

/-- The wordings of what is wrong with the operand of a directive: that of a fault in a literal, or
what the type of the directive demands. -/
def IsOperandWording (message : String) : Prop :=
  (∃ fault : LiteralFault, fault.message = .ok message) ∨
    ∃ (type : DataType) (demand : String), message = type.directive ++ demand

/-- A directive of a known type gives values, and complaints about its operand. -/
lemma mem_operandTokens {line : Line} {type : DataType} {operand : Source.Operand}
    {tokens : List Token} {diagnostics : List Diagnostic}
    (h : operandTokens line type operand = .ok (tokens, diagnostics)) :
    (∀ token ∈ tokens, ∃ datum, token = tokenAt line (.data datum)) ∧
      ∀ diagnostic ∈ diagnostics, ∃ message,
        diagnostic = diagnosticAt line .malformedLiteral message ∧ IsOperandWording message := by
  have hvalues : ∀ raw, valueTokens line type (fields raw) = .ok (tokens, diagnostics) →
      (∀ token ∈ tokens, ∃ datum, token = tokenAt line (.data datum)) ∧
        ∀ diagnostic ∈ diagnostics, ∃ message,
          diagnostic = diagnosticAt line .malformedLiteral message ∧ IsOperandWording message := by
    intro raw hvalues
    obtain ⟨htokens, hdiagnostics⟩ := mem_valueTokens hvalues
    constructor
    · intro token hmem
      obtain ⟨-, -, datum, -, htoken⟩ := htokens token hmem
      exact ⟨datum, htoken⟩
    · intro diagnostic hmem
      obtain ⟨-, -, fault, message, -, hmessage, hdiagnostic⟩ := hdiagnostics diagnostic hmem
      exact ⟨message, hdiagnostic, .inl ⟨fault, hmessage⟩⟩
  -- a directive with an operand of the wrong kind gives one complaint and no value
  have hdemand : ∀ (type : DataType) demand, tokens = [] →
      diagnostics = [diagnosticAt line .malformedLiteral (type.directive ++ demand)] →
      (∀ token ∈ tokens, ∃ datum, token = tokenAt line (.data datum)) ∧
        ∀ diagnostic ∈ diagnostics, ∃ message,
          diagnostic = diagnosticAt line .malformedLiteral message ∧ IsOperandWording message := by
    rintro type demand rfl rfl
    refine ⟨by simp, List.forall_mem_singleton.mpr ⟨_, rfl, .inr ⟨type, demand, rfl⟩⟩⟩
  cases operand with
  | quoted text =>
    cases type <;> obtain ⟨rfl, rfl⟩ := Prod.mk.inj (Except.ok.inj h)
    · exact hdemand _ _ rfl rfl
    · exact hdemand _ _ rfl rfl
    · exact ⟨List.forall_mem_singleton.mpr ⟨_, rfl⟩, by simp⟩
  | values raw =>
    cases type with
    | string =>
      obtain ⟨rfl, rfl⟩ := Prod.mk.inj (Except.ok.inj h)
      exact hdemand .string " requires a quoted string" rfl rfl
    | integer type => exact hvalues raw h
    | single => exact hvalues raw h

/-! ## Instructions -/

/-- **The input of an instruction.** Either it is written down and a stack, whatever stands in for
one that is not, or the instruction names no stack at all and works on what stands in. -/
lemma input_cases {cs : List Char} {statement : Source.InstructionStatement}
    (h : Source.instructionStatement? cs = some statement) :
    (statement.input.isSome = true ∧ ∃ stack, ∀ standIn,
        selectStack (Text.uppercase (String.ofList statement.input.toList)) standIn =
          some stack) ∨
      statement.input = none ∧ statement.output = "" ∧ ∀ standIn,
        selectStack (Text.uppercase (String.ofList statement.input.toList)) standIn =
          standIn := by
  rcases Source.selectors_of_instructionStatement? h with
    ⟨letter, hletter, hstack⟩ | ⟨hnone, hempty⟩
  · obtain ⟨stack, hname⟩ := Source.exists_stack_of_isStackLetter hstack
    have hwritten : Text.uppercase (String.ofList [letter]) ≠ "" := by
      intro hblank
      have hnone : Stack.ofName? "" = none := by decide
      rw [hblank, hnone] at hname
      cases hname
    refine .inl ⟨by simp [hletter], stack, fun standIn => ?_⟩
    rw [hletter, Option.toList_some, selectStack, if_neg hwritten, hname]
  · exact .inr ⟨hnone, hempty, fun standIn => by rw [hnone]; rfl⟩

lemma exists_input {cs : List Char} {statement : Source.InstructionStatement}
    (h : Source.instructionStatement? cs = some statement) (standIn : Stack) :
    ∃ input, selectStack (Text.uppercase (String.ofList statement.input.toList)) (some standIn) =
      some input := by
  rcases input_cases h with ⟨-, stack, hinput⟩ | ⟨-, -, hinput⟩
  · exact ⟨stack, hinput _⟩
  · exact ⟨standIn, hinput _⟩

/-- The diagnostic for a mnemonic that is no instruction's. -/
def mnemonicFault (line : Line) (statement : Source.InstructionStatement) : Diagnostic :=
  diagnosticAt line .unknownMnemonic
    ("Unknown instruction: " ++ Text.uppercase statement.mnemonic)

/-- The diagnostic for an output that is no stack's. -/
def outputFault (line : Line) (statement : Source.InstructionStatement) : Diagnostic :=
  diagnosticAt line .unknownStack ("Unknown stack: " ++ Text.uppercase statement.output)

/-- An output without a stack has been written down, since one that is left out follows the
input. -/
lemma output_ne_empty {statement : Source.InstructionStatement} {input : Stack}
    (h : selectStack (Text.uppercase statement.output) (some input) = none) :
    Text.uppercase statement.output ≠ "" := by
  intro hname
  simp [selectStack, hname] at h

/-- **What an instruction yields.** Its input is a stack in any case, so only the mnemonic and the
output can be at fault. -/
lemma instructionLine_eq {options : Options} {line : Line}
    {statement : Source.InstructionStatement} {input : Stack}
    (h : Source.instructionStatement? line.content.toList = some statement)
    (hinput : selectStack (Text.uppercase (String.ofList statement.input.toList))
      (some options.defaultStack) = some input) :
    instructionLine options line =
      match Instruction.ofName? (Text.uppercase statement.mnemonic),
        selectStack (Text.uppercase statement.output) (some input) with
      | some operation, some output =>
        ([tokenAt line (.instruction operation input output)], [])
      | none, some _ => ([], [mnemonicFault line statement])
      | some _, none => ([], [outputFault line statement])
      | none, none => ([], [mnemonicFault line statement, outputFault line statement]) := by
  simp only [instructionLine, h, hinput]
  cases Instruction.ofName? (Text.uppercase statement.mnemonic) <;>
    cases houtput : selectStack (Text.uppercase statement.output) (some input)
  · simp [output_ne_empty houtput, mnemonicFault, outputFault]
  · simp [mnemonicFault]
  · simp [output_ne_empty houtput, outputFault]
  · rfl

lemma instructionLine_cases (options : Options) {line : Line}
    {statement : Source.InstructionStatement}
    (h : Source.instructionStatement? line.content.toList = some statement) :
    (∃ operation input output,
      instructionLine options line = ([tokenAt line (.instruction operation input output)], [])) ∨
    ∃ diagnostics, instructionLine options line = ([], diagnostics) ∧
      (diagnostics.length = 1 ∨ diagnostics.length = 2) := by
  obtain ⟨input, hinput⟩ := exists_input h options.defaultStack
  rw [instructionLine_eq h hinput]
  split
  · next operation output _ _ => exact .inl ⟨operation, input, output, rfl⟩
  · exact .inr ⟨_, rfl, .inl rfl⟩
  · exact .inr ⟨_, rfl, .inl rfl⟩
  · exact .inr ⟨_, rfl, .inr rfl⟩

/-! ## Labels -/

lemma labelLine_of_labelStatement? {options : Options} {line : Line} {name : Char} (position : Nat)
    (h : Source.labelStatement? line.content.toList = some name)
    (hemit : options.emitLabels = true) :
    labelLine options position line = [tokenAt line (.label name position)] := by
  simp only [labelLine, h, hemit, if_true]

lemma labelLine_cases (options : Options) (position : Nat) (line : Line) :
    labelLine options position line = [] ∨
      ∃ name, labelLine options position line = [tokenAt line (.label name position)] := by
  unfold labelLine
  split
  · next name hname =>
    split
    · exact .inr ⟨name, rfl⟩
    · exact .inl rfl
  · exact .inl rfl

/-! ## Any line -/

lemma mem_instructionLine (options : Options) (line : Line) :
    (∀ token ∈ (instructionLine options line).1, ∃ operation input output,
        token = tokenAt line (.instruction operation input output)) ∧
      ∀ diagnostic ∈ (instructionLine options line).2, ∃ kind message,
        diagnostic = diagnosticAt line kind message ∧ kind ≠ .unclassifiedLine := by
  cases hstatement : Source.instructionStatement? line.content.toList with
  | none => simp [instructionLine, hstatement, diagnosticAt]
  | some statement =>
    obtain ⟨input, hinput⟩ := exists_input hstatement options.defaultStack
    rw [instructionLine_eq hstatement hinput]
    split <;> simp [tokenAt, diagnosticAt, mnemonicFault, outputFault]

lemma mem_dataLine {line : Line} {tokens : List Token} {diagnostics : List Diagnostic}
    (h : dataLine line = .ok (tokens, diagnostics)) :
    (∀ token ∈ tokens, ∃ datum, token = tokenAt line (.data datum)) ∧
      ∀ diagnostic ∈ diagnostics, ∃ kind message,
        diagnostic = diagnosticAt line kind message ∧ kind ≠ .unclassifiedLine := by
  by_cases hdeclares : ∃ type operand, Declares line.content type operand
  · obtain ⟨type, operand, hdeclares⟩ := hdeclares
    rw [dataLine_of_declares hdeclares] at h
    obtain ⟨htokens, hdiagnostics⟩ := mem_operandTokens h
    refine ⟨htokens, fun diagnostic hmem => ?_⟩
    obtain ⟨message, hdiagnostic, -⟩ := hdiagnostics diagnostic hmem
    exact ⟨_, message, hdiagnostic, by decide⟩
  · rw [dataLine_of_not_declares hdeclares] at h
    obtain ⟨rfl, rfl⟩ := Prod.mk.inj (Except.ok.inj h)
    exact ⟨by simp, List.forall_mem_singleton.mpr ⟨_, _, rfl, by decide⟩⟩

/-- **What a line yields carries its place**, and no diagnostic of a line that is read says that the
line is of unknown category. -/
lemma mem_readLine {options : Options} {position : Nat} {line : Line} {tokens : List Token}
    {diagnostics : List Diagnostic}
    (h : readLine options position line = .ok (tokens, diagnostics)) :
    (∀ token ∈ tokens, ∃ item, token = tokenAt line item) ∧
      ∀ diagnostic ∈ diagnostics, ∃ kind message,
        diagnostic = diagnosticAt line kind message ∧ kind ≠ .unclassifiedLine := by
  rw [readLine] at h
  split at h
  · obtain ⟨htokens, hdiagnostics⟩ := mem_dataLine h
    refine ⟨fun token hmem => ?_, hdiagnostics⟩
    obtain ⟨datum, htoken⟩ := htokens token hmem
    exact ⟨_, htoken⟩
  · obtain ⟨htokens, hdiagnostics⟩ := mem_instructionLine options line
    rw [Except.ok.inj h] at htokens hdiagnostics
    refine ⟨fun token hmem => ?_, hdiagnostics⟩
    obtain ⟨operation, input, output, htoken⟩ := htokens token hmem
    exact ⟨_, htoken⟩
  · obtain ⟨rfl, rfl⟩ := Prod.mk.inj (Except.ok.inj h)
    rcases labelLine_cases options position line with hnone | ⟨name, hlabel⟩
    · simp [hnone]
    · rw [hlabel]
      exact ⟨List.forall_mem_singleton.mpr ⟨_, rfl⟩, by simp⟩
  · obtain ⟨rfl, rfl⟩ := Prod.mk.inj (Except.ok.inj h)
    simp
  · obtain ⟨rfl, rfl⟩ := Prod.mk.inj (Except.ok.inj h)
    simp

end Claw
