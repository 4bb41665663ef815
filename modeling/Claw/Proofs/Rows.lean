import Claw.Proofs.Grammar.Instruction
import Claw.Proofs.Infinite
import Claw.Proofs.Memory
import Claw.Proofs.Numeral.Written
import Claw.Proofs.Recording
import Claw.Proofs.Text.Uppercase

/-!
# One row for each token and each diagnostic

A listing and a report are read by their lines.  What stands in a row comes from the source: the
text of a string, the name of a label, a literal that cannot be read, a mnemonic in capitals, a
whole line.  A single line break among these would shift every row behind it.

There is none, since a line of a source has none (`Source.IsClean.no_break`) and nothing on the way
from a line to a row makes one.  `Text.IsUnbroken` is carried along that way:

* through numbers, directives and the wording of faults, which bring only what they quote of the
  literal: `quoted_of_literal`, `isUnbroken_of_literal`;
* through the three kinds of lines that yield anything, with uppercase on the way
  (`Text.mem_of_isBlank_of_mem_upper`): `AreUnbroken`, `areUnbroken_readLine`;
* over the lines of a source, together with the places of what they yield: `LineYield.IsOf`,
  `isOf_of_mem_yields`;
* into the rows, which come apart as they were put together: `rows_listing`, `rows_errorReport` by
  `Text.rows_joinLines`.

The rows are in the order of the lines because the yields are (`pairwise_flatMap_line`).  The number
of a line can be shown as long as there are not too many lines for the limit on decimal numerals
(`boundedText_line`).  `listing_and_report` puts this together.
-/

namespace Claw

open Source (Line Declares)
open Text (IsUnbroken isUnbroken_append isUnbroken_ofList)

/-! ## Numbers -/

namespace Numeral

lemma break_not_mem_toDigits (n : Nat) : '\n' ∉ Nat.toDigits 10 n := fun h =>
  absurd (Nat.isDigit_of_mem_toDigits (by decide) (by decide) h) (by decide)

lemma isUnbroken_naturalText (n : Nat) : IsUnbroken (naturalText n) :=
  isUnbroken_ofList.mpr (break_not_mem_toDigits n)

lemma isUnbroken_integerText (n : Int) : IsUnbroken (integerText n) := by
  rw [integerText]
  split_ifs
  · exact isUnbroken_append.mpr ⟨by decide, isUnbroken_naturalText _⟩
  · exact isUnbroken_naturalText _

lemma isUnbroken_of_boundedText {n : Int} {shown : String} (h : boundedText n = .ok shown) :
    IsUnbroken shown := by
  rw [boundedText] at h
  split_ifs at h
  obtain rfl := Except.ok.inj h
  exact isUnbroken_integerText n

end Numeral

namespace Binary

lemma break_not_mem_significant (coefficient : Nat) : '\n' ∉ significant coefficient := by
  rw [significant, List.mem_reverse]
  intro h
  have := (List.dropWhile_suffix _).subset h
  exact Numeral.break_not_mem_toDigits _ (List.mem_reverse.mp this)

lemma break_not_mem_exponentText (layout : Layout) (e : Int) :
    '\n' ∉ layout.exponentText e := by
  rw [Layout.exponentText, List.mem_cons, not_or, Numeral.paddedDigits, List.mem_append, not_or]
  exact ⟨by split_ifs <;> decide, by simp, Numeral.break_not_mem_toDigits _⟩

/-- Around digits there are zeros, a point and an exponent. -/
lemma break_not_mem_layout {digits : List Char} (h : '\n' ∉ digits) (layout : Layout) (e : Int) :
    '\n' ∉ layout.text digits e := by
  have htake : ∀ n, '\n' ∉ digits.take n := fun n hmem => h (List.mem_of_mem_take hmem)
  have hdrop : ∀ n, '\n' ∉ digits.drop n := fun n hmem => h (List.mem_of_mem_drop hmem)
  unfold Layout.text
  dsimp only
  split_ifs
  · simp [h]
  · simp [htake]
  · simp [htake, hdrop]
  · split
    · next first second rest =>
      simpa [break_not_mem_exponentText] using h
    · simp [break_not_mem_exponentText, h]

lemma break_not_mem_magnitudeText (rank : Nat) : '\n' ∉ magnitudeText rank := by
  unfold magnitudeText
  split_ifs
  · decide
  · exact break_not_mem_layout (break_not_mem_significant _) _ _

lemma isUnbroken_text (x : Number double) : IsUnbroken x.text := by
  cases x with
  | nan => decide
  | infinite negative => cases negative <;> decide
  | finite negative rank =>
    rw [Number.text, isUnbroken_ofList]
    cases negative
    · simpa using break_not_mem_magnitudeText rank
    · simpa using break_not_mem_magnitudeText rank

end Binary

/-! ## Literals -/

lemma DataType.isUnbroken_directive (type : DataType) : IsUnbroken type.directive := by
  have hall : ∀ type ∈ DataType.all, IsUnbroken type.directive := by decide
  exact hall type type.mem_all

/-- Of a value only a string brings its own text. -/
lemma Datum.isUnbroken_text {datum : Datum} (h : ∀ text, datum = .string text → IsUnbroken text) :
    IsUnbroken datum.text := by
  unfold Datum.text
  rw [isUnbroken_append, isUnbroken_append]
  refine ⟨⟨datum.type.isUnbroken_directive, by decide⟩, ?_⟩
  cases datum with
  | integer type value => exact Numeral.isUnbroken_integerText value
  | single value => exact Binary.isUnbroken_text value
  | string text =>
    rw [isUnbroken_append, isUnbroken_append]
    exact ⟨⟨by decide, h text rfl⟩, by decide⟩

/-- What the wording of a fault quotes of the literal. -/
def LiteralFault.quoted : LiteralFault → String
  | .notNumeric text | .notInteger text | .notReal text => text
  | .empty | .outOfRange .. | .overflow _ => ""

lemma quoted_of_integerLiteral {field : String} {fault : LiteralFault}
    (h : integerLiteral field = .error fault) :
    fault.quoted = "" ∨ fault.quoted = Text.trimmed field := by
  unfold integerLiteral at h
  dsimp only at h
  split_ifs at h
  · obtain rfl := Except.error.inj h
    exact .inl rfl
  · split at h
    · cases h
    · obtain rfl := Except.error.inj h
      exact .inr rfl

lemma quoted_of_singleLiteral {field : String} {fault : LiteralFault}
    (h : singleLiteral field = .error fault) :
    fault.quoted = "" ∨ fault.quoted = Text.trimmed field := by
  unfold singleLiteral roundToSingle at h
  dsimp only at h
  split at h
  · split at h
    · cases h
    · obtain rfl := Except.error.inj h
      exact .inl rfl
  · obtain rfl := Except.error.inj h
    exact .inr rfl

/-- A fault quotes the literal without its margins, if it quotes anything. -/
lemma quoted_of_literal {type : DataType} {field : String} {fault : LiteralFault}
    (h : literal type field = .error fault) :
    fault.quoted = "" ∨ fault.quoted = Text.trimmed field := by
  unfold literal at h
  split at h
  · cases h
  · split_ifs at h
    · obtain rfl := Except.error.inj h
      exact .inr rfl
    · cases hsingle : singleLiteral field with
      | ok value =>
        rw [hsingle] at h
        cases h
      | error other =>
        rw [hsingle] at h
        obtain rfl := Except.error.inj h
        exact quoted_of_singleLiteral hsingle
  · split_ifs at h
    · obtain rfl := Except.error.inj h
      exact .inr rfl
    · cases hinteger : integerLiteral field with
      | ok value =>
        rw [hinteger] at h
        simp only [bind, Except.bind] at h
        split_ifs at h
        obtain rfl := Except.error.inj h
        exact .inl rfl
      | error other =>
        rw [hinteger] at h
        obtain rfl := Except.error.inj h
        exact quoted_of_integerLiteral hinteger

/-- The rest of the wording is numbers and names. -/
lemma LiteralFault.isUnbroken_message {fault : LiteralFault} {wording : String}
    (hquoted : IsUnbroken fault.quoted) (h : fault.message = .ok wording) : IsUnbroken wording := by
  cases fault with
  | outOfRange type value =>
    cases hshown : Numeral.boundedText value with
    | error failure =>
      rw [message, hshown] at h
      cases h
    | ok shown =>
      rw [message, hshown] at h
      obtain rfl := Except.ok.inj h
      simp only [isUnbroken_append, Numeral.isUnbroken_of_boundedText hshown,
        DataType.isUnbroken_directive, Numeral.isUnbroken_integerText, and_true]
      decide
  | overflow value =>
    obtain rfl := Except.ok.inj h
    simp only [isUnbroken_append, Binary.isUnbroken_text, and_true]
    decide
  | empty =>
    obtain rfl := Except.ok.inj h
    decide
  | notNumeric text | notInteger text | notReal text =>
    obtain rfl := Except.ok.inj h
    exact isUnbroken_append.mpr ⟨by decide, hquoted⟩

lemma isUnbroken_of_literal {type : DataType} {field : String} (hfield : IsUnbroken field) :
    (∀ datum, literal type field = .ok datum → IsUnbroken datum.text) ∧
      ∀ fault wording, literal type field = .error fault → fault.message = .ok wording →
        IsUnbroken wording := by
  constructor
  · intro datum h
    refine Datum.isUnbroken_text fun text hdatum => ?_
    have htype := type_of_literal h
    rw [hdatum] at htype h
    obtain rfl : type = .string := htype.symm
    obtain ⟨rfl⟩ := Datum.string.inj (Except.ok.inj h)
    exact hfield
  · intro fault wording h hwording
    refine LiteralFault.isUnbroken_message ?_ hwording
    rcases quoted_of_literal h with hquoted | hquoted <;> rw [hquoted]
    · decide
    · refine hfield.of_subset ?_
      rw [Text.trimmed, String.toList_ofList]
      exact fun c => Text.mem_of_mem_trim

/-! ## One line -/

/-- Neither a token nor a diagnostic shows a line break. -/
def AreUnbroken (tokens : List Token) (diagnostics : List Diagnostic) : Prop :=
  (∀ token ∈ tokens, IsUnbroken token.item.text) ∧
    ∀ diagnostic ∈ diagnostics, IsUnbroken diagnostic.message

variable {line : Line} {tokens : List Token} {diagnostics : List Diagnostic}

lemma areUnbroken_nil : AreUnbroken [] [] :=
  ⟨by simp, by simp⟩

lemma areUnbroken_diagnosticAt {kind : DiagnosticKind} {message : String} (h : IsUnbroken message) :
    AreUnbroken [] [diagnosticAt line kind message] :=
  ⟨by simp, List.forall_mem_singleton.mpr h⟩

lemma areUnbroken_tokenAt {item : Item} (h : IsUnbroken item.text) :
    AreUnbroken [tokenAt line item] [] :=
  ⟨List.forall_mem_singleton.mpr h, by simp⟩

lemma areUnbroken_valueTokens {type : DataType} {raw : String}
    (hraw : ∀ c ∈ raw.toList, Source.isValueChar c = true)
    (h : valueTokens line type (fields raw) = .ok (tokens, diagnostics)) :
    AreUnbroken tokens diagnostics := by
  have hfield : ∀ field ∈ fields raw, IsUnbroken field := fun field hmem hbreak =>
    absurd (hraw _ (mem_of_mem_fields hmem hbreak)) (by decide)
  obtain ⟨htokens, hdiagnostics⟩ := mem_valueTokens h
  constructor
  · intro token hmem
    obtain ⟨field, hmem', datum, hdatum, rfl⟩ := htokens token hmem
    exact (isUnbroken_of_literal (hfield field hmem')).1 datum hdatum
  · intro diagnostic hmem
    obtain ⟨field, hmem', fault, message, hfault, hmessage, rfl⟩ := hdiagnostics diagnostic hmem
    exact (isUnbroken_of_literal (hfield field hmem')).2 fault message hfault hmessage

lemma areUnbroken_dataLine (hline : IsUnbroken line.content)
    (h : dataLine line = .ok (tokens, diagnostics)) : AreUnbroken tokens diagnostics := by
  by_cases hdeclares : ∃ type operand, Declares line.content type operand
  · obtain ⟨type, operand, hdeclares⟩ := hdeclares
    rw [dataLine_of_declares hdeclares] at h
    have hdemand : ∀ demand, IsUnbroken demand → IsUnbroken (type.directive ++ demand) :=
      fun demand hdemand => isUnbroken_append.mpr ⟨type.isUnbroken_directive, hdemand⟩
    cases operand with
    | quoted text =>
      have htext : IsUnbroken text := hline.of_subset (Source.quoted_of_declares hdeclares).1.subset
      cases type <;> obtain ⟨rfl, rfl⟩ := Prod.mk.inj (Except.ok.inj h)
      · exact areUnbroken_diagnosticAt (hdemand _ (by decide))
      · exact areUnbroken_diagnosticAt (hdemand _ (by decide))
      · refine areUnbroken_tokenAt (Datum.isUnbroken_text fun other hother => ?_)
        exact Datum.string.inj hother ▸ htext
    | values raw =>
      have hraw := Source.isValueChar_of_declares hdeclares
      cases type with
      | string =>
        obtain ⟨rfl, rfl⟩ := Prod.mk.inj (Except.ok.inj h)
        exact areUnbroken_diagnosticAt (by decide)
      | integer type => exact areUnbroken_valueTokens hraw h
      | single => exact areUnbroken_valueTokens hraw h
  · rw [dataLine_of_not_declares hdeclares] at h
    obtain ⟨rfl, rfl⟩ := Prod.mk.inj (Except.ok.inj h)
    exact areUnbroken_diagnosticAt (by decide)

/-- Uppercasing makes no line breaks. -/
lemma isUnbroken_uppercase {s : String} (h : IsUnbroken s) : IsUnbroken (Text.uppercase s) := by
  rw [Text.uppercase, isUnbroken_ofList]
  exact fun hmem => h (Text.mem_of_isBlank_of_mem_upper (by decide) hmem)

/-- The mnemonic of an instruction is a word, and its output consists of letters. -/
lemma isUnbroken_of_instructionStatement? {cs : List Char} {statement : Source.InstructionStatement}
    (hbreak : '\n' ∉ cs) (h : Source.instructionStatement? cs = some statement) :
    IsUnbroken statement.mnemonic ∧ IsUnbroken statement.output := by
  obtain ⟨mnemonic, input, output⟩ := statement
  rw [← mnemonic.ofList_toList, ← output.ofList_toList,
    Source.instructionStatement?_eq_some_iff hbreak] at h
  obtain ⟨behind, -, -, hword, -, hselects⟩ := h
  exact ⟨fun hmem => absurd (hword _ hmem) (by decide),
    fun hmem => absurd (hselects.isOutput _ hmem) (by decide)⟩

lemma isUnbroken_instruction (operation : Instruction) (input output : Stack) :
    IsUnbroken (Item.instruction operation input output).text := by
  have hoperation : IsUnbroken operation.name := by
    cases operation <;> decide
  have hstack : ∀ stack : Stack, IsUnbroken stack.name := fun stack => by
    cases stack <;> decide
  simp only [Item.text, isUnbroken_append, hoperation, hstack, and_true, true_and]
  decide

lemma areUnbroken_instructionLine (options : Options) (hline : IsUnbroken line.content) :
    AreUnbroken (instructionLine options line).1 (instructionLine options line).2 := by
  cases hstatement : Source.instructionStatement? line.content.toList with
  | none =>
    simp only [instructionLine, hstatement]
    exact areUnbroken_diagnosticAt (isUnbroken_append.mpr ⟨by decide, hline⟩)
  | some statement =>
    obtain ⟨input, hinput⟩ := exists_input hstatement options.defaultStack
    obtain ⟨hmnemonic, houtput⟩ := isUnbroken_of_instructionStatement? hline hstatement
    have hunknown : IsUnbroken (mnemonicFault line statement).message :=
      isUnbroken_append.mpr ⟨by decide, isUnbroken_uppercase hmnemonic⟩
    have hstack : IsUnbroken (outputFault line statement).message :=
      isUnbroken_append.mpr ⟨by decide, isUnbroken_uppercase houtput⟩
    rw [instructionLine_eq hstatement hinput]
    split
    · exact areUnbroken_tokenAt (isUnbroken_instruction _ _ _)
    · exact ⟨by simp, by simpa using hunknown⟩
    · exact ⟨by simp, by simpa using hstack⟩
    · exact ⟨by simp, by simpa using ⟨hunknown, hstack⟩⟩

lemma isWord_of_labelStatement? {cs : List Char} {name : Char}
    (h : Source.labelStatement? cs = some name) : Text.isWord name = true := by
  unfold Source.labelStatement? at h
  split at h
  · next c cs =>
    split_ifs at h with hword
    obtain rfl := Option.some.inj h
    exact (Bool.and_eq_true_iff.mp hword).1
  · cases h

lemma areUnbroken_labelLine (options : Options) (position : Nat) :
    AreUnbroken (labelLine options position line) [] := by
  unfold labelLine
  split
  · next name hname =>
    split_ifs
    · have hbreak : '\n' ∉ [name] := by
        rw [List.mem_singleton]
        rintro rfl
        exact absurd (isWord_of_labelStatement? hname) (by decide)
      refine areUnbroken_tokenAt ?_
      simp only [Item.text, isUnbroken_append, isUnbroken_ofList, hbreak, not_false_eq_true,
        Numeral.isUnbroken_naturalText, and_true, true_and]
      decide
    · exact areUnbroken_nil
  · exact areUnbroken_nil

/-- **One line.** What a line without line breaks yields shows none. -/
lemma areUnbroken_readLine {options : Options} {position : Nat} (hline : IsUnbroken line.content)
    (h : readLine options position line = .ok (tokens, diagnostics)) :
    AreUnbroken tokens diagnostics := by
  rw [readLine] at h
  split at h
  · exact areUnbroken_dataLine hline h
  · have hyielded := areUnbroken_instructionLine options hline
    rw [Except.ok.inj h] at hyielded
    exact hyielded
  · obtain ⟨rfl, rfl⟩ := Prod.mk.inj (Except.ok.inj h)
    exact areUnbroken_labelLine options position
  · obtain ⟨rfl, rfl⟩ := Prod.mk.inj (Except.ok.inj h)
    exact areUnbroken_nil
  · obtain ⟨rfl, rfl⟩ := Prod.mk.inj (Except.ok.inj h)
    exact areUnbroken_nil

lemma isUnbroken_of_text_string {value : String}
    (h : IsUnbroken (Item.data (.string value)).text) : IsUnbroken value := by
  simp only [Item.text, Datum.text, isUnbroken_append] at h
  exact h.2.1.2

lemma ne_break_of_text_label {name : Char} {position : Nat}
    (h : IsUnbroken (Item.label name position).text) : name ≠ '\n' := by
  simp only [Item.text, isUnbroken_append, isUnbroken_ofList, List.mem_singleton] at h
  exact Ne.symm h.1.1

/-! ## A source -/

/-- What is known of a yield of a source with so many lines. -/
structure LineYield.IsOf (file : String) (count : Nat) (yield : LineYield) : Prop where
  index_lt : yield.index < count
  token_place : ∀ token ∈ yield.tokens, token.line = 1 + (yield.index : Int) ∧ token.file = file
  diagnostic_place : ∀ diagnostic ∈ yield.diagnostics,
    diagnostic.line = 1 + (yield.index : Int) ∧ diagnostic.file = file
  unbroken : AreUnbroken yield.tokens yield.diagnostics

variable {options : Options} {text file : String} {result : Tokenization}

/-- **Many lines.** No line of a source has a line break, so that no yield shows one. -/
lemma isOf_of_mem_yields {yield : LineYield}
    (h : (Tokenization.ofLinesFrom options 0 0 (Source.read text file)).outcome = .ok result)
    (hyield : yield ∈ result.yields) : yield.IsOf file (Source.read text file).length := by
  obtain ⟨i, line, position, step, hindex, hline, hstep, hmem⟩ :=
    Tokenization.exists_step_of_mem_yields h hyield
  rw [Nat.zero_add] at hindex
  rw [← hindex] at hline
  have hread := Source.isRead_of_getElem? hline
  have hplaced := Tokenization.isPlaced_of_ofLine hstep hmem
  rw [IsPlaced, hread.number_eq, hread.file_eq] at hplaced
  refine ⟨(List.getElem?_eq_some_iff.mp hline).1, hplaced.1, hplaced.2, ?_⟩
  have hcontent : IsUnbroken line.content := hread.isClean.no_break
  rcases Tokenization.ofLine_cases hstep with ⟨rfl, -⟩ | ⟨rfl, -⟩ |
    ⟨tokens, diagnostics, rfl, -, -, hyielded⟩
  · cases hmem
  · rw [List.mem_singleton.mp hmem]
    exact areUnbroken_diagnosticAt (isUnbroken_append.mpr ⟨by decide, hcontent⟩)
  · rw [List.mem_singleton.mp hmem]
    exact areUnbroken_readLine hcontent hyielded

/-- What is shown of the lines of a source one after another is in the order of the lines. -/
lemma pairwise_flatMap_line {α : Type} {yields : List LineYield} {part : LineYield → List α}
    {line : α → Int} (hpart : ∀ yield ∈ yields, ∀ a ∈ part yield, line a = 1 + (yield.index : Int))
    (h : (yields.map LineYield.index).Pairwise (· < ·)) :
    ((yields.flatMap part).map line).Pairwise (· ≤ ·) := by
  rw [List.pairwise_map, List.pairwise_flatMap]
  constructor
  · -- all of one yield is of one line
    intro yield hyield
    refine List.pairwise_of_forall_mem_list fun a ha b hb => ?_
    rw [hpart yield hyield a ha, hpart yield hyield b hb]
  · refine (List.pairwise_map.mp h).imp_of_mem fun hyield hyield' hlt a ha b hb => ?_
    rw [hpart _ hyield a ha, hpart _ hyield' b hb]
    omega

section

variable (h : (Tokenization.ofLinesFrom options 0 0 (Source.read text file)).outcome = .ok result)

include h

lemma areUnbroken_result : AreUnbroken result.tokens result.diagnostics := by
  obtain ⟨htokens, hdiagnostics⟩ := Tokenization.tokens_of_ofLinesFrom h
  rw [AreUnbroken, htokens, hdiagnostics, List.forall_mem_flatMap, List.forall_mem_flatMap]
  exact ⟨fun yield hyield => (isOf_of_mem_yields h hyield).unbroken.1,
    fun yield hyield => (isOf_of_mem_yields h hyield).unbroken.2⟩

lemma file_of_mem_diagnostics : ∀ diagnostic ∈ result.diagnostics, diagnostic.file = file := by
  rw [(Tokenization.tokens_of_ofLinesFrom h).2, List.forall_mem_flatMap]
  intro yield hyield diagnostic hmem
  exact ((isOf_of_mem_yields h hyield).diagnostic_place diagnostic hmem).2

lemma pairwise_line : (result.tokens.map Token.line).Pairwise (· ≤ ·) ∧
    (result.diagnostics.map Diagnostic.line).Pairwise (· ≤ ·) := by
  obtain ⟨htokens, hdiagnostics⟩ := Tokenization.tokens_of_ofLinesFrom h
  have hindex := Tokenization.pairwise_index h
  rw [htokens, hdiagnostics]
  constructor
  · refine pairwise_flatMap_line (fun yield hyield token hmem => ?_) hindex
    exact ((isOf_of_mem_yields h hyield).token_place token hmem).1
  · refine pairwise_flatMap_line (fun yield hyield diagnostic hmem => ?_) hindex
    exact ((isOf_of_mem_yields h hyield).diagnostic_place diagnostic hmem).1

lemma isUnbroken_of_mem_lines : ∀ line ∈ result.lines, IsUnbroken line.content := by
  rw [Tokenization.lines_of_ofLinesFrom h, List.forall_mem_map]
  intro line hmem
  obtain ⟨place, hline⟩ := List.mem_iff_getElem?.mp hmem
  exact (Source.isRead_of_getElem? hline).isClean.no_break

end

namespace Assembler

/-! ## Listing and report -/

/-- The row of a token: the number of its line, flush right in five columns, its kind, flush left in
sixteen, and its text. -/
def IsListingRow (token : Token) (row : String) : Prop :=
  ∃ number, Numeral.boundedText token.line = .ok number ∧
    row = String.ofList (List.replicate (5 - number.length) ' ') ++ number ++ "  " ++
      (token.item.kind ++ String.ofList (List.replicate (16 - token.item.kind.length) ' ')) ++
      "  " ++ token.item.text

/-- The row of a diagnostic of a source. -/
def IsReportRow (file : String) (diagnostic : Diagnostic) (row : String) : Prop :=
  ∃ number, Numeral.boundedText diagnostic.line = .ok number ∧
    row = "Line " ++ number ++ " in " ++ file ++ ": " ++ diagnostic.message

/-- The number of a line can be shown if there are not too many lines. -/
lemma boundedText_line {count index : Nat} (hindex : index < count)
    (hcount : count < 10 ^ Numeral.digitLimit) :
    Numeral.boundedText (1 + (index : Int)) = .ok (Numeral.integerText (1 + index)) := by
  have habs : (1 + (index : Int)).natAbs ≤ count := by omega
  rw [Numeral.boundedText_eq, if_pos (lt_of_le_of_lt habs hcount)]

lemma isUnbroken_blanks (n : Nat) : IsUnbroken (String.ofList (List.replicate n ' ')) :=
  isUnbroken_ofList.mpr fun h => absurd (List.eq_of_mem_replicate h) (by decide)

lemma isUnbroken_kind (item : Item) : IsUnbroken item.kind := by
  cases item <;> simp only [Item.kind] <;> decide

lemma isUnbroken_listingRow {token : Token} (h : IsUnbroken token.item.text) :
    IsUnbroken (listingRow token) := by
  have hgap : IsUnbroken "  " := by decide
  simp only [listingRow, Numeral.flushRight, Numeral.flushLeft, isUnbroken_append,
    isUnbroken_blanks, Numeral.isUnbroken_integerText, isUnbroken_kind, hgap, h, and_self]

lemma isUnbroken_diagnosticText {diagnostic : Diagnostic} (hfile : IsUnbroken diagnostic.file)
    (h : IsUnbroken diagnostic.message) : IsUnbroken diagnostic.text := by
  simp only [Diagnostic.text, isUnbroken_append, Numeral.isUnbroken_integerText, hfile, h,
    and_true]
  decide

lemma areRows_of_isOf {count : Nat} {yield : LineYield} (hyield : yield.IsOf file count)
    (hcount : count < 10 ^ Numeral.digitLimit) :
    (∀ token ∈ yield.tokens, IsListingRow token (listingRow token)) ∧
      ∀ diagnostic ∈ yield.diagnostics, IsReportRow file diagnostic diagnostic.text := by
  have hnumber := boundedText_line hyield.index_lt hcount
  constructor
  · intro token hmem
    have hline := (hyield.token_place token hmem).1
    refine ⟨Numeral.integerText token.line, ?_, rfl⟩
    rw [hline, hnumber]
  · intro diagnostic hmem
    obtain ⟨hline, hfile⟩ := hyield.diagnostic_place diagnostic hmem
    refine ⟨Numeral.integerText diagnostic.line, ?_, ?_⟩
    · rw [hline, hnumber]
    · rw [Diagnostic.text, hfile]

/-- **Every token and every diagnostic has its row.** -/
lemma areRows_result
    (h : (Tokenization.ofLinesFrom options 0 0 (Source.read text file)).outcome = .ok result)
    (hcount : (Source.read text file).length < 10 ^ Numeral.digitLimit) :
    List.Forall₂ IsListingRow result.tokens (result.tokens.map listingRow) ∧
      List.Forall₂ (IsReportRow file) result.diagnostics
        (result.diagnostics.map Diagnostic.text) := by
  obtain ⟨htokens, hdiagnostics⟩ := Tokenization.tokens_of_ofLinesFrom h
  simp only [List.forall₂_map_right_iff, List.forall₂_same]
  rw [htokens, hdiagnostics, List.forall_mem_flatMap, List.forall_mem_flatMap]
  exact ⟨fun yield hyield => (areRows_of_isOf (isOf_of_mem_yields h hyield) hcount).1,
    fun yield hyield => (areRows_of_isOf (isOf_of_mem_yields h hyield) hcount).2⟩

/-- What an assembler keeps of a text that it assembles is the result of its lines. -/
lemma result_assemble_of_ok {assembler : Assembler}
    (h : (assembler.assemble text file).2.outcome = .ok result) :
    (assembler.assemble text file).1.result = some result ∧
      (Tokenization.ofLinesFrom assembler.config.toOptions 0 0
        (Source.read text file)).outcome = .ok result := by
  constructor
  · rw [assemble_eq] at h ⊢
    rw [result_feed, h]
    rfl
  · rw [outcome_assemble, Tokenization.outcome_ofLines] at h
    cases houtcome : (Tokenization.ofLinesFrom assembler.config.toOptions 0 0
        (Source.read text file)).outcome with
    | error failure =>
      rw [houtcome] at h
      cases h
    | ok other =>
      rw [houtcome] at h
      rw [Except.ok.inj h]

/-- **The listing.** Two rows, and one for each token. -/
lemma rows_listing {assembler : Assembler} (hresult : assembler.result = some result)
    (htokens : ∀ token ∈ result.tokens, IsUnbroken token.item.text) :
    Text.rows assembler.listing = listingHead ++ result.tokens.map listingRow := by
  have hhead : ∀ row ∈ listingHead, IsUnbroken row := by decide
  rw [listing, hresult]
  refine Text.rows_joinLines (List.append_ne_nil_of_left_ne_nil (List.cons_ne_nil _ _) _) ?_
  exact List.forall_mem_append.mpr
    ⟨hhead, List.forall_mem_map.mpr fun token hmem => isUnbroken_listingRow (htokens token hmem)⟩

/-- **The report.** It has a row for each diagnostic, and none is empty. -/
lemma rows_errorReport {assembler : Assembler} (hresult : assembler.result = some result)
    (hdiagnostics : ∀ diagnostic ∈ result.diagnostics, IsUnbroken diagnostic.text)
    (hne : result.diagnostics ≠ []) :
    Text.rows assembler.errorReport = result.diagnostics.map Diagnostic.text := by
  rw [errorReport, hresult]
  exact Text.rows_joinLines (mt List.map_eq_nil_iff.mp hne) (List.forall_mem_map.mpr hdiagnostics)

lemma errorReport_eq_empty_iff {assembler : Assembler} (hresult : assembler.result = some result)
    (hdiagnostics : ∀ diagnostic ∈ result.diagnostics, IsUnbroken diagnostic.text) :
    assembler.errorReport = "" ↔ result.diagnostics = [] := by
  constructor
  · intro hempty
    by_contra hne
    have hrows := rows_errorReport hresult hdiagnostics hne
    obtain ⟨first, rest, hcons⟩ := List.exists_cons_of_ne_nil hne
    have hblank : Text.rows "" = [""] := by decide
    rw [hempty, hblank, hcons, List.map_cons] at hrows
    have hfirst := congrArg String.toList (List.cons.inj hrows).1
    simp [Diagnostic.text] at hfirst
  · intro hnil
    rw [errorReport, hresult]
    simp only [hnil]
    rfl

/-- **Rows.** An assembler assembles a text under a name without line breaks, and the numbers of the
lines can be shown.  Then the listing has two rows and one for each token, and the report has one
for each diagnostic, both in the order of the lines: nothing that is shown of the text breaks a
row. -/
theorem listing_and_report (assembler : Assembler) (text file : String) (result : Tokenization)
    (hfile : IsUnbroken file) (hlines : (Source.read text file).length < 10 ^ 4300)
    (h : (assembler.assemble text file).2.outcome = .ok result) :
    (∃ rows, Text.rows (assembler.assemble text file).1.listing =
        "Line   Kind              Token" :: String.ofList (List.replicate 60 '-') :: rows ∧
      List.Forall₂ IsListingRow result.tokens rows) ∧
    ((assembler.assemble text file).1.errorReport = "" ↔ result.diagnostics = []) ∧
    (result.diagnostics ≠ [] → List.Forall₂ (IsReportRow file) result.diagnostics
      (Text.rows (assembler.assemble text file).1.errorReport)) ∧
    ((result.tokens.map Token.line).Pairwise (· ≤ ·) ∧
      (result.diagnostics.map Diagnostic.line).Pairwise (· ≤ ·)) ∧
    (∀ token ∈ result.tokens, IsUnbroken token.item.text ∧
      (∀ value, token.item = .data (.string value) → IsUnbroken value) ∧
      ∀ name position, token.item = .label name position → name ≠ '\n') ∧
    (∀ diagnostic ∈ result.diagnostics, IsUnbroken diagnostic.message ∧ diagnostic.file = file) ∧
    ∀ line ∈ result.lines, IsUnbroken line.content := by
  obtain ⟨hresult, hrun⟩ := result_assemble_of_ok h
  obtain ⟨htokens, hmessages⟩ := areUnbroken_result hrun
  have hfiles := file_of_mem_diagnostics hrun
  have htexts : ∀ diagnostic ∈ result.diagnostics, IsUnbroken diagnostic.text :=
    fun diagnostic hmem => isUnbroken_diagnosticText (hfiles diagnostic hmem ▸ hfile)
      (hmessages diagnostic hmem)
  have hlimit : Numeral.digitLimit = 4300 := rfl
  rw [← hlimit] at hlines
  obtain ⟨hlisted, hreported⟩ := areRows_result hrun hlines
  refine ⟨⟨result.tokens.map listingRow, rows_listing hresult htokens, hlisted⟩,
    errorReport_eq_empty_iff hresult htexts, fun hne => ?_, pairwise_line hrun,
    fun token hmem => ?_,
    fun diagnostic hmem => ⟨hmessages diagnostic hmem, hfiles diagnostic hmem⟩,
    isUnbroken_of_mem_lines hrun⟩
  · rwa [rows_errorReport hresult htexts hne]
  · have hshown := htokens token hmem
    refine ⟨hshown, fun value hvalue => ?_, fun name position hname => ?_⟩
    · rw [hvalue] at hshown
      exact isUnbroken_of_text_string hshown
    · rw [hname] at hshown
      exact ne_break_of_text_label hshown

/-- A string, a label in front of an escaped line break, a line of no category, an instruction, and
values of which one is out of range. -/
def mixedText : String :=
  ".dbS \"two words\"\\nx: ;; add\nfoo bar\nadd b\n.db8 (1, 300)"

/-- An assembler that emits labels and reports lines of no category. -/
def fullAssembler : Assembler :=
  new ⟨⟨.standard, true, true⟩, false⟩ false

/-- There are tokens of each kind, and two diagnostics, one of which quotes a line. -/
theorem listing_and_report_mixedText :
    ∃ result : Tokenization, (fullAssembler.assemble mixedText "a.asm").2.outcome = .ok result ∧
      result.tokens.length = 4 ∧ result.diagnostics.length = 2 ∧
      (∃ rows, Text.rows (fullAssembler.assemble mixedText "a.asm").1.listing =
          "Line   Kind              Token" :: String.ofList (List.replicate 60 '-') :: rows ∧
        List.Forall₂ IsListingRow result.tokens rows) ∧
      List.Forall₂ (IsReportRow "a.asm") result.diagnostics
        (Text.rows (fullAssembler.assemble mixedText "a.asm").1.errorReport) := by
  have hlines : (Source.read mixedText "a.asm").length < 10 ^ 4300 := by
    have hlength : (Source.read mixedText "a.asm").length = 5 := by decide +kernel
    have hlimit : Numeral.digitLimit = 4300 := rfl
    have hfew : 5 < Numeral.digitLimit := by decide
    rw [hlength, ← hlimit]
    exact hfew.trans (Nat.lt_pow_self (by decide))
  have hcounts : (fullAssembler.assemble mixedText "a.asm").2.outcome.toOption.map
      (fun result => (result.tokens.length, result.diagnostics.length)) = some (4, 2) := by
    decide +kernel
  cases houtcome : (fullAssembler.assemble mixedText "a.asm").2.outcome with
  | error failure =>
    rw [houtcome] at hcounts
    cases hcounts
  | ok result =>
    rw [houtcome] at hcounts
    obtain ⟨htokens, hdiagnostics⟩ := Prod.mk.inj (Option.some.inj hcounts)
    have hne : result.diagnostics ≠ [] := List.ne_nil_of_length_pos (by omega)
    obtain ⟨hlisting, -, hreport, -⟩ :=
      listing_and_report fullAssembler mixedText "a.asm" result (by decide) hlines houtcome
    exact ⟨result, rfl, htokens, hdiagnostics, hlisting, hreport hne⟩

end Assembler

end Claw
