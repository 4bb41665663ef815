import Claw.Proofs.Program.Recognition
import Claw.Proofs.Token.Line
import Claw.Proofs.Token.Sequence

/-!
# When the reading of a source fails

A defect of a source is a diagnostic and does not stop the reading, with one exception: the
diagnostic for an integer that is out of range quotes the integer, and an integer of more than
`Numeral.digitLimit` decimal digits cannot be quoted.  This file says exactly which literals and
which sources meet that exception.

* `IsOverlong`: a literal denotes, under an integer type, an integer of too many digits;
* `HasOverlong`: the content of a line lists such a literal;
* `overlongNumeral`: a literal that meets it under every integer type.

`exists_message_eq_error_iff` settles literals, `Tokenization.exists_outcome_eq_error_iff` runs over
lines, and `reading_fails_iff` puts literals and sources together.  `overlong_source_fails` is a
source that meets the exception.  The range of no type comes near the limit
(`IntegerType.natAbs_lt_of_admits`), so an overlong literal is always out of range.

The options play no part: what a line yields depends on them, whether it can be read does not.
-/

namespace Claw

open Numeral (TooManyDigits digitLimit)
open Source (Line)

/-! ## Literals -/

/-- The text is a literal of an integer type that denotes an integer of more than `digitLimit`
digits. -/
def IsOverlong (type : DataType) (text : String) : Prop :=
  ∃ (integerType : IntegerType) (value : Int), type = .integer integerType ∧
    isAscii text = true ∧ integerLiteral text = .ok value ∧ 10 ^ digitLimit ≤ value.natAbs

/-- A fault cannot be worded just if it quotes an overlong integer. -/
lemma message_eq_error_iff {fault : LiteralFault} {failure : TooManyDigits} :
    fault.message = .error failure ↔
      ∃ type value, fault = .outOfRange type value ∧ 10 ^ digitLimit ≤ value.natAbs := by
  cases fault with
  | outOfRange type value =>
    simp only [LiteralFault.message, Numeral.boundedText_eq]
    by_cases hshort : value.natAbs < 10 ^ digitLimit
    · rw [if_pos hshort]
      simp only [Except.map, reduceCtorEq, false_iff]
      rintro ⟨type', value', heq, hlong⟩
      cases heq
      omega
    · rw [if_neg hshort]
      cases failure
      simp only [Except.map, true_iff]
      exact ⟨type, value, rfl, by omega⟩
  | _ => simp [LiteralFault.message]

lemma integerLiteral_ne_outOfRange (text : String) (type : IntegerType) (value : Int) :
    integerLiteral text ≠ .error (.outOfRange type value) := by
  unfold integerLiteral
  dsimp only
  split
  · simp
  · split <;> simp

lemma singleLiteral_ne_outOfRange (text : String) (type : IntegerType) (value : Int) :
    singleLiteral text ≠ .error (.outOfRange type value) := by
  unfold singleLiteral roundToSingle
  dsimp only
  split
  · split <;> simp
  · simp

/-- A literal is refused as out of range just if it denotes an integer that its type does not
admit. -/
lemma literal_eq_outOfRange_iff {type : DataType} {text : String} {integerType : IntegerType}
    {value : Int} :
    literal type text = .error (.outOfRange integerType value) ↔
      type = .integer integerType ∧ isAscii text = true ∧ integerLiteral text = .ok value ∧
        integerType.admits value = false := by
  cases type with
  | string => simp [literal]
  | single =>
    simp only [literal, reduceCtorEq, false_and, iff_false]
    split
    · simp
    · cases hsingle : singleLiteral text with
      | ok number => simp [Except.map]
      | error fault =>
        have hne := singleLiteral_ne_outOfRange text integerType value
        rw [hsingle] at hne
        simpa [Except.map] using hne
  | integer type =>
    by_cases hascii : isAscii text = true
    · simp only [literal, hascii, Bool.not_true, Bool.false_eq_true, if_false]
      cases hinteger : integerLiteral text with
      | error fault =>
        have hne := integerLiteral_ne_outOfRange text integerType value
        rw [hinteger] at hne
        simpa [bind, Except.bind] using hne
      | ok found =>
        by_cases hadmits : type.admits found = true
        · simp only [bind, Except.bind, hadmits, if_true]
          grind
        · simp only [bind, Except.bind, hadmits]
          grind
    · simp [literal, hascii]

/-- **The exception, for literals.** Converting a literal gives a value or a fault that can be
worded, unless the literal is overlong. -/
lemma exists_message_eq_error_iff {type : DataType} {text : String} :
    (∃ fault failure, literal type text = .error fault ∧ fault.message = .error failure) ↔
      IsOverlong type text := by
  constructor
  · rintro ⟨fault, failure, hliteral, hmessage⟩
    obtain ⟨integerType, value, rfl, hlong⟩ := message_eq_error_iff.mp hmessage
    obtain ⟨htype, hascii, hvalue, -⟩ := literal_eq_outOfRange_iff.mp hliteral
    exact ⟨integerType, value, htype, hascii, hvalue, hlong⟩
  · rintro ⟨integerType, value, htype, hascii, hvalue, hlong⟩
    have hadmits : integerType.admits value = false := by
      by_contra hadmits
      have := IntegerType.natAbs_lt_of_admits (eq_true_of_ne_false hadmits)
      omega
    exact ⟨.outOfRange integerType value, .mk,
      literal_eq_outOfRange_iff.mpr ⟨htype, hascii, hvalue, hadmits⟩,
      message_eq_error_iff.mpr ⟨integerType, value, rfl, hlong⟩⟩

/-! ## Lines -/

/-- The first data directive of the text lists an overlong literal. -/
def HasOverlong (content : String) : Prop :=
  ∃ type raw, Source.Declares content type (.values raw) ∧
    ∃ field ∈ fields raw, IsOverlong type field

/-- A value list cannot be read just if it holds an overlong literal. -/
lemma exists_valueTokens_eq_error_iff {line : Line} {type : DataType} {fields : List String} :
    (∃ failure, valueTokens line type fields = .error failure) ↔
      ∃ field ∈ fields, IsOverlong type field := by
  induction fields with
  | nil => simp [valueTokens]
  | cons field rest ih =>
    rw [List.exists_mem_cons_iff, ← ih, ← exists_message_eq_error_iff, valueTokens]
    cases hliteral : literal type field with
    | ok datum =>
      simp only [reduceCtorEq, false_and, exists_false, false_or]
      cases valueTokens line type rest <;> simp [bind, Except.bind, pure, Except.pure]
    | error fault =>
      simp only [Except.error.injEq, exists_and_left, exists_eq_left']
      cases hmessage : fault.message with
      | error failure => exact iff_of_true ⟨failure, rfl⟩ (.inl ⟨failure, rfl⟩)
      | ok message =>
        simp only [reduceCtorEq, exists_false, false_or]
        cases valueTokens line type rest <;> simp [bind, Except.bind, pure, Except.pure]

/-- The literals of a numeric type are read one by one; everything else about a directive can be
reported. -/
lemma exists_operandTokens_eq_error_iff {line : Line} {type : DataType}
    {operand : Source.Operand} :
    (∃ failure, operandTokens line type operand = .error failure) ↔
      ∃ raw, operand = .values raw ∧ ∃ field ∈ fields raw, IsOverlong type field := by
  cases operand with
  | quoted text =>
    refine iff_of_false ?_ ?_
    · rintro ⟨failure, h⟩
      cases type <;> simp [operandTokens] at h
    · rintro ⟨raw, h, -⟩
      cases h
  | values raw =>
    simp only [Source.Operand.values.injEq, exists_eq_left']
    cases type with
    | string =>
      refine iff_of_false ?_ ?_
      · rintro ⟨failure, h⟩
        simp [operandTokens] at h
      · rintro ⟨field, -, integerType, value, htype, -⟩
        cases htype
    | single => exact exists_valueTokens_eq_error_iff
    | integer type => exact exists_valueTokens_eq_error_iff

lemma exists_dataLine_eq_error_iff {line : Line} :
    (∃ failure, dataLine line = .error failure) ↔ HasOverlong line.content := by
  by_cases hdeclares : ∃ type operand, Source.Declares line.content type operand
  · obtain ⟨type, operand, hdeclares⟩ := hdeclares
    rw [dataLine_of_declares hdeclares, exists_operandTokens_eq_error_iff]
    constructor
    · rintro ⟨raw, rfl, hfield⟩
      exact ⟨type, raw, hdeclares, hfield⟩
    · rintro ⟨type', raw, hdeclares', hfield⟩
      obtain ⟨rfl, rfl⟩ := hdeclares.unique hdeclares'
      exact ⟨raw, rfl, hfield⟩
  · refine iff_of_false ?_ ?_
    · rw [dataLine_of_not_declares hdeclares]
      simp
    · rintro ⟨type, raw, h, -⟩
      exact hdeclares ⟨type, _, h⟩

/-- Only data lines hold literals, so only they can fail to be read; neither the options nor the
place of the line matters. -/
lemma exists_readLine_eq_error_iff {options : Options} {position : Nat} {line : Line} :
    (∃ failure, readLine options position line = .error failure) ↔
      line.category = .data ∧ HasOverlong line.content := by
  rw [readLine]
  cases line.category with
  | data => simpa using exists_dataLine_eq_error_iff
  | _ => simp

namespace Tokenization

/-! ## Runs -/

lemma exists_ofLine_eq_error_iff {options : Options} {index position : Nat} {line : Line} :
    (∃ failure, ofLine options index position line = .error failure) ↔
      line.processed = false ∧ line.category = .data ∧ HasOverlong line.content := by
  rw [ofLine]
  by_cases hprocessed : line.processed = true
  · simp [hprocessed]
  · by_cases hunknown : line.category = .unknown
    · simp [hprocessed, hunknown]
    · rw [if_neg hprocessed, if_neg hunknown, ← exists_readLine_eq_error_iff]
      simp only [hprocessed, true_and]
      cases readLine options position line <;> simp [Except.map]

lemma exists_outcome_eq_error_iff {options : Options} {index position : Nat}
    {lines : List Line} :
    (∃ failure, (ofLinesFrom options index position lines).outcome = .error failure) ↔
      ∃ line ∈ lines, line.processed = false ∧ line.category = .data ∧
        HasOverlong line.content := by
  induction lines generalizing index position with
  | nil => simp
  | cons line rest ih =>
    rw [List.exists_mem_cons_iff, ← exists_ofLine_eq_error_iff, outcome_ofLinesFrom_cons]
    cases ofLine options index position line with
    | error failure => exact iff_of_true ⟨failure, rfl⟩ (.inl ⟨failure, rfl⟩)
    | ok first =>
      rw [← ih]
      simp only [reduceCtorEq, exists_false, false_or, Except.bind]
      cases (ofLinesFrom options (index + 1) (position + codeCount first.tokens) rest).outcome <;>
        simp [Except.map]

/-- The lines of a source come unprocessed if they hold anything, so only their contents count. -/
lemma exists_outcome_read_eq_error_iff {options : Options} {text file : String} :
    (∃ failure, (ofLines options (Source.read text file)).outcome = .error failure) ↔
      ∃ line ∈ Source.read text file, line.category = .data ∧ HasOverlong line.content := by
  rw [outcome_ofLines, exists_outcome_eq_error_iff]
  refine exists_congr fun line => and_congr_right fun hmem => ?_
  refine ⟨fun h => h.2, fun h => ⟨?_, h⟩⟩
  exact Source.processed_eq_false_of_mem hmem (by simp [h.1])

end Tokenization

/-- **The exception.** Converting a literal gives a value or a fault that can be worded, unless the
literal is overlong; and reading a source gives a result, under any options, unless one of its data
lines lists an overlong literal. -/
theorem reading_fails_iff (type : DataType) (field : String) (options : Options)
    (text file : String) :
    ((∃ fault failure, literal type field = .error fault ∧ fault.message = .error failure) ↔
      IsOverlong type field) ∧
    ((∃ failure,
        (Tokenization.ofLines options (Source.read text file)).outcome = .error failure) ↔
      ∃ line ∈ Source.read text file, line.category = .data ∧ HasOverlong line.content) :=
  ⟨exists_message_eq_error_iff, Tokenization.exists_outcome_read_eq_error_iff⟩

/-! ## The exception is met -/

/-- The least integer that cannot be quoted, in binary. -/
def overlongNumeral : String :=
  Numeral.Spelling.binary.numeral (10 ^ digitLimit : Nat)

lemma isOverlong_overlongNumeral (type : IntegerType) :
    IsOverlong (.integer type) overlongNumeral := by
  have hvalue : integerLiteral overlongNumeral = .ok ((10 ^ digitLimit : Nat) : Int) :=
    Numeral.Spelling.integerLiteral_numeral fun h => absurd h (by decide)
  exact ⟨type, _, rfl, Numeral.Spelling.isAscii_numeral _ _, hvalue, (Int.natAbs_natCast _).ge⟩

lemma fields_numeral (spelling : Numeral.Spelling) (n : Int) :
    fields (spelling.numeral n) = [spelling.numeral n] := by
  have hfields := @fields_intercalate [spelling.numeral n]
    (by simpa using spelling.isField_numeral n)
  rwa [String.intercalate_singleton] at hfields

lemma exists_mem_read_overlong (type : IntegerType) (file : String) :
    ∃ line ∈ Source.read (Program.listDirective (.integer type) overlongNumeral) file,
      line.category = .data ∧ HasOverlong line.content := by
  have hchars : ∀ c ∈ overlongNumeral.toList, Source.isValueChar c = true :=
    Program.isValueChar_of_mem_numeral _ _
  rw [Program.read_listDirective _ _ hchars]
  refine ⟨_, List.mem_singleton_self _, Program.categoryOf_listDirective (.integer type) hchars, ?_⟩
  refine ⟨.integer type, overlongNumeral, Program.declares_listDirective (.integer type) hchars,
    overlongNumeral, ?_, isOverlong_overlongNumeral type⟩
  rw [overlongNumeral, fields_numeral]
  exact List.mem_singleton_self _

/-- The exception is met by a source of one line, for the literal and for the whole. -/
theorem overlong_source_fails :
    let type : IntegerType := ⟨true, .byte⟩
    (∃ fault failure, literal (.integer type) overlongNumeral = .error fault ∧
      fault.message = .error failure) ∧
    ∃ failure, (Tokenization.ofLines {}
      (Source.read (Program.listDirective (.integer type) overlongNumeral) "")).outcome =
        .error failure :=
  ⟨exists_message_eq_error_iff.mpr (isOverlong_overlongNumeral _),
    Tokenization.exists_outcome_read_eq_error_iff.mpr (exists_mem_read_overlong _ _)⟩

end Claw
