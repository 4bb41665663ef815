import Claw.Proofs.Binary.Single
import Claw.Proofs.Encoding
import Claw.Proofs.Source.Seam
import Claw.Proofs.Text.Margin
import Claw.Proofs.Token.Line
import Claw.Proofs.Token.Place

/-!
# The values of a result

Where the values of a result come from, and what can be relied on about them by whoever lays them
down in bytes.  As in `Claw/Proofs/Correspondence.lean` the lines may have been put together by hand.

* `Lists`: a content gives a value, as the string that it quotes or as a literal in its value list;
  `lists_iff_of_quoted` and `lists_iff_of_values` say which values these are;
* `mem_dataLine_iff`, `mem_ofLine_iff` and `mem_tokens_iff`: the values of a data line, of a step and
  of a run are those that the contents of its data lines list;
* `Datum.IsOfType`: a value is one that its type can hold, and `Lists.isOfType` shows that of every
  value that a content lists.

`values_are_of_their_types` is the consequence for whole results; `Claw/Proofs/Infinite.lean`
consumes `mem_tokens_iff`.
-/

namespace Claw

open Numeral (TooManyDigits)
open Source (Line Declares)

/-! ## Literals -/

lemma literal_integer_eq_ok {type : IntegerType} {text : String} {datum : Datum}
    (h : literal (.integer type) text = .ok datum) :
    ∃ value, datum = .integer type value ∧ type.admits value = true := by
  rw [literal] at h
  split at h
  · contradiction
  · cases hvalue : integerLiteral text with
    | error fault => simp [hvalue, bind, Except.bind] at h
    | ok value =>
      simp only [hvalue, bind, Except.bind] at h
      split at h
      · next hadmits => exact ⟨value, (Except.ok.inj h).symm, hadmits⟩
      · contradiction

lemma literal_single_eq_ok {text : String} {datum : Datum} (h : literal .single text = .ok datum) :
    ∃ real value, isAscii text = true ∧ Numeral.real? (Text.trim text.toList) = some real ∧
      Binary.roundToSingle? (.ofReal real) = some value ∧ datum = .single value := by
  rw [literal] at h
  split at h
  · contradiction
  · next hascii =>
    rw [singleLiteral] at h
    split at h
    · next real hreal =>
      rw [roundToSingle] at h
      split at h
      · next value hvalue =>
        exact ⟨real, value, by simpa using hascii, hreal, hvalue, (Except.ok.inj h).symm⟩
      · contradiction
    · contradiction

lemma type_of_literal {type : DataType} {text : String} {datum : Datum}
    (h : literal type text = .ok datum) : datum.type = type := by
  cases type with
  | integer type =>
    obtain ⟨value, rfl, -⟩ := literal_integer_eq_ok h
    rfl
  | single =>
    obtain ⟨-, value, -, -, -, rfl⟩ := literal_single_eq_ok h
    rfl
  | string =>
    obtain rfl := Except.ok.inj h
    rfl

/-! ## What a content lists -/

/-- **Where a value comes from.** The first data directive of a content quotes the value, or lists a
literal for it. -/
inductive Lists (content : String) : Datum → Prop
  | quoted {text : String} (declared : Declares content .string (.quoted text)) :
      Lists content (.string text)
  | listed {type : DataType} {raw field : String} {datum : Datum} (numeric : type ≠ .string)
      (declared : Declares content type (.values raw)) (mem : field ∈ fields raw)
      (denotes : literal type field = .ok datum) : Lists content datum

lemma Lists.declares {content : String} {datum : Datum} (h : Lists content datum) :
    ∃ operand, Declares content datum.type operand := by
  cases h with
  | quoted declared => exact ⟨_, declared⟩
  | listed numeric declared mem denotes => exact ⟨_, type_of_literal denotes ▸ declared⟩

lemma lists_iff_of_quoted {content text : String} {type : DataType} {datum : Datum}
    (h : Declares content type (.quoted text)) :
    Lists content datum ↔ type = .string ∧ datum = .string text := by
  constructor
  · intro hlists
    cases hlists with
    | quoted declared =>
      obtain ⟨htype, htext⟩ := h.unique declared
      cases htext
      exact ⟨htype, rfl⟩
    | listed numeric declared mem denotes => cases (h.unique declared).2
  · rintro ⟨rfl, rfl⟩
    exact .quoted h

lemma lists_iff_of_values {content raw : String} {type : DataType} {datum : Datum}
    (h : Declares content type (.values raw)) :
    Lists content datum ↔
      type ≠ .string ∧ ∃ field ∈ fields raw, literal type field = .ok datum := by
  constructor
  · intro hlists
    cases hlists with
    | quoted declared => cases (h.unique declared).2
    | listed numeric declared mem denotes =>
      obtain ⟨rfl, heq⟩ := h.unique declared
      cases heq
      exact ⟨numeric, _, mem, denotes⟩
  · rintro ⟨hnumeric, field, hfield, hdatum⟩
    exact .listed hnumeric h hfield hdatum

/-! ## What a data line gives -/

lemma tokenAt_mem_valueTokens {line : Line} {type : DataType} {fields : List String}
    {field : String} {datum : Datum} {tokens : List Token} {diagnostics : List Diagnostic}
    (h : valueTokens line type fields = .ok (tokens, diagnostics)) (hfield : field ∈ fields)
    (hdatum : literal type field = .ok datum) : tokenAt line (.data datum) ∈ tokens := by
  induction fields generalizing tokens diagnostics with
  | nil => cases hfield
  | cons first rest ih =>
    obtain ⟨tokens', diagnostics', hrest, hfirst⟩ := valueTokens_cons_eq_ok h
    rcases hfirst with ⟨datum', hliteral, rfl, rfl⟩ | ⟨fault, message, hliteral, -, rfl, rfl⟩
    · rcases List.mem_cons.mp hfield with rfl | hmem
      · obtain rfl := Except.ok.inj (hliteral.symm.trans hdatum)
        exact List.mem_cons_self
      · exact List.mem_cons_of_mem _ (ih hrest hmem)
    · rcases List.mem_cons.mp hfield with rfl | hmem
      · cases hliteral.symm.trans hdatum
      · exact ih hrest hmem

lemma mem_operandTokens_iff {line : Line} {type : DataType} {operand : Source.Operand}
    {tokens : List Token} {diagnostics : List Diagnostic}
    (hdeclares : Declares line.content type operand)
    (h : operandTokens line type operand = .ok (tokens, diagnostics)) (token : Token) :
    token ∈ tokens ↔ ∃ datum, Lists line.content datum ∧ token = tokenAt line (.data datum) := by
  have hvalues : ∀ raw, operand = .values raw → type ≠ .string →
      valueTokens line type (fields raw) = .ok (tokens, diagnostics) → (token ∈ tokens ↔
        ∃ datum, Lists line.content datum ∧ token = tokenAt line (.data datum)) := by
    rintro raw rfl hnumeric hvalues
    simp only [lists_iff_of_values hdeclares]
    constructor
    · intro hmem
      obtain ⟨field, hfield, datum, hdatum, htoken⟩ := (mem_valueTokens hvalues).1 token hmem
      exact ⟨datum, ⟨hnumeric, field, hfield, hdatum⟩, htoken⟩
    · rintro ⟨datum, ⟨-, field, hfield, hdatum⟩, rfl⟩
      exact tokenAt_mem_valueTokens hvalues hfield hdatum
  cases operand with
  | quoted text =>
    simp only [lists_iff_of_quoted hdeclares]
    cases type <;> obtain ⟨rfl, -⟩ := Prod.mk.inj (Except.ok.inj h) <;> simp
  | values raw =>
    cases type with
    | integer type => exact hvalues raw rfl (by simp) h
    | single => exact hvalues raw rfl (by simp) h
    | string =>
      simp only [lists_iff_of_values hdeclares]
      obtain ⟨rfl, -⟩ := Prod.mk.inj (Except.ok.inj h)
      simp

lemma mem_dataLine_iff {line : Line} {tokens : List Token} {diagnostics : List Diagnostic}
    (h : dataLine line = .ok (tokens, diagnostics)) (token : Token) :
    token ∈ tokens ↔ ∃ datum, Lists line.content datum ∧ token = tokenAt line (.data datum) := by
  by_cases hdeclares : ∃ type operand, Declares line.content type operand
  · obtain ⟨type, operand, hdeclares⟩ := hdeclares
    rw [dataLine_of_declares hdeclares] at h
    exact mem_operandTokens_iff hdeclares h token
  · rw [dataLine_of_not_declares hdeclares] at h
    obtain ⟨rfl, -⟩ := Prod.mk.inj (Except.ok.inj h)
    refine iff_of_false List.not_mem_nil ?_
    rintro ⟨datum, hlists, -⟩
    exact hdeclares ⟨datum.type, hlists.declares⟩

/-- Only a data line gives values. -/
lemma category_of_mem_readLine {options : Options} {position : Nat} {line : Line}
    {tokens : List Token} {diagnostics : List Diagnostic} {token : Token} {datum : Datum}
    (h : readLine options position line = .ok (tokens, diagnostics)) (hmem : token ∈ tokens)
    (hitem : token.item = .data datum) : line.category = .data := by
  rw [readLine] at h
  split at h
  · next hcategory => exact hcategory
  · have hinstruction := (mem_instructionLine options line).1 token
    rw [Except.ok.inj h] at hinstruction
    obtain ⟨operation, input, output, rfl⟩ := hinstruction hmem
    cases hitem
  · obtain ⟨rfl, -⟩ := Prod.mk.inj (Except.ok.inj h)
    rcases labelLine_cases options position line with hnone | ⟨name, hlabel⟩
    · rw [hnone] at hmem
      cases hmem
    · rw [hlabel, List.mem_singleton] at hmem
      cases hmem
      cases hitem
  · obtain ⟨rfl, -⟩ := Prod.mk.inj (Except.ok.inj h)
    cases hmem
  · obtain ⟨rfl, -⟩ := Prod.mk.inj (Except.ok.inj h)
    cases hmem

/-! ## What a run gives -/

/-- A line gives a value: it is a data line that nothing was done about, and its content lists the
value. -/
def Gives (line : Line) (datum : Datum) : Prop :=
  line.processed = false ∧ line.category = .data ∧ Lists line.content datum

namespace Tokenization

variable {options : Options} {index position : Nat} {lines : List Line} {result : Tokenization}

lemma mem_ofLine_iff {line : Line} {token : Token} {datum : Datum}
    (h : ofLine options index position line = .ok result) (hitem : token.item = .data datum) :
    token ∈ result.tokens ↔ Gives line datum ∧ token = tokenAt line (.data datum) := by
  rcases ofLine_cases h with ⟨rfl, hskip⟩ | ⟨rfl, -, hunknown, -⟩ |
    ⟨tokens, diagnostics, rfl, hprocessed, -, hread⟩
  · refine iff_of_false List.not_mem_nil ?_
    rintro ⟨⟨hprocessed, hdata, -⟩, -⟩
    rcases hskip with hdone | ⟨hunknown, -⟩
    · cases hprocessed.symm.trans hdone
    · cases hdata.symm.trans hunknown
  · refine iff_of_false List.not_mem_nil ?_
    rintro ⟨⟨-, hdata, -⟩, -⟩
    cases hdata.symm.trans hunknown
  · have htokens : (empty.handle index line tokens diagnostics).tokens = tokens :=
      List.append_nil tokens
    rw [htokens]
    by_cases hcategory : line.category = .data
    · rw [readLine, hcategory] at hread
      rw [mem_dataLine_iff hread]
      constructor
      · rintro ⟨datum', hlists, rfl⟩
        obtain rfl : datum' = datum := Item.data.inj hitem
        exact ⟨⟨hprocessed, hcategory, hlists⟩, rfl⟩
      · rintro ⟨⟨-, -, hlists⟩, htoken⟩
        exact ⟨datum, hlists, htoken⟩
    · refine iff_of_false ?_ fun hgives => hcategory hgives.1.2.1
      intro hmem
      exact hcategory (category_of_mem_readLine hread hmem hitem)

/-- **The values of a run.** They are those that its lines give. -/
lemma mem_tokens_iff {token : Token} {datum : Datum}
    (h : (ofLinesFrom options index position lines).outcome = .ok result)
    (hitem : token.item = .data datum) :
    token ∈ result.tokens ↔
      ∃ line ∈ lines, Gives line datum ∧ token = tokenAt line (.data datum) := by
  induction lines generalizing index position result with
  | nil =>
    obtain rfl := Except.ok.inj h
    simp [empty]
  | cons line rest ih =>
    obtain ⟨first, second, hfirst, hsecond, rfl⟩ := outcome_ofLinesFrom_cons_eq_ok h
    rw [tokens_append, List.mem_append, mem_ofLine_iff hfirst hitem, ih hsecond,
      List.exists_mem_cons_iff]

end Tokenization

/-! ## What a value is worth -/

/-- A value is one that its type can hold, found at a line with the content: an integer in the range
of the type, which its bytes hold, a single that rounding leaves as it is, or a part of the content
without a quote. -/
def Datum.IsOfType (content : String) : Datum → Prop
  | .integer type value =>
    type.admits value = true ∧ (type.encode value).length = type.width.bytes ∧
      type.decode (type.encode value) = value
  | .single value => Binary.IsSingle value ∧ Binary.roundToSingle? value = some value
  | .string text => text.toList <:+: content.toList ∧ '"' ∉ text.toList

lemma isOfType_of_literal {content text : String} {type : DataType} {datum : Datum}
    (hnumeric : type ≠ .string) (h : literal type text = .ok datum) : datum.IsOfType content := by
  cases type with
  | integer type =>
    obtain ⟨value, rfl, hadmits⟩ := literal_integer_eq_ok h
    exact ⟨hadmits, type.length_encode value, IntegerType.decode_encode_iff.mpr hadmits⟩
  | single =>
    obtain ⟨real, value, -, -, hrounded, rfl⟩ := literal_single_eq_ok h
    have hsingle := Binary.isSingle_of_roundToSingle? hrounded
    exact ⟨hsingle, Binary.isSingle_iff.mp hsingle⟩
  | string => exact absurd rfl hnumeric

/-- Every value that a content lists is one that its type can hold. -/
lemma Lists.isOfType {content : String} {datum : Datum} (h : Lists content datum) :
    datum.IsOfType content := by
  cases h with
  | quoted declared => exact Source.quoted_of_declares declared
  | listed numeric declared mem denotes => exact isOfType_of_literal numeric denotes

namespace Tokenization

/-- **Values are of their types.** The tokens of a result are those of its yields, and every yield is
that of a line such that each value in it is of the type that the content of the line declares, and
one that this type can hold. -/
theorem values_are_of_their_types (options : Options) (lines : List Line) (result : Tokenization)
    (h : (ofLines options lines).outcome = .ok result) :
    result.tokens = result.yields.flatMap LineYield.tokens ∧
    ∀ yield ∈ result.yields, ∃ line, lines[yield.index]? = some line ∧
      ∀ token ∈ yield.tokens, ∀ datum, token.item = .data datum →
        (∃ operand, Declares line.content datum.type operand) ∧ datum.IsOfType line.content := by
  rw [outcome_ofLines] at h
  refine ⟨(tokens_of_ofLinesFrom h).1, fun yield hyield => ?_⟩
  obtain ⟨i, line, position, step, hindex, hline, hstep, hmem⟩ := exists_step_of_mem_yields h hyield
  rw [Nat.zero_add] at hindex
  refine ⟨line, hindex ▸ hline, fun token htoken datum hitem => ?_⟩
  have hstepToken : token ∈ step.tokens := by
    rw [(tokens_of_ofLine hstep).1]
    exact List.mem_flatMap.mpr ⟨yield, hmem, htoken⟩
  obtain ⟨⟨-, -, hlists⟩, -⟩ := (mem_ofLine_iff hstep hitem).mp hstepToken
  exact ⟨hlists.declares, hlists.isOfType⟩

/-- Values of every kind, at the ends of their ranges and rounded, in lines that a hand put together;
a second directive on a line is not read. -/
def extremeLines : List Line :=
  [⟨".DB8(-128, 0b1111111)", 3, "a", .data, false, by decide⟩,
   ⟨"x .DB16U(65535) .DB8(1)", 3, "b", .data, false, by decide⟩,
   ⟨".DBF(0.1)", 0, "c", .data, false, by decide⟩,
   ⟨".DBS\"a;b\"", 9, "c", .data, false, by decide⟩]

/-- The values of those lines are of their types. -/
theorem values_are_of_their_types_extremeLines :
    ∃ result, (ofLines {} extremeLines).outcome = .ok result ∧ result.values.length = 5 ∧
      ∀ yield ∈ result.yields, ∃ line, extremeLines[yield.index]? = some line ∧
        ∀ token ∈ yield.tokens, ∀ datum, token.item = .data datum →
          (∃ operand, Declares line.content datum.type operand) ∧
            datum.IsOfType line.content := by
  have hcount : (ofLines {} extremeLines).outcome.toOption.map (·.values.length) = some 5 := by
    decide +kernel
  cases h : (ofLines {} extremeLines).outcome with
  | error failure =>
    rw [h] at hcount
    cases hcount
  | ok result =>
    rw [h] at hcount
    exact ⟨result, rfl, Option.some.inj hcount,
      (values_are_of_their_types {} extremeLines result h).2⟩

end Tokenization

end Claw
