import Claw.Proofs.Binary.Overflow
import Claw.Proofs.Overlong
import Claw.Proofs.Values

/-!
# When a single becomes infinite

A literal of the single type is rounded twice, to a double and then to a single.  A finite double
beyond the singles is a fault of the literal.  A number beyond the doubles is not: the first rounding
makes an infinity of it, and the second passes an infinity on.  This file says exactly which literals
and which sources meet that gap.

* `SpellsSpecial`: the text is a word for an infinity or for not-a-number;
* `IsTooLarge`: the text is a numeral for a number that is not below `Binary.overflowBound`;
* `HasTooLarge`: the content of a line lists such a numeral as a single;
* `largeNumeral`: a numeral that meets the gap.

`literal_single_cases` settles literals, `gives_infinite_iff` lines, and `infinite_single_iff` puts
literals and sources together.  `large_numeral_is_infinite` is a literal and a source that meet the
gap.  A value list cannot spell the words (`not_spellsSpecial_of_mem_fields`), so in a source the gap
is the only way to an infinity.
-/

namespace Claw

open Binary (IsSingle overflowBound)
open Source (Line Declares)

/-! ## What numerals denote -/

/-- The text is, in any case and behind a sign or none, a word for what is no finite number. -/
def SpellsSpecial (text : String) : Prop :=
  ∃ sign ∈ ["", "+", "-"], ∃ word ∈ ["inf", "infinity", "nan"],
    (Text.trim text.toList).map Char.toLower = (sign ++ word).toList

/-- The text is a numeral for a number that is not below the bound. -/
def IsTooLarge (negative : Bool) (text : String) : Prop :=
  isAscii text = true ∧ ∃ coefficient exponent,
    Numeral.real? (Text.trim text.toList) = some (.number negative coefficient exponent) ∧
      (overflowBound : ℚ) ≤ coefficient * 10 ^ exponent

namespace Numeral

lemma exists_number_of_unsignedNumber? {negative : Bool} {cs : List Char} {real : Real}
    (h : unsignedNumber? negative cs = some real) :
    ∃ coefficient exponent, real = .number negative coefficient exponent := by
  unfold unsignedNumber? at h
  dsimp only at h
  split at h
  · contradiction
  · obtain ⟨e, -, rfl⟩ := Option.map_eq_some_iff.mp h
    exact ⟨_, _, rfl⟩

/-- Without a sign, what is denoted is a number unless the text is one of the words. -/
lemma unsignedReal?_cases {negative : Bool} {cs : List Char} {real : Real}
    (h : unsignedReal? negative cs = some real) :
    (∃ coefficient exponent, real = .number negative coefficient exponent) ∨
      ∃ word ∈ ["inf", "infinity", "nan"], cs.map Char.toLower = word.toList := by
  unfold unsignedReal? at h
  dsimp only at h
  split_ifs at h with hnan hinfinity
  · refine .inr ⟨"nan", by simp, ?_⟩
    rw [← hnan, String.toList_ofList]
  · rcases hinfinity with hword | hword
    · refine .inr ⟨"inf", by simp, ?_⟩
      rw [← hword, String.toList_ofList]
    · refine .inr ⟨"infinity", by simp, ?_⟩
      rw [← hword, String.toList_ofList]
  · exact .inl (exists_number_of_unsignedNumber? h)

lemma real?_cases {text : String} {real : Real} (h : real? (Text.trim text.toList) = some real) :
    (∃ negative coefficient exponent, real = .number negative coefficient exponent) ∨
      SpellsSpecial text := by
  -- a sign is no letter, so it stays what it is in front of the word
  have hcases : ∀ negative cs, unsignedReal? negative cs = some real → ∀ sign ∈ ["", "+", "-"],
      (Text.trim text.toList).map Char.toLower = sign.toList ++ cs.map Char.toLower →
      (∃ negative coefficient exponent, real = .number negative coefficient exponent) ∨
        SpellsSpecial text := by
    intro negative cs hreal sign hsign hlower
    rcases unsignedReal?_cases hreal with ⟨coefficient, exponent, rfl⟩ | ⟨word, hword, hcs⟩
    · exact .inl ⟨negative, coefficient, exponent, rfl⟩
    · exact .inr ⟨sign, hsign, word, hword, by rw [hlower, hcs, String.toList_append]⟩
  generalize Text.trim text.toList = body at h hcases
  unfold real? at h
  split at h
  · exact hcases _ _ h "+" (by simp) rfl
  · exact hcases _ _ h "-" (by simp) rfl
  · exact hcases _ _ h "" (by simp) rfl

end Numeral

/-! ## Literals -/

lemma literal_single_eq {text : String} {real : Numeral.Real} (hascii : isAscii text = true)
    (hreal : Numeral.real? (Text.trim text.toList) = some real) :
    literal .single text = (roundToSingle (.ofReal real)).map .single := by
  rw [literal, hascii, singleLiteral, hreal]
  rfl

lemma literal_of_isTooLarge {negative : Bool} {text : String} (h : IsTooLarge negative text) :
    literal .single text = .ok (.single (.infinite negative)) := by
  obtain ⟨hascii, coefficient, exponent, hreal, hbound⟩ := h
  rw [literal_single_eq hascii hreal]
  rcases Binary.Number.ofReal_number_cases negative coefficient exponent with
    ⟨-, hinfinite⟩ | ⟨hbelow, -⟩
  · rw [hinfinite]
    rfl
  · exact absurd hbound hbelow

lemma literal_of_ofReal_eq_finite {text : String} {real : Numeral.Real} {negative : Bool}
    {rank : Fin Binary.double.ranks} (hascii : isAscii text = true)
    (hreal : Numeral.real? (Text.trim text.toList) = some real)
    (hfinite : Binary.Number.ofReal real = .finite negative rank) :
    (∃ value, literal .single text = .ok (.single value) ∧ value.isFinite = true ∧
        IsSingle value) ∨
      ∃ fault message, literal .single text = .error fault ∧ fault.message = .ok message := by
  rw [literal_single_eq hascii hreal, hfinite, roundToSingle]
  split
  · next value hvalue =>
    refine .inl ⟨value, rfl, ?_, Binary.isSingle_of_roundToSingle? hvalue⟩
    rcases Binary.roundToSingle?_cases hvalue with ⟨hnot, -⟩ | ⟨negative', -, rank', -, rfl⟩
    · cases hnot
    · rfl
  · exact .inr ⟨_, _, rfl, rfl⟩

/-- **Literals of the single type.** Unless it spells one of the words, a literal is too large and
denotes an infinity, or it is not and denotes a finite single or is at fault. -/
lemma literal_single_cases (text : String) :
    SpellsSpecial text ∨
      (∃ negative, IsTooLarge negative text ∧
        literal .single text = .ok (.single (.infinite negative))) ∨
      (∀ negative, ¬IsTooLarge negative text) ∧
        ((∃ value, literal .single text = .ok (.single value) ∧ value.isFinite = true ∧
            IsSingle value) ∨
          ∃ fault message, literal .single text = .error fault ∧ fault.message = .ok message) := by
  by_cases hascii : isAscii text = true
  swap
  · refine .inr (.inr ⟨fun negative h => hascii h.1, .inr ⟨.notNumeric (Text.trimmed text), _, ?_,
      rfl⟩⟩)
    rw [literal, if_pos (by simpa using hascii)]
  cases hreal : Numeral.real? (Text.trim text.toList) with
  | none =>
    refine .inr (.inr ⟨?_, .inr ⟨.notReal (String.ofList (Text.trim text.toList)), _, ?_, rfl⟩⟩)
    · rintro negative ⟨-, coefficient, exponent, hnumber, -⟩
      cases hreal.symm.trans hnumber
    · rw [literal, hascii, singleLiteral, hreal]
      rfl
  | some real =>
    rcases Numeral.real?_cases hreal with ⟨negative, coefficient, exponent, rfl⟩ | hspecial
    swap
    · exact .inl hspecial
    refine .inr ?_
    rcases Binary.Number.ofReal_number_cases negative coefficient exponent with
      ⟨hbound, -⟩ | ⟨hbelow, rank, hfinite⟩
    · have hlarge : IsTooLarge negative text := ⟨hascii, coefficient, exponent, hreal, hbound⟩
      exact .inl ⟨negative, hlarge, literal_of_isTooLarge hlarge⟩
    · refine .inr ⟨?_, literal_of_ofReal_eq_finite hascii hreal hfinite⟩
      rintro negative' ⟨-, coefficient', exponent', hnumber, hbound⟩
      cases hreal.symm.trans hnumber
      exact hbelow hbound

/-! ## Value lists -/

lemma mem_of_mem_fields {raw field : String} {c : Char} (hfield : field ∈ fields raw)
    (hc : c ∈ field.toList) : c ∈ raw.toList := by
  obtain ⟨trimmed, htrimmed, hsome⟩ := List.mem_filterMap.mp hfield
  obtain ⟨piece, hpiece, rfl⟩ := List.mem_map.mp htrimmed
  split at hsome
  · contradiction
  · obtain rfl := Option.some.inj hsome
    rw [String.toList_ofList] at hc
    exact Text.mem_of_mem_pieces hpiece (Text.mem_of_mem_trim hc)

/-- No character of a value list is an `n`, which every one of the words has. -/
lemma toLower_ne_of_isValueChar {c : Char} (h : Source.isValueChar c = true) : c.toLower ≠ 'n' := by
  intro hlower
  have hletter : c = 'n' ∨ c = 'N' := by
    unfold Char.toLower at hlower
    split at hlower
    · have hvalue : c.val + ('a'.val - 'A'.val) = 'n'.val := congrArg Char.val hlower
      have hupper : c.val = 'N'.val := by
        simpa using congrArg (· - ('a'.val - 'A'.val)) hvalue
      exact .inr (Char.ext hupper)
    · exact .inl hlower
  rcases hletter with rfl | rfl <;> exact absurd h (by decide)

/-- A value list cannot spell the words. -/
lemma not_spellsSpecial_of_mem_fields {content raw field : String} {type : DataType}
    (hdeclares : Declares content type (.values raw)) (hfield : field ∈ fields raw) :
    ¬SpellsSpecial field := by
  rintro ⟨sign, hsign, word, hword, hlower⟩
  have hn : 'n' ∈ (sign ++ word).toList := by
    rw [String.toList_append]
    refine List.mem_append_right _ ?_
    simp only [List.mem_cons, List.not_mem_nil, or_false] at hword
    rcases hword with rfl | rfl | rfl <;> decide
  rw [← hlower] at hn
  obtain ⟨c, hc, hcn⟩ := List.mem_map.mp hn
  have hraw : c ∈ raw.toList := mem_of_mem_fields hfield (Text.mem_of_mem_trim hc)
  exact toLower_ne_of_isValueChar (Source.isValueChar_of_declares hdeclares c hraw) hcn

/-- The first data directive of the text lists, as a single, a numeral for a number that is too
large. -/
def HasTooLarge (negative : Bool) (content : String) : Prop :=
  ∃ raw, Declares content .single (.values raw) ∧ ∃ field ∈ fields raw, IsTooLarge negative field

lemma Lists.single_cases {content : String} {value : Binary.Number Binary.double}
    (h : Lists content (.single value)) :
    value.isFinite = true ∧ IsSingle value ∨
      ∃ negative, value = .infinite negative ∧ HasTooLarge negative content := by
  cases h with
  | listed numeric declared mem denotes =>
    obtain rfl := type_of_literal denotes
    rcases literal_single_cases _ with hspecial | ⟨negative, hlarge, hinfinite⟩ |
      ⟨-, ⟨value', hliteral, hfinite, hsingle⟩ | ⟨fault, -, hfault, -⟩⟩
    · exact absurd hspecial (not_spellsSpecial_of_mem_fields declared mem)
    · cases hinfinite.symm.trans denotes
      exact .inr ⟨negative, rfl, _, declared, _, mem, hlarge⟩
    · cases hliteral.symm.trans denotes
      exact .inl ⟨hfinite, hsingle⟩
    · cases hfault.symm.trans denotes

/-- A content lists an infinite single just if it lists a numeral for a number that is too large. -/
lemma lists_infinite_iff {content : String} {negative : Bool} :
    Lists content (.single (.infinite negative)) ↔ HasTooLarge negative content := by
  constructor
  · intro h
    rcases h.single_cases with ⟨hfinite, -⟩ | ⟨negative', heq, hlarge⟩
    · cases hfinite
    · cases heq
      exact hlarge
  · rintro ⟨raw, declared, field, mem, hlarge⟩
    exact .listed (by simp) declared mem (literal_of_isTooLarge hlarge)

/-! ## Sources -/

namespace Tokenization

lemma gives_iff_of_mem_read {text file : String} {line : Line} {datum : Datum}
    (h : line ∈ Source.read text file) :
    Gives line datum ↔ line.category = .data ∧ Lists line.content datum := by
  refine ⟨fun hgives => hgives.2, fun hlists => ⟨?_, hlists⟩⟩
  exact Source.processed_eq_false_of_mem h (by simp [hlists.1])

variable {options : Options} {text file : String} {result : Tokenization}

/-- A value in the result of a source is listed by a data line of the source. -/
lemma exists_mem_tokens_iff
    (h : (ofLines options (Source.read text file)).outcome = .ok result) (datum : Datum) :
    (∃ token ∈ result.tokens, token.item = .data datum) ↔
      ∃ line ∈ Source.read text file, line.category = .data ∧ Lists line.content datum := by
  rw [outcome_ofLines] at h
  constructor
  · rintro ⟨token, hmem, hitem⟩
    obtain ⟨line, hline, hgives, -⟩ := (mem_tokens_iff h hitem).mp hmem
    exact ⟨line, hline, (gives_iff_of_mem_read hline).mp hgives⟩
  · rintro ⟨line, hline, hlists⟩
    refine ⟨tokenAt line (.data datum), (mem_tokens_iff h rfl).mpr ⟨line, hline, ?_, rfl⟩, rfl⟩
    exact (gives_iff_of_mem_read hline).mpr hlists

end Tokenization

/-- **The gap.** Unless it spells a word for an infinity or for not-a-number, a literal of the single
type denotes an infinity if it is too large, and otherwise denotes a finite single or is at fault.
The singles in the result of a source are finite singles or infinities, and there is an infinity
just if one of its data lines lists a numeral for a number that is too large. -/
theorem infinite_single_iff (literalText : String) (options : Options) (text file : String) :
    (SpellsSpecial literalText ∨
      (∃ negative, IsTooLarge negative literalText ∧
        literal .single literalText = .ok (.single (.infinite negative))) ∨
      (∀ negative, ¬IsTooLarge negative literalText) ∧
        ((∃ value, literal .single literalText = .ok (.single value) ∧ value.isFinite = true ∧
            IsSingle value) ∨
          ∃ fault message, literal .single literalText = .error fault ∧
            fault.message = .ok message)) ∧
    ∀ result, (Tokenization.ofLines options (Source.read text file)).outcome = .ok result →
      (∀ token ∈ result.tokens, ∀ value, token.item = .data (.single value) →
        value.isFinite = true ∧ IsSingle value ∨ ∃ negative, value = .infinite negative) ∧
      ∀ negative,
        (∃ token ∈ result.tokens, token.item = .data (.single (.infinite negative))) ↔
          ∃ line ∈ Source.read text file, line.category = .data ∧
            HasTooLarge negative line.content := by
  refine ⟨literal_single_cases literalText, fun result h => ⟨?_, fun negative => ?_⟩⟩
  · intro token hmem value hitem
    obtain ⟨line, -, -, hlists⟩ :=
      (Tokenization.exists_mem_tokens_iff h _).mp ⟨token, hmem, hitem⟩
    rcases hlists.single_cases with hfinite | ⟨negative, hinfinite, -⟩
    · exact .inl hfinite
    · exact .inr ⟨negative, hinfinite⟩
  · rw [Tokenization.exists_mem_tokens_iff h]
    simp only [lists_infinite_iff]

/-- A source of two singles. -/
theorem infinite_single_iff_finite :
    ∃ result, (Tokenization.ofLines {} (Source.read ".DBF(0.1, -.5)" "")).outcome = .ok result ∧
      result.values.length = 2 ∧
      ∀ token ∈ result.tokens, ∀ value, token.item = .data (.single value) →
        value.isFinite = true ∧ IsSingle value ∨ ∃ negative, value = .infinite negative := by
  have hcount : (Tokenization.ofLines {} (Source.read ".DBF(0.1, -.5)" "")).outcome.toOption.map
      (·.values.length) = some 2 := by
    decide +kernel
  cases h : (Tokenization.ofLines {} (Source.read ".DBF(0.1, -.5)" "")).outcome with
  | error failure =>
    rw [h] at hcount
    cases hcount
  | ok result =>
    rw [h] at hcount
    exact ⟨result, rfl, Option.some.inj hcount,
      ((infinite_single_iff "1e39" {} ".DBF(0.1, -.5)" "").2 result h).1⟩

/-! ## The gap is met -/

lemma isTooLarge_numeral {n : Nat} (h : overflowBound ≤ n) :
    IsTooLarge false (Numeral.Spelling.decimal.numeral n) := by
  refine ⟨Numeral.Spelling.isAscii_numeral _ _, n, 0, ?_, ?_⟩
  · have hsign : decide ((n : Int) < 0) = false := decide_eq_false (Int.natCast_nonneg n).not_gt
    rw [Numeral.Spelling.trim_numeral, Numeral.real?_numeral, hsign, Int.natAbs_natCast]
  · rw [zpow_zero, mul_one]
    exact_mod_cast h

/-- The numeral of the least number that is too large, of 309 digits. -/
def largeNumeral : String :=
  Numeral.Spelling.decimal.numeral overflowBound

lemma isValueChar_of_mem_largeNumeral : ∀ c ∈ largeNumeral.toList, Source.isValueChar c = true :=
  Program.isValueChar_of_mem_numeral _ _

lemma mem_fields_largeNumeral : largeNumeral ∈ fields largeNumeral := by
  rw [largeNumeral, fields_numeral]
  exact List.mem_singleton_self _

/-- A source that lists singles only can be read. -/
lemma exists_outcome_listDirective_single {raw : String}
    (h : ∀ c ∈ raw.toList, Source.isValueChar c = true) (options : Options) (file : String) :
    ∃ result, (Tokenization.ofLines options
      (Source.read (Program.listDirective .single raw) file)).outcome = .ok result := by
  cases houtcome : (Tokenization.ofLines options
      (Source.read (Program.listDirective .single raw) file)).outcome with
  | ok result => exact ⟨result, rfl⟩
  | error failure =>
    obtain ⟨line, hline, -, type, raw', hdeclares, field, -, integerType, value, rfl, -⟩ :=
      Tokenization.exists_outcome_read_eq_error_iff.mp ⟨failure, houtcome⟩
    rw [Program.read_listDirective .single file h] at hline
    obtain rfl := List.mem_singleton.mp hline
    cases (hdeclares.unique (Program.declares_listDirective .single h)).1

lemma exists_infinite_of_mem_fields {raw field : String} {negative : Bool}
    (h : ∀ c ∈ raw.toList, Source.isValueChar c = true) (hfield : field ∈ fields raw)
    (hlarge : IsTooLarge negative field) (options : Options) (file : String) :
    ∃ result, (Tokenization.ofLines options
        (Source.read (Program.listDirective .single raw) file)).outcome = .ok result ∧
      ∃ token ∈ result.tokens, token.item = .data (.single (.infinite negative)) := by
  obtain ⟨result, hresult⟩ := exists_outcome_listDirective_single h options file
  refine ⟨result, hresult, ?_⟩
  rw [Tokenization.exists_mem_tokens_iff hresult, Program.read_listDirective .single file h]
  refine ⟨_, List.mem_singleton_self _, Program.categoryOf_listDirective .single h, ?_⟩
  exact lists_infinite_iff.mpr
    ⟨raw, Program.declares_listDirective .single h, field, hfield, hlarge⟩

/-- The gap is met by a literal that is a plain numeral, and by a source of one line. -/
theorem large_numeral_is_infinite :
    ¬SpellsSpecial largeNumeral ∧
    literal .single largeNumeral = .ok (.single (.infinite false)) ∧
    ∃ result, (Tokenization.ofLines {}
        (Source.read (Program.listDirective .single largeNumeral) "")).outcome = .ok result ∧
      ∃ token ∈ result.tokens, token.item = .data (.single (.infinite false)) := by
  have hlarge : IsTooLarge false largeNumeral := isTooLarge_numeral le_rfl
  refine ⟨?_, literal_of_isTooLarge hlarge, ?_⟩
  · exact not_spellsSpecial_of_mem_fields
      (Program.declares_listDirective .single isValueChar_of_mem_largeNumeral)
      mem_fields_largeNumeral
  · exact exists_infinite_of_mem_fields isValueChar_of_mem_largeNumeral mem_fields_largeNumeral
      hlarge {} ""

end Claw
