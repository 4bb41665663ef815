import Claw.Proofs.Binary.Exact
import Claw.Proofs.Infinite
import Claw.Proofs.Program.RoundTrip
import Mathlib.Data.Nat.Digits.Lemmas
import Mathlib.Tactic.LinearCombination

/-!
# Singles are written and read back

Every finite single has a decimal expansion that ends, and a value list may hold it: digits, a point
and a minus sign are all that it takes, however small the single is.  Listed so, singles come back as
they are, the sign of zero included.

* `decimalValue`: the number that digits before and behind a point denote;
* `ListedSingle`: a single and digits that denote exactly its magnitude, and `ListedSingle.numeral`,
  the numeral that is written;
* `real?_chars`: the numeral is read as what its digits denote.  Both roundings are exact for such a
  number (`Binary.FiniteSingle.ofReal_eq_widen`), which gives `literal_numeral`;
* `exists_listedSingle`: every finite single can be listed.  A fraction over a power of two has one
  decimal digit for each factor of the power (`fractionDigits`), 149 at the most.

The results are put together in `singles_are_preserved`.
-/

namespace Claw.Program

open Binary (FiniteSingle narrow widen)
open Numeral (takeDigits)

/-! ## Decimal expansions -/

/-- The values of digits. -/
def digitValues (digits : List (Fin 10)) : List Nat :=
  digits.map Fin.val

/-- The natural number with the given decimal digits, the first being the most significant. -/
def naturalValue (digits : List (Fin 10)) : Nat :=
  Nat.ofDigits 10 (digitValues digits).reverse

/-- The number that digits before and behind a point denote. -/
def decimalValue (whole fraction : List (Fin 10)) : ℚ :=
  naturalValue whole + naturalValue fraction / 10 ^ fraction.length

lemma naturalValue_append (front behind : List (Fin 10)) :
    naturalValue (front ++ behind) =
      naturalValue front * 10 ^ behind.length + naturalValue behind := by
  rw [naturalValue, digitValues, List.map_append, List.reverse_append, Nat.ofDigits_append,
    List.length_reverse, List.length_map, naturalValue, naturalValue, digitValues, digitValues]
  ring

/-- Moving the point behind the last digit. -/
lemma decimalValue_eq (whole fraction : List (Fin 10)) :
    decimalValue whole fraction =
      naturalValue (whole ++ fraction) * 10 ^ (-(fraction.length : Int)) := by
  rw [decimalValue, naturalValue_append, zpow_neg, zpow_natCast, ← div_eq_mul_inv]
  push_cast
  rw [add_div, mul_div_cancel_right₀ _ (by positivity)]

/-- A finite single, and digits that denote its magnitude. -/
structure ListedSingle where
  single : FiniteSingle
  whole : List (Fin 10)
  fraction : List (Fin 10)
  whole_ne_nil : whole ≠ []
  exact : decimalValue whole fraction = single.magnitude

/-- Digits as they are written. -/
def digitChars (digits : List (Fin 10)) : List Char :=
  digits.map fun d : Fin 10 => Nat.digitChar d

/-- The digits of a fraction behind a point, or nothing. -/
def pointed : List (Fin 10) → List Char
  | [] => []
  | fraction => '.' :: digitChars fraction

namespace ListedSingle

/-- The numeral without the sign. -/
def body (listed : ListedSingle) : List Char :=
  digitChars listed.whole ++ pointed listed.fraction

/-- The numeral of a listed single. -/
def chars (listed : ListedSingle) : List Char :=
  if listed.single.negative then '-' :: listed.body else listed.body

/-- The numeral of a listed single. -/
def numeral (listed : ListedSingle) : String :=
  String.ofList listed.chars

/-- The value of a listed single, as a double. -/
def datum (listed : ListedSingle) : Datum :=
  .single (widen listed.single.number)

end ListedSingle

/-- The list of singles between the parentheses of a directive. -/
def singleList (listed : List ListedSingle) : String :=
  ", ".intercalate (listed.map ListedSingle.numeral)

/-! ## The characters of a numeral -/

lemma isDigit_digitChar (d : Fin 10) : (Nat.digitChar d).isDigit = true := by
  revert d
  decide

lemma isNumeralChar_of_mem_digitChars {digits : List (Fin 10)} {c : Char}
    (h : c ∈ digitChars digits) : Numeral.isNumeralChar c = true := by
  obtain ⟨d, -, rfl⟩ := List.mem_map.mp h
  exact Numeral.isNumeralChar_of_isDigit (isDigit_digitChar d)

lemma isNumeralChar_of_mem_pointed {fraction : List (Fin 10)} {c : Char}
    (h : c ∈ pointed fraction) : Numeral.isNumeralChar c = true := by
  cases fraction with
  | nil => cases h
  | cons d fraction =>
    rcases List.mem_cons.mp h with rfl | hdigit
    · rfl
    · exact isNumeralChar_of_mem_digitChars hdigit

lemma ListedSingle.isNumeralChar_of_mem_chars {listed : ListedSingle} {c : Char}
    (h : c ∈ listed.chars) : Numeral.isNumeralChar c = true := by
  have hbody : ∀ c ∈ listed.body, Numeral.isNumeralChar c = true := by
    refine List.forall_mem_append.mpr ⟨?_, ?_⟩
    · exact fun c => isNumeralChar_of_mem_digitChars
    · exact fun c => isNumeralChar_of_mem_pointed
  rw [chars] at h
  split at h
  · rcases List.mem_cons.mp h with rfl | hc
    · rfl
    · exact hbody c hc
  · exact hbody c h

lemma ListedSingle.exists_body_eq (listed : ListedSingle) :
    ∃ c cs, listed.body = c :: cs ∧ c.isDigit = true := by
  obtain ⟨d, ds, hwhole⟩ := List.exists_cons_of_ne_nil listed.whole_ne_nil
  refine ⟨Nat.digitChar d, digitChars ds ++ pointed listed.fraction, ?_, isDigit_digitChar d⟩
  rw [body, hwhole]
  rfl

namespace ListedSingle

variable (listed : ListedSingle)

lemma isNumeralChar_of_mem_numeral :
    ∀ c ∈ listed.numeral.toList, Numeral.isNumeralChar c = true := by
  intro c hc
  rw [numeral, String.toList_ofList] at hc
  exact isNumeralChar_of_mem_chars hc

lemma numeral_ne_empty : listed.numeral ≠ "" := by
  obtain ⟨c, cs, hbody, -⟩ := listed.exists_body_eq
  rw [numeral, ne_eq, String.ofList_eq_empty_iff, chars, hbody]
  split <;> simp

end ListedSingle

/-! ## Reading a numeral -/

lemma digit?_digitChar (d : Fin 10) : Numeral.digit? 10 (Nat.digitChar d) = some d.val := by
  revert d
  decide

/-- Digits are taken up to something that is neither a digit nor an underscore. -/
lemma takeDigits_digitChars (digits : List (Fin 10)) {rest : List Char}
    (h : ∀ c ∈ rest.head?, c ≠ '_' ∧ Numeral.digit? 10 c = none) :
    takeDigits 10 (digitChars digits ++ rest) = (digitValues digits, rest) := by
  induction digits with
  | nil =>
    -- the reader looks two characters ahead for an underscore, so its cases are not those of the text
    refine Numeral.takeDigits_of_fst_eq_nil ?_
    cases rest with
    | nil => rfl
    | cons c rest =>
      have hc := (h c rfl).2
      show (takeDigits 10 (c :: rest)).1 = []
      generalize htext : c :: rest = text
      fun_cases takeDigits 10 text <;> simp_all
  | cons d digits ih =>
    have hhead : (digitChars digits ++ rest).head? ≠ some '_' := by
      cases digits with
      | nil => exact fun hunderscore => (h '_' hunderscore).1 rfl
      | cons e digits =>
        have hall : ∀ d : Fin 10, some (Nat.digitChar d) ≠ some '_' := by decide
        exact hall e
    have htaken := Numeral.takeDigits_cons (digit?_digitChar d) hhead
    rw [ih] at htaken
    exact htaken

lemma takeFraction_pointed (fraction : List (Fin 10)) :
    Numeral.takeFraction (pointed fraction) = (digitValues fraction, []) := by
  cases fraction with
  | nil => rfl
  | cons d fraction =>
    have htaken := @takeDigits_digitChars (d :: fraction) [] (by simp)
    rwa [List.append_nil] at htaken

lemma positional_digitValues (digits : List (Fin 10)) :
    Numeral.positional 10 (digitValues digits) = naturalValue digits := by
  rw [Numeral.positional_eq, naturalValue]

namespace ListedSingle

variable (listed : ListedSingle)

lemma unsignedReal?_body (negative : Bool) :
    Numeral.unsignedReal? negative listed.body =
      some (.number negative (naturalValue (listed.whole ++ listed.fraction))
        (-(listed.fraction.length : Int))) := by
  have hpoint : ∀ c ∈ (pointed listed.fraction).head?, c ≠ '_' ∧ Numeral.digit? 10 c = none := by
    intro c hc
    unfold pointed at hc
    split at hc
    · cases hc
    · obtain rfl := Option.some.inj hc
      decide
  have htaken := takeDigits_digitChars listed.whole hpoint
  have hwhole : (digitValues listed.whole).isEmpty = false := by
    simpa [digitValues] using listed.whole_ne_nil
  have hjoined : digitValues listed.whole ++ digitValues listed.fraction =
      digitValues (listed.whole ++ listed.fraction) := by
    simp [digitValues]
  have hlength : (digitValues listed.fraction).length = listed.fraction.length := by
    simp [digitValues]
  obtain ⟨c, cs, hbody, hc⟩ := listed.exists_body_eq
  rw [hbody, Numeral.unsignedReal?_of_isDigit cs hc, ← hbody, body, Numeral.unsignedNumber?, htaken]
  simp only [takeFraction_pointed, hwhole, hjoined, hlength, positional_digitValues, Bool.false_and,
    Bool.false_eq_true, if_false, Numeral.exponent?, Option.map_some, zero_sub]

/-- **Numerals** denote what their digits denote, exactly. -/
lemma real?_chars :
    Numeral.real? listed.chars =
      some (.number listed.single.negative (naturalValue (listed.whole ++ listed.fraction))
        (-(listed.fraction.length : Int))) := by
  rw [chars]
  cases hnegative : listed.single.negative with
  | true => exact listed.unsignedReal?_body true
  | false =>
    obtain ⟨c, cs, hbody, hc⟩ := listed.exists_body_eq
    rw [← listed.unsignedReal?_body false, if_neg (by decide), hbody,
      Numeral.real?_of_isDigit cs hc]

/-- **A numeral for a single** is a literal for this single. -/
lemma literal_numeral : literal .single listed.numeral = .ok listed.datum := by
  have hreal : Numeral.real? (Text.trim listed.numeral.toList) =
      some (.number listed.single.negative (naturalValue (listed.whole ++ listed.fraction))
        (-(listed.fraction.length : Int))) := by
    rw [Numeral.trim_eq_of_isNumeralChar listed.isNumeralChar_of_mem_numeral, numeral,
      String.toList_ofList, listed.real?_chars]
  have hexact := (decimalValue_eq listed.whole listed.fraction).symm.trans listed.exact
  obtain ⟨hdouble, hsingle⟩ := listed.single.ofReal_eq_widen hexact
  have hascii := Numeral.isAscii_of_isNumeralChar listed.isNumeralChar_of_mem_numeral
  rw [literal_single_eq hascii hreal, hdouble, roundToSingle, hsingle]
  rfl

end ListedSingle

/-! ## Every single can be listed -/

/-- The digits behind the point of `rest` over a power of two: each of them takes one factor of two
off the power. -/
def fractionDigits : Nat → Nat → List (Fin 10)
  | 0, _ => []
  | k + 1, rest =>
    if rest = 0 then []
    else Fin.ofNat 10 (5 * rest / 2 ^ k) :: fractionDigits k (5 * rest % 2 ^ k)

lemma naturalValue_fractionDigits {k rest : Nat} (h : rest < 2 ^ k) :
    (naturalValue (fractionDigits k rest) : ℚ) / 10 ^ (fractionDigits k rest).length =
      rest / 2 ^ k := by
  induction k generalizing rest with
  | zero =>
    obtain rfl : rest = 0 := by simpa using h
    simp [fractionDigits, naturalValue, digitValues]
  | succ k ih =>
    rw [fractionDigits]
    split_ifs with hrest
    · simp [hrest, naturalValue, digitValues]
    · have hdigit : 5 * rest / 2 ^ k < 10 := by
        rw [Nat.div_lt_iff_lt_mul (Nat.two_pow_pos k)]
        rw [pow_succ] at h
        omega
      have hvalue : naturalValue [Fin.ofNat 10 (5 * rest / 2 ^ k)] = 5 * rest / 2 ^ k := by
        simp [naturalValue, digitValues, Nat.mod_eq_of_lt hdigit]
      have hbehind := ih (Nat.mod_lt (5 * rest) (Nat.two_pow_pos k))
      have hdivision : (2 : ℚ) ^ k * (5 * rest / 2 ^ k : Nat) + (5 * rest % 2 ^ k : Nat) =
          5 * rest := by
        exact_mod_cast Nat.div_add_mod (5 * rest) (2 ^ k)
      rw [← List.singleton_append, naturalValue_append, hvalue, List.length_append,
        List.length_singleton, Nat.add_comm 1, pow_succ, pow_succ]
      -- ten times the fraction is the digit and what the other digits denote
      rw [div_eq_div_iff (by positivity) (by positivity)] at hbehind ⊢
      push_cast
      linear_combination 2 * 10 ^ (fractionDigits k (5 * rest % 2 ^ k)).length * hdivision +
        2 * hbehind

-- an eighth
example : fractionDigits 3 1 = [1, 2, 5] := by decide

lemma exists_naturalValue_eq (n : Nat) : ∃ digits, digits ≠ [] ∧ naturalValue digits = n := by
  induction n using Nat.strongRecOn with
  | ind n ih =>
    have hlast : naturalValue [Fin.ofNat 10 n] = n % 10 := by
      simp [naturalValue, digitValues]
    by_cases hn : n < 10
    · exact ⟨[Fin.ofNat 10 n], by simp, hlast.trans (Nat.mod_eq_of_lt hn)⟩
    · obtain ⟨digits, -, hdigits⟩ := ih (n / 10) (Nat.div_lt_self (by omega) (by decide))
      refine ⟨digits ++ [Fin.ofNat 10 n], by simp, ?_⟩
      rw [naturalValue_append, hdigits, hlast, List.length_singleton, pow_one, Nat.div_add_mod']

/-- **Expansions.** Every finite single can be listed. -/
lemma exists_listedSingle (x : FiniteSingle) : ∃ listed : ListedSingle, listed.single = x := by
  have hunit : Binary.single.unitExponent = 149 := rfl
  have hunits := x.units_rank
  generalize Binary.single.units x.rank = units at hunits
  obtain ⟨whole, hne, hwhole⟩ := exists_naturalValue_eq (units / 2 ^ 149)
  have hfraction := naturalValue_fractionDigits (Nat.mod_lt units (Nat.two_pow_pos 149))
  have hexact : decimalValue whole (fractionDigits 149 (units % 2 ^ 149)) = x.magnitude := by
    have hdivision : (2 : ℚ) ^ 149 * (units / 2 ^ 149 : Nat) + (units % 2 ^ 149 : Nat) = units := by
      exact_mod_cast Nat.div_add_mod units (2 ^ 149)
    rw [decimalValue, hwhole, hfraction, eq_comm, ← mul_left_inj' (c := 2 ^ 149) (by positivity),
      add_mul, div_mul_cancel₀ _ (by positivity), ← hunit, ← hunits, hunit, ← hdivision]
    ring
  exact ⟨⟨x, whole, _, hne, hexact⟩, rfl⟩

/-! ## Lists of singles -/

lemma isValueChar_of_mem_singleList (listed : List ListedSingle) :
    ∀ c ∈ (singleList listed).toList, Source.isValueChar c = true := by
  refine isValueChar_of_mem_intercalate fun text htext => ?_
  obtain ⟨one, -, rfl⟩ := List.mem_map.mp htext
  exact fun c hc => isValueChar_of_isNumeralChar (one.isNumeralChar_of_mem_numeral c hc)

lemma fields_singleList (listed : List ListedSingle) :
    fields (singleList listed) = listed.map ListedSingle.numeral := by
  refine fields_intercalate fun text htext => ?_
  obtain ⟨one, -, rfl⟩ := List.mem_map.mp htext
  exact .of_isNumeralChar one.numeral_ne_empty one.isNumeralChar_of_mem_numeral

/-- What a directive with a list of singles yields. -/
lemma readLine_singleList (options : Options) (position : Nat) (file : String)
    (listed : List ListedSingle) :
    readLine options position (.ofContent file 1 (listDirective .single (singleList listed))) =
      .ok (listed.map fun one => ⟨.data one.datum, 1, file⟩, []) := by
  have hchars := isValueChar_of_mem_singleList listed
  have hcategory := categoryOf_listDirective .single hchars
  have hdeclares : Source.Declares
      (Source.Line.ofContent file 1 (listDirective .single (singleList listed))).content .single
      (.values (singleList listed)) := declares_listDirective .single hchars
  rw [readLine, show (Source.Line.ofContent file 1 _).category = .data from hcategory]
  simp only [dataLine_of_declares hdeclares, operandTokens, fields_singleList]
  exact valueTokens_map _ ListedSingle.literal_numeral listed

/-- **Singles are preserved.** Whatever the options, a directive that lists singles, each by a
numeral with its sign and exactly its magnitude, is read without diagnostics and gives one token for
each of them, in order.  The value of the token is the double of the single, from which narrowing
gives back the single with all of its bits; and there is such a numeral for every finite single. -/
theorem singles_are_preserved (options : Options) (file : String) (first : ListedSingle)
    (others : List ListedSingle) :
    (∃ result, (Tokenization.ofLines options (Source.read
        (listDirective .single (singleList (first :: others))) file)).outcome = .ok result ∧
      result.diagnostics = [] ∧
      result.tokens = (first :: others).map fun listed =>
        ⟨.data (.single (widen listed.single.number)), 1, file⟩) ∧
    (∀ x : FiniteSingle, narrow (widen x.number) = some (.finite x.negative x.rank)) ∧
    ∀ (negative : Bool) (rank : Fin Binary.single.ranks),
      ∃ listed : ListedSingle, listed.single.number = .finite negative rank := by
  refine ⟨?_, fun x => Binary.narrow_widen x.number, fun negative rank => ?_⟩
  · have hchars := isValueChar_of_mem_singleList (first :: others)
    have hcategory := categoryOf_listDirective .single hchars
    have hread := readLine_singleList options 0 file (first :: others)
    rw [read_listDirective .single file hchars]
    refine ⟨_, Tokenization.outcome_ofLines_singleton ?_ ?_ hread, rfl, List.append_nil _⟩
    · exact beq_eq_false_iff_ne.mpr (by simp [hcategory])
    · simp [Source.Line.ofContent, hcategory]
  · obtain ⟨x, hx⟩ := FiniteSingle.exists_number_eq negative rank
    obtain ⟨listed, hlisted⟩ := exists_listedSingle x
    exact ⟨listed, hlisted ▸ hx⟩

end Claw.Program
