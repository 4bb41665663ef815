import Claw.Proofs.Grammar.Integer

/-!
# Numerals as they are written

Every integer has a decimal numeral and a binary one, and reading either gives the integer back.

* `Spelling`: the two ways to write an integer, and `Spelling.numeral`, the numeral;
* `exists_isDigitRun`: the digits that are written have the value of the number;
* `isNumeralChar`: the characters that are written;
* `isNatural_body`: what is written is a numeral in the sense of the grammar of integer literals;
* `integer?_numeral` and `literal_numeral`: the numeral is read as the integer, and as a literal of
  every type that admits it;
* `real?_numeral`: a decimal numeral is a real numeral too.

The limit on decimal digits is the one thing that a numeral can run into; a value of an integer type
stays far below it, and real numerals have none.
-/

namespace Claw

/-- No value of an integer type has more than ten digits. -/
lemma IntegerType.natAbs_lt_of_admits {type : IntegerType} {value : Int}
    (h : type.admits value = true) :
    value.natAbs < 10 ^ Numeral.digitLimit := by
  have hten : value.natAbs < 10 ^ 10 := by
    obtain ⟨signed, width⟩ := type
    simp only [IntegerType.admits, Bool.and_eq_true, decide_eq_true_eq] at h
    cases signed <;> cases width <;>
      simp [IntegerType.minimum, IntegerType.maximum, Width.bits, Width.bytes] at h <;> omega
  exact hten.trans_le (Nat.pow_le_pow_right (by decide) (by decide))

end Claw

namespace Claw.Numeral

lemma boundedText_eq (n : Int) :
    boundedText n = if n.natAbs < 10 ^ digitLimit then .ok (integerText n) else .error .mk := by
  have hpow : ∀ k, Nat.pow 10 k = 10 ^ k := fun k => rfl
  rw [boundedText, hpow]

/-! ## Digits -/

lemma IsDigitRun.concat {base d : Nat} {c : Char} {cs : List Char} {ds : List Nat}
    (h : IsDigitRun base cs ds) (hc : IsDigit base c d) :
    IsDigitRun base (cs ++ [c]) (ds ++ [d]) := by
  induction h with
  | single digit => exact .cons digit (.single hc)
  | cons digit _ ih => exact .cons digit ih
  | joined digit _ ih => exact .joined digit ih

lemma exists_isDigitRun {base : Nat} (n : Nat) (hone : 1 < base) :
    ∃ ds, IsDigitRun base (Nat.toDigits base n) ds ∧ ds.length = (Nat.toDigits base n).length ∧
      Nat.ofDigits base ds.reverse = n := by
  -- the last digit comes off the end, as in the recursion of the writer
  induction n using Nat.strongRecOn with
  | ind n ih =>
    rw [Nat.toDigits_eq_if hone]
    by_cases hn : n < base
    · rw [if_pos hn]
      exact ⟨[n], .single ⟨hn, .inl rfl⟩, rfl, Nat.ofDigits_singleton⟩
    · have hquotient : n / base < n := Nat.div_lt_self (by omega) hone
      have hremainder : n % base < base := Nat.mod_lt n (by omega)
      obtain ⟨ds, hrun, hlength, hvalue⟩ := ih (n / base) hquotient
      rw [if_neg hn]
      refine ⟨ds ++ [n % base], hrun.concat ⟨hremainder, .inl rfl⟩, by simp [hlength], ?_⟩
      rw [List.reverse_append, List.reverse_singleton, List.singleton_append, Nat.ofDigits_cons,
        hvalue, Nat.mod_add_div]

/-! ## The characters of numerals -/

/-- The characters that numerals are written with: digits, the letter of the binary base, the point
and the minus sign. -/
def isNumeralChar (c : Char) : Bool :=
  c.isDigit || ['b', '.', '-'].contains c

lemma isNumeralChar_of_isDigit {c : Char} (h : c.isDigit = true) : isNumeralChar c = true := by
  rw [isNumeralChar, h, Bool.true_or]

/-- They are ASCII characters behind the comma. -/
lemma toNat_bounds_of_isNumeralChar {c : Char} (h : isNumeralChar c = true) :
    45 ≤ c.toNat ∧ c.toNat < 0x80 := by
  rcases (Bool.or_eq_true _ _).mp h with hdigit | hsign
  · have hrange : 48 ≤ c.toNat ∧ c.toNat ≤ 57 := by simpa using Char.isDigit_iff_toNat.mp hdigit
    omega
  · simp only [List.contains_eq_mem, decide_eq_true_eq, List.mem_cons, List.not_mem_nil,
      or_false] at hsign
    rcases hsign with rfl | rfl | rfl <;> decide

lemma isBlank_of_isNumeralChar {c : Char} (h : isNumeralChar c = true) :
    Text.isBlank c = false := by
  have hbounds := toNat_bounds_of_isNumeralChar h
  simp only [Text.isBlank]
  grind

lemma trim_eq_of_isNumeralChar {cs : List Char} (h : ∀ c ∈ cs, isNumeralChar c = true) :
    Text.trim cs = cs :=
  Text.trim_eq_self_of_forall fun c hc => isBlank_of_isNumeralChar (h c hc)

lemma isAscii_of_isNumeralChar {text : String} (h : ∀ c ∈ text.toList, isNumeralChar c = true) :
    isAscii text = true :=
  List.all_eq_true.mpr fun c hc => decide_eq_true (toNat_bounds_of_isNumeralChar (h c hc)).2

/-! ## Numerals without sign -/

/-- The ways to write an integer. -/
inductive Spelling
  | decimal
  | binary
  deriving DecidableEq, Repr

/-- The numeral of a natural number. -/
def Spelling.body : Spelling → Nat → List Char
  | .decimal, n => Nat.toDigits 10 n
  | .binary, n => '0' :: 'b' :: Nat.toDigits 2 n

/-- The numeral of an integer. -/
def Spelling.numeral : Spelling → Int → String
  | .decimal, n => integerText n
  | .binary, n =>
    (if n < 0 then "-0b" else "0b") ++ String.ofList (Nat.toDigits 2 n.natAbs)

lemma Spelling.toList_numeral (spelling : Spelling) (n : Int) :
    (spelling.numeral n).toList =
      if n < 0 then '-' :: spelling.body n.natAbs else spelling.body n.natAbs := by
  cases spelling with
  | decimal =>
    simp only [numeral, integerText, naturalText, body]
    split <;> simp
  | binary =>
    simp only [numeral, body]
    split <;> simp

/-- A decimal numeral consists of digits, a binary one has the letter of its base as well. -/
lemma Spelling.isNumeralChar_of_mem_body {spelling : Spelling} {n : Nat} {c : Char}
    (h : c ∈ spelling.body n) : isNumeralChar c = true := by
  have hdigits : ∀ {base : Nat}, 0 < base → base ≤ 10 → c ∈ Nat.toDigits base n →
      isNumeralChar c = true :=
    fun hpos hten hc => isNumeralChar_of_isDigit (Nat.isDigit_of_mem_toDigits hpos hten hc)
  cases spelling with
  | decimal => exact hdigits (by decide) (by decide) h
  | binary =>
    rcases List.mem_cons.mp h with rfl | h
    · rfl
    · rcases List.mem_cons.mp h with rfl | h
      · rfl
      · exact hdigits (by decide) (by decide) h

/-- The numeral of a natural number is written as the number, unless it is decimal and too long. -/
lemma Spelling.isNatural_body {spelling : Spelling} {n : Nat}
    (h : spelling = .decimal → n < 10 ^ digitLimit) : IsNatural (spelling.body n) n := by
  cases spelling with
  | decimal =>
    have hlength : (Nat.toDigits 10 n).length ≤ digitLimit :=
      (Nat.length_toDigits_le_iff (by decide) (by decide)).mpr (h rfl)
    obtain ⟨ds, hrun, hsame, hvalue⟩ := exists_isDigitRun n (show 1 < 10 by decide)
    have hbody := IsNatural.decimal hrun (hsame ▸ hlength)
    rwa [hvalue] at hbody
  | binary =>
    have hletter : ('b', 2) ∈ announcements := by decide
    obtain ⟨ds, hrun, -, hvalue⟩ := exists_isDigitRun n (show 1 < 2 by decide)
    have hbody := IsNatural.announced hletter (.inl rfl) hrun
    rwa [hvalue] at hbody

/-! ## Numerals with sign -/

lemma Spelling.isNumeralChar_of_mem_numeral (spelling : Spelling) (n : Int) :
    ∀ c ∈ (spelling.numeral n).toList, isNumeralChar c = true := by
  intro c h
  rw [toList_numeral] at h
  split at h
  · rcases List.mem_cons.mp h with rfl | h
    · rfl
    · exact isNumeralChar_of_mem_body h
  · exact isNumeralChar_of_mem_body h

lemma Spelling.exists_body_eq_cons (spelling : Spelling) (n : Nat) :
    ∃ c cs, spelling.body n = c :: cs ∧ c.isDigit = true := by
  cases spelling with
  | decimal =>
    have hne : Nat.toDigits 10 n ≠ [] := Nat.toDigits_ne_nil
    obtain ⟨c, cs, hbody⟩ := List.exists_cons_of_ne_nil hne
    have hc : c ∈ Nat.toDigits 10 n := by simp [hbody]
    exact ⟨c, cs, hbody, Nat.isDigit_of_mem_toDigits (by decide) (by decide) hc⟩
  | binary => exact ⟨'0', _, rfl, rfl⟩

/-- **Numerals are read back.** A numeral is read as its integer, unless it is decimal and too
long. -/
lemma Spelling.integer?_numeral {spelling : Spelling} {n : Int}
    (h : spelling = .decimal → n.natAbs < 10 ^ digitLimit) :
    integer? (spelling.numeral n).toList = some n := by
  have hbody := isNatural_body h
  rw [toList_numeral]
  split
  · next hsign =>
    have hread := (@IsInteger.negative [] _ _ (by simp) hbody).integer?_eq
    rwa [List.nil_append, show -(n.natAbs : Int) = n by omega] at hread
  · next hsign =>
    have hread := (IsInteger.natural hbody).integer?_eq
    rwa [show (n.natAbs : Int) = n by omega] at hread

/-! ## Real numerals -/

lemma toLower_of_isDigit {c : Char} (h : c.isDigit = true) : c.toLower = c := by
  have hrange : 48 ≤ c.toNat ∧ c.toNat ≤ 57 := by simpa using Char.isDigit_iff_toNat.mp h
  unfold Char.toLower
  split
  · next hupper =>
    have hlarge : 65 ≤ c.toNat := hupper.1
    omega
  · rfl

lemma unsignedReal?_of_isDigit {negative : Bool} {c : Char} (cs : List Char)
    (h : c.isDigit = true) :
    unsignedReal? negative (c :: cs) = unsignedNumber? negative (c :: cs) := by
  have hword : ∀ d ds, d.isDigit = false →
      String.ofList ((c :: cs).map Char.toLower) ≠ String.ofList (d :: ds) := by
    intro d ds hd heq
    have hlist := congrArg String.toList heq
    rw [String.toList_ofList, String.toList_ofList, List.map_cons, toLower_of_isDigit h] at hlist
    obtain ⟨rfl, -⟩ := List.cons.inj hlist
    cases h.symm.trans hd
  have hnan := hword 'n' ['a', 'n'] rfl
  have hinf := hword 'i' ['n', 'f'] rfl
  have hinfinity := hword 'i' ['n', 'f', 'i', 'n', 'i', 't', 'y'] rfl
  rw [unsignedReal?, if_neg hnan, if_neg (not_or.mpr ⟨hinf, hinfinity⟩)]

lemma unsignedReal?_toDigits (negative : Bool) (n : Nat) :
    unsignedReal? negative (Nat.toDigits 10 n) = some (.number negative n 0) := by
  obtain ⟨c, cs, hbody, hc⟩ := Spelling.decimal.exists_body_eq_cons n
  obtain ⟨ds, hrun, -, hvalue⟩ := exists_isDigitRun n (show 1 < 10 by decide)
  obtain ⟨htaken, hne⟩ := (takeDigits_eq_iff (by decide)).mpr hrun
  rw [Spelling.body] at hbody
  rw [hbody, unsignedReal?_of_isDigit cs hc, ← hbody, unsignedNumber?, htaken]
  simp [takeFraction, exponent?, hne, positional_eq, hvalue]

lemma real?_of_isDigit {c : Char} (cs : List Char) (h : c.isDigit = true) :
    real? (c :: cs) = unsignedReal? false (c :: cs) := by
  unfold real?
  split
  · next heq =>
    obtain ⟨rfl, -⟩ := List.cons.inj heq
    cases h
  · next heq =>
    obtain ⟨rfl, -⟩ := List.cons.inj heq
    cases h
  · rfl

/-- **Decimal numerals are real numerals.** A decimal numeral of any length is read as its
integer. -/
lemma real?_numeral (n : Int) :
    real? (Spelling.decimal.numeral n).toList = some (.number (decide (n < 0)) n.natAbs 0) := by
  rw [Spelling.toList_numeral, Spelling.body]
  split
  · next hsign =>
    rw [real?, unsignedReal?_toDigits, decide_eq_true hsign]
  · next hsign =>
    obtain ⟨c, cs, hbody, hc⟩ := Spelling.decimal.exists_body_eq_cons n.natAbs
    rw [Spelling.body] at hbody
    rw [decide_eq_false hsign, ← unsignedReal?_toDigits, hbody, real?_of_isDigit cs hc]

/-! ## Literals -/

lemma Spelling.trim_numeral (spelling : Spelling) (n : Int) :
    Text.trim (spelling.numeral n).toList = (spelling.numeral n).toList :=
  trim_eq_of_isNumeralChar (spelling.isNumeralChar_of_mem_numeral n)

lemma Spelling.numeral_ne_nil (spelling : Spelling) (n : Int) :
    (spelling.numeral n).toList ≠ [] := by
  obtain ⟨c, cs, hbody, -⟩ := spelling.exists_body_eq_cons n.natAbs
  rw [toList_numeral, hbody]
  split <;> simp

lemma Spelling.isAscii_numeral (spelling : Spelling) (n : Int) :
    isAscii (spelling.numeral n) = true :=
  isAscii_of_isNumeralChar (spelling.isNumeralChar_of_mem_numeral n)

lemma Spelling.integerLiteral_numeral {spelling : Spelling} {n : Int}
    (h : spelling = .decimal → n.natAbs < 10 ^ digitLimit) :
    integerLiteral (spelling.numeral n) = .ok n := by
  have hne : (spelling.numeral n).toList.isEmpty = false := by
    simpa using spelling.numeral_ne_nil n
  simp only [integerLiteral, trim_numeral, hne, integer?_numeral h, Bool.false_eq_true, if_false]

/-- A numeral is a literal of every type that admits its integer. -/
lemma Spelling.literal_numeral {spelling : Spelling} {type : IntegerType} {n : Int}
    (h : type.admits n = true) :
    literal (.integer type) (spelling.numeral n) = .ok (.integer type n) := by
  have hvalue : integerLiteral (spelling.numeral n) = .ok n :=
    integerLiteral_numeral fun _ => IntegerType.natAbs_lt_of_admits h
  simp only [literal, isAscii_numeral, Bool.not_true, Bool.false_eq_true, if_false, hvalue, bind,
    Except.bind, h, if_true]

end Claw.Numeral
