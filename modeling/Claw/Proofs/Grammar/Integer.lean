import Claw.Literal
import Claw.Proofs.Text.Margin
import Mathlib.Data.Nat.Digits.Defs
import Mathlib.Tactic.IntervalCases

/-!
# The grammar of integer literals

An integer literal is read in steps: margins, the form of a character, the sign, the announcement of
a base, the digits.  Each step could accept too much or too little for the next one.

* `IsDigitRun`, `IsNatural` and `IsInteger` are the grammar as a whole, each with the value of what
  it accepts, and without any reference to the steps;
* `takeDigits_eq_iff`, `natural?_eq_some_iff` and `integer?_eq_some_iff`: the readers accept the
  grammar, with these values.

`integer_literal_grammar` says the same about literals; what is no integer literal is refused with a
fault that can be worded.  The grammar is consumed by `Claw/Proofs/Numeral/Written.lean`, where the
numerals that are written for a number are shown to be of it.
-/

namespace Claw.Numeral

/-! ## The grammar -/

/-- The character is the digit of a value in a base; letters of either case count on from ten. -/
def IsDigit (base : Nat) (c : Char) (d : Nat) : Prop :=
  d < base ∧ (c = Nat.digitChar d ∨ c = (Nat.digitChar d).toUpper)

/-- A text of digits, at least one, with single underscores between them or not, and the values of
the digits. -/
inductive IsDigitRun (base : Nat) : List Char → List Nat → Prop
  | single {c : Char} {d : Nat} (digit : IsDigit base c d) : IsDigitRun base [c] [d]
  | cons {c : Char} {d : Nat} {cs : List Char} {ds : List Nat} (digit : IsDigit base c d)
      (run : IsDigitRun base cs ds) : IsDigitRun base (c :: cs) (d :: ds)
  | joined {c : Char} {d : Nat} {cs : List Char} {ds : List Nat} (digit : IsDigit base c d)
      (run : IsDigitRun base cs ds) : IsDigitRun base (c :: '_' :: cs) (d :: ds)

/-- The letters that announce a base, behind a zero. -/
def announcements : List (Char × Nat) :=
  [('x', 16), ('X', 16), ('b', 2), ('B', 2), ('o', 8), ('O', 8)]

/-- A numeral without sign, and its value. -/
inductive IsNatural : List Char → Nat → Prop
  | decimal {cs : List Char} {ds : List Nat} (run : IsDigitRun 10 cs ds) (short : ds.length ≤ 4300) :
      IsNatural cs (Nat.ofDigits 10 ds.reverse)
  | announced {letter : Char} {base : Nat} {joint cs : List Char} {ds : List Nat}
      (announces : (letter, base) ∈ announcements) (joins : joint = [] ∨ joint = ['_'])
      (run : IsDigitRun base cs ds) :
      IsNatural ('0' :: letter :: (joint ++ cs)) (Nat.ofDigits base ds.reverse)

/-- An integer without margins, and its value. -/
inductive IsInteger : List Char → Int → Prop
  | code (c : Char) : IsInteger ['\'', c, '\''] c.toNat
  | natural {cs : List Char} {n : Nat} (unsigned : IsNatural cs n) : IsInteger cs n
  | negative {gap cs : List Char} {n : Nat} (blank : ∀ c ∈ gap, Text.isBlank c = true)
      (unsigned : IsNatural cs n) : IsInteger ('-' :: (gap ++ cs)) (-n)

/-! ## Digits -/

/-- Digits are recognised as what they are. -/
lemma digit?_eq_some_iff {base d : Nat} {c : Char} (hbase : base ≤ 16) :
    digit? base c = some d ↔ IsDigit base c d := by
  constructor
  · intro h
    unfold digit? at h
    obtain ⟨hvalue, hd⟩ := Option.filter_eq_some_iff.mp h
    rw [decide_eq_true_eq] at hd
    refine ⟨hd, ?_⟩
    have hsixteen : d < 16 := by omega
    split at hvalue
    · next hrange =>
      have hcode : c.toNat = 0x30 + d := by
        have := Option.some.inj hvalue
        omega
      have hten : d < 10 := by omega
      left
      apply Char.toNat_inj.mp
      rw [hcode]
      interval_cases d <;> rfl
    · split at hvalue
      · next hrange =>
        have hcode : c.toNat = 0x37 + d := by
          have := Option.some.inj hvalue
          omega
        have hten : 10 ≤ d := by omega
        right
        apply Char.toNat_inj.mp
        rw [hcode]
        interval_cases d <;> rfl
      · split at hvalue
        · next hrange =>
          have hcode : c.toNat = 0x57 + d := by
            have := Option.some.inj hvalue
            omega
          have hten : 10 ≤ d := by omega
          left
          apply Char.toNat_inj.mp
          rw [hcode]
          interval_cases d <;> rfl
        · contradiction
  · rintro ⟨hd, hc⟩
    have hsixteen : d < 16 := by omega
    have hvalue : ∀ value?, value? = some d → value?.filter (· < base) = some d := by
      rintro _ rfl
      simp [hd]
    refine hvalue _ ?_
    interval_cases d <;> rcases hc with rfl | rfl <;> rfl

lemma digit?_underscore (base : Nat) : digit? base '_' = none := by
  simp [digit?]

variable {base : Nat} {cs : List Char} {ds : List Nat}

lemma takeDigits_of_fst_eq_nil (h : (takeDigits base cs).1 = []) :
    takeDigits base cs = ([], cs) := by
  fun_induction takeDigits base cs <;> simp_all

lemma takeDigits_fst_ne_nil {c : Char} (h : (digit? base c).isSome = true) :
    (takeDigits base (c :: cs)).1 ≠ [] := by
  generalize htext : c :: cs = text
  fun_cases takeDigits base text <;> grind

lemma IsDigitRun.ne_nil (h : IsDigitRun base cs ds) : ds ≠ [] := by
  cases h <;> simp

lemma IsDigitRun.exists_head (h : IsDigitRun base cs ds) :
    ∃ c rest d, cs = c :: rest ∧ IsDigit base c d := by
  cases h with
  | single digit => exact ⟨_, _, _, rfl, digit⟩
  | cons digit => exact ⟨_, _, _, rfl, digit⟩
  | joined digit => exact ⟨_, _, _, rfl, digit⟩

lemma takeDigits_cons {c : Char} {d : Nat} (hc : digit? base c = some d)
    (hcs : cs.head? ≠ some '_') :
    takeDigits base (c :: cs) = (d :: (takeDigits base cs).1, (takeDigits base cs).2) := by
  rw [takeDigits]
  · rw [hc]
    rfl
  · rintro next rest rfl
    exact hcs rfl

/-- **Runs of digits** are taken as a whole, and nothing else is. -/
lemma takeDigits_eq_iff (hbase : base ≤ 16) :
    takeDigits base cs = (ds, []) ∧ ds ≠ [] ↔ IsDigitRun base cs ds := by
  constructor
  · rintro ⟨h, hne⟩
    fun_induction takeDigits base cs generalizing ds with
    | case1 => exact absurd (Prod.mk.inj h).1.symm hne
    | case2 => exact absurd (Prod.mk.inj h).1.symm hne
    | case3 c next rest d hd hnext ih =>
      obtain ⟨hfirst, hrest⟩ := Prod.mk.inj h
      subst hfirst
      exact .joined ((digit?_eq_some_iff hbase).mp hd)
        (ih (Prod.ext rfl hrest) (takeDigits_fst_ne_nil hnext))
    | case4 => cases (Prod.mk.inj h).2
    | case5 => exact absurd (Prod.mk.inj h).1.symm hne
    | case6 c cs hnot d hd ih =>
      obtain ⟨hfirst, hrest⟩ := Prod.mk.inj h
      subst hfirst
      have hdigit := (digit?_eq_some_iff hbase).mp hd
      by_cases hnil : (takeDigits base cs).1 = []
      · have hnone := takeDigits_of_fst_eq_nil hnil
        rw [hnone] at hrest ⊢
        rw [show cs = [] from hrest]
        exact .single hdigit
      · exact .cons hdigit (ih (Prod.ext rfl hrest) hnil)
  · intro h
    induction h with
    | single digit =>
      rw [takeDigits_cons ((digit?_eq_some_iff hbase).mpr digit) (by simp)]
      simp [takeDigits]
    | cons digit run ih =>
      obtain ⟨c, rest, d, rfl, hc⟩ := run.exists_head
      have hhead : (c :: rest).head? ≠ some '_' := by
        rintro ⟨rfl⟩
        have := (digit?_eq_some_iff hbase).mpr hc
        simp [digit?_underscore] at this
      rw [takeDigits_cons ((digit?_eq_some_iff hbase).mpr digit) hhead, ih.1]
      simp
    | joined digit run ih =>
      obtain ⟨c, rest, d, rfl, hc⟩ := run.exists_head
      have hnext : (digit? base c).isSome = true := by
        rw [(digit?_eq_some_iff hbase).mpr hc]
        rfl
      rw [takeDigits, (digit?_eq_some_iff hbase).mpr digit]
      dsimp only
      rw [if_pos hnext, ih.1]
      simp

/-- The character of a digit is none that has another meaning in a numeral. -/
lemma IsDigit.ne {c : Char} {d : Nat} (h : IsDigit base c d) (hbase : base ≤ 16) :
    c ≠ '_' ∧ c ≠ '-' ∧ c ≠ '\'' ∧ Text.isBlank c = false := by
  obtain ⟨hd, hc⟩ := h
  have hsixteen : d < 16 := by omega
  interval_cases d <;> rcases hc with rfl | rfl <;> decide

/-! ## Numerals without sign -/

lemma positional_eq (base : Nat) (ds : List Nat) :
    positional base ds = Nat.ofDigits base ds.reverse := by
  rw [positional, Nat.ofDigits_eq_foldr, List.foldr_reverse]
  simp only [Nat.cast_id, Nat.mul_comm, Nat.add_comm]

/-- The radix that a letter announces has the base of the announcement. -/
lemma exists_splitRadix_eq {letter : Char} (h : (letter, base) ∈ announcements) (cs : List Char) :
    ∃ radix : Radix, splitRadix ('0' :: letter :: cs) = (radix, cs) ∧ radix ≠ .decimal ∧
      radix.base = base := by
  simp only [announcements, List.mem_cons, Prod.mk.injEq, List.not_mem_nil, or_false] at h
  rcases h with ⟨rfl, rfl⟩ | ⟨rfl, rfl⟩ | ⟨rfl, rfl⟩ | ⟨rfl, rfl⟩ | ⟨rfl, rfl⟩ | ⟨rfl, rfl⟩
  all_goals exact ⟨_, rfl, by decide, rfl⟩

lemma splitRadix_cases (cs : List Char) :
    (∃ letter behind radix, (letter, Radix.base radix) ∈ announcements ∧ radix ≠ .decimal ∧
      cs = '0' :: letter :: behind ∧ splitRadix cs = (radix, behind)) ∨
    splitRadix cs = (.decimal, cs) := by
  unfold splitRadix
  split
  all_goals first
    | exact .inl ⟨_, _, _, by decide, by decide, rfl, rfl⟩
    | exact .inr rfl

/-- A run of decimal digits announces no other base. -/
lemma splitRadix_eq_decimal (h : IsDigitRun 10 cs ds) : splitRadix cs = (.decimal, cs) := by
  have hletters : ∀ announcement ∈ announcements,
      digit? 10 announcement.1 = none ∧ announcement.1 ≠ '_' := by decide
  rcases splitRadix_cases cs with ⟨letter, behind, radix, hannounced, -, rfl, -⟩ | hdecimal
  · obtain ⟨hnone, hne⟩ := hletters _ hannounced
    cases h with
    | cons _ run =>
      obtain ⟨_, _, d, heq, hdigit⟩ := run.exists_head
      obtain ⟨rfl, -⟩ := List.cons.inj heq
      have := (digit?_eq_some_iff (by decide)).mpr hdigit
      cases hnone.symm.trans this
    | joined => exact absurd rfl hne
  · exact hdecimal

lemma dropJoint_decimal (cs : List Char) : dropJoint .decimal cs = cs := by
  unfold dropJoint
  split <;> rfl

/-- Behind an announcement an underscore may follow, which is dropped. -/
lemma exists_joint {radix : Radix} (h : radix ≠ .decimal) (cs : List Char) :
    ∃ joint, (joint = [] ∨ joint = ['_']) ∧ cs = joint ++ dropJoint radix cs := by
  unfold dropJoint
  split
  · exact ⟨['_'], .inr rfl, by rw [if_neg h]; rfl⟩
  · exact ⟨[], .inl rfl, rfl⟩

lemma dropJoint_append {radix : Radix} {joint : List Char} (h : radix ≠ .decimal)
    (hjoint : joint = [] ∨ joint = ['_']) (hcs : cs.head? ≠ some '_') :
    dropJoint radix (joint ++ cs) = cs := by
  rcases hjoint with rfl | rfl
  · rw [List.nil_append]
    unfold dropJoint
    split
    · exact absurd rfl hcs
    · rfl
  · exact if_neg h

lemma IsDigitRun.head?_ne (h : IsDigitRun base cs ds) (hbase : base ≤ 16) :
    cs.head? ≠ some '_' := by
  obtain ⟨c, rest, d, rfl, digit⟩ := h.exists_head
  rintro ⟨rfl⟩
  exact (digit.ne hbase).1 rfl

lemma isShortEnough_decimal {count : Nat} : isShortEnough .decimal count = true ↔ count ≤ 4300 :=
  decide_eq_true_iff

lemma natural?_eq_some_iff_exists {n : Nat} {radix : Radix} {digits : List Char}
    (h : splitRadix cs = (radix, digits)) :
    natural? cs = some n ↔ ∃ ds, IsDigitRun radix.base (dropJoint radix digits) ds ∧
      isShortEnough radix ds.length = true ∧ n = Nat.ofDigits radix.base ds.reverse := by
  have hbase : radix.base ≤ 16 := by cases radix <;> decide
  rw [natural?, h]
  dsimp only
  constructor
  · intro hread
    split at hread
    · next d ds htaken =>
      split at hread
      · next hshort =>
        have hrun := (takeDigits_eq_iff hbase).mp ⟨htaken, List.cons_ne_nil d ds⟩
        exact ⟨_, hrun, hshort, (Option.some.inj hread).symm.trans (positional_eq _ _)⟩
      · contradiction
    · contradiction
  · rintro ⟨ds, hrun, hshort, rfl⟩
    obtain ⟨htaken, hne⟩ := (takeDigits_eq_iff hbase).mpr hrun
    obtain ⟨d, ds, rfl⟩ := List.exists_cons_of_ne_nil hne
    rw [htaken, ← positional_eq]
    exact if_pos hshort

/-- **Numerals without sign** are read as the grammar says. -/
lemma natural?_eq_some_iff {n : Nat} : natural? cs = some n ↔ IsNatural cs n := by
  constructor
  · intro h
    rcases splitRadix_cases cs with ⟨letter, behind, radix, hannounced, hne, rfl, hsplit⟩ | hsplit
    · obtain ⟨ds, hrun, -, rfl⟩ := (natural?_eq_some_iff_exists hsplit).mp h
      obtain ⟨joint, hjoint, heq⟩ := exists_joint hne behind
      rw [heq]
      exact .announced hannounced hjoint hrun
    · obtain ⟨ds, hrun, hshort, rfl⟩ := (natural?_eq_some_iff_exists hsplit).mp h
      rw [dropJoint_decimal] at hrun
      exact .decimal hrun (isShortEnough_decimal.mp hshort)
  · intro h
    cases h with
    | decimal run short =>
      rw [natural?_eq_some_iff_exists (splitRadix_eq_decimal run), dropJoint_decimal]
      exact ⟨_, run, isShortEnough_decimal.mpr short, rfl⟩
    | announced announces joins run =>
      obtain ⟨radix, hsplit, hne, rfl⟩ := exists_splitRadix_eq announces _
      have hbase : radix.base ≤ 16 := by cases radix <;> decide
      refine (natural?_eq_some_iff_exists hsplit).mpr ⟨_, ?_, ?_, rfl⟩
      · rwa [dropJoint_append hne joins (run.head?_ne hbase)]
      · rw [isShortEnough, Bool.or_eq_true, bne_iff_ne]
        exact .inl hne

/-! ## Numerals with a sign -/

lemma IsNatural.exists_head {n : Nat} (h : IsNatural cs n) :
    ∃ c rest, cs = c :: rest ∧ c ≠ '-' ∧ c ≠ '\'' ∧ Text.isBlank c = false := by
  cases h with
  | decimal run _ =>
    obtain ⟨c, rest, d, rfl, digit⟩ := run.exists_head
    exact ⟨c, rest, rfl, (digit.ne (by decide)).2⟩
  | announced => exact ⟨_, _, rfl, by decide, by decide, rfl⟩

lemma IsDigitRun.exists_last (h : IsDigitRun base cs ds) :
    ∃ front c d, cs = front ++ [c] ∧ IsDigit base c d := by
  induction h with
  | single digit => exact ⟨[], _, _, rfl, digit⟩
  | @cons c _ _ _ _ _ ih =>
    obtain ⟨front, last, d, rfl, digit⟩ := ih
    exact ⟨c :: front, last, d, rfl, digit⟩
  | @joined c _ _ _ _ _ ih =>
    obtain ⟨front, last, d, rfl, digit⟩ := ih
    exact ⟨c :: '_' :: front, last, d, rfl, digit⟩

lemma IsNatural.exists_last {n : Nat} (h : IsNatural cs n) :
    ∃ front c, cs = front ++ [c] ∧ Text.isBlank c = false := by
  cases h with
  | decimal run _ =>
    obtain ⟨front, c, d, rfl, digit⟩ := run.exists_last
    exact ⟨front, c, rfl, (digit.ne (by decide)).2.2.2⟩
  | @announced letter base joint _ _ announces _ run =>
    obtain ⟨radix, -, -, rfl⟩ := exists_splitRadix_eq announces []
    have hbase : radix.base ≤ 16 := by cases radix <;> decide
    obtain ⟨front, c, d, rfl, digit⟩ := run.exists_last
    refine ⟨'0' :: letter :: (joint ++ front), c, by simp, (digit.ne hbase).2.2.2⟩

/-- Blanks in front of a numeral are trimmed away, and nothing else is. -/
lemma IsNatural.trim_append {n : Nat} {gap : List Char} (h : IsNatural cs n)
    (hgap : ∀ c ∈ gap, Text.isBlank c = true) : Text.trim (gap ++ cs) = cs := by
  have hhead : ∀ c ∈ cs.head?, Text.isBlank c = false := by
    obtain ⟨c, rest, rfl, -, -, hc⟩ := h.exists_head
    rintro d ⟨rfl⟩
    exact hc
  have hlast : ∀ c ∈ cs.getLast?, Text.isBlank c = false := by
    obtain ⟨front, c, rfl, hc⟩ := h.exists_last
    rw [List.getLast?_concat]
    rintro d ⟨rfl⟩
    exact hc
  rw [Text.trim, Text.trimStart, Text.dropWhile_append_eq hgap hhead, Text.trimEnd_eq_self hlast]

lemma integer?_minus_eq_some_iff {v : Int} :
    integer? ('-' :: cs) = some v ↔ ∃ n : Nat, natural? (Text.trim cs) = some n ∧ v = -n := by
  rw [integer?]
  cases natural? (Text.trim cs) with
  | none => simp
  | some n => simp [eq_comm]

lemma integer?_plain_eq_some_iff {v : Int} (hcode : ∀ c, cs ≠ ['\'', c, '\''])
    (hminus : ∀ body, cs ≠ '-' :: body) :
    integer? cs = some v ↔ ∃ n : Nat, natural? cs = some n ∧ v = n := by
  rw [integer?]
  · cases natural? cs with
    | none => simp
    | some n => simp [eq_comm]
  · exact hcode
  · exact hminus

lemma IsInteger.integer?_eq {v : Int} (h : IsInteger cs v) : integer? cs = some v := by
  cases h with
  | code c => rfl
  | natural unsigned =>
    have hplain : (∀ c, cs ≠ ['\'', c, '\'']) ∧ ∀ body, cs ≠ '-' :: body := by
      obtain ⟨c, rest, rfl, hminus, hquote, -⟩ := unsigned.exists_head
      exact ⟨fun _ heq => hquote (List.cons.inj heq).1, fun _ heq => hminus (List.cons.inj heq).1⟩
    exact (integer?_plain_eq_some_iff hplain.1 hplain.2).mpr
      ⟨_, natural?_eq_some_iff.mpr unsigned, rfl⟩
  | negative blank unsigned =>
    refine integer?_minus_eq_some_iff.mpr ⟨_, ?_, rfl⟩
    rw [unsigned.trim_append blank, natural?_eq_some_iff.mpr unsigned]

/-- **Integers** are read as the grammar says, where no blanks are behind them. -/
lemma integer?_eq_some_iff {v : Int} (h : ∀ c ∈ cs.getLast?, Text.isBlank c = false) :
    integer? cs = some v ↔ IsInteger cs v := by
  refine ⟨fun hread => ?_, IsInteger.integer?_eq⟩
  by_cases hcode : ∃ c, cs = ['\'', c, '\'']
  · obtain ⟨c, rfl⟩ := hcode
    obtain rfl := Option.some.inj hread
    exact .code c
  by_cases hminus : ∃ body, cs = '-' :: body
  · obtain ⟨body, rfl⟩ := hminus
    obtain ⟨n, hn, rfl⟩ := integer?_minus_eq_some_iff.mp hread
    have hlast : ∀ c ∈ body.getLast?, Text.isBlank c = false := by
      intro c hc
      refine h c ?_
      rw [List.getLast?_cons, Option.mem_def.mp hc]
      rfl
    rw [← Text.takeWhile_append_trim hlast]
    exact .negative (fun _ => List.mem_takeWhile_imp) (natural?_eq_some_iff.mp hn)
  · obtain ⟨n, hn, rfl⟩ :=
      (integer?_plain_eq_some_iff (not_exists.mp hcode) (not_exists.mp hminus)).mp hread
    exact .natural (natural?_eq_some_iff.mp hn)

end Claw.Numeral

namespace Claw

/-- **The grammar of integer literals.** A text is read as an integer just if the text without its
margins is written as this integer; any other text is refused, with a fault that can be worded. -/
theorem integer_literal_grammar (text : String) :
    (∀ value, integerLiteral text = .ok value ↔
      Numeral.IsInteger (Text.trim text.toList) value) ∧
    ((¬∃ value, Numeral.IsInteger (Text.trim text.toList) value) →
      ∃ fault message, integerLiteral text = .error fault ∧ fault.message = .ok message) := by
  have hread : ∀ value, Numeral.integer? (Text.trim text.toList) = some value ↔
      Numeral.IsInteger (Text.trim text.toList) value := fun value =>
    Numeral.integer?_eq_some_iff fun _ => Text.isBlank_of_mem_getLast?_trim
  rw [integerLiteral]
  generalize Text.trim text.toList = body at hread
  cases hempty : body.isEmpty with
  | true =>
    obtain rfl : body = [] := by simpa using hempty
    have hnone : ∀ value, ¬Numeral.IsInteger [] value := by
      intro value hinteger
      cases (hread value).mpr hinteger
    refine ⟨fun value => ?_, fun _ => ⟨_, _, rfl, rfl⟩⟩
    simp [hnone]
  | false =>
    cases hbody : Numeral.integer? body with
    | none =>
      have hnone : ∀ value, ¬Numeral.IsInteger body value := by
        intro value hinteger
        cases hbody.symm.trans ((hread value).mpr hinteger)
      refine ⟨fun value => ?_, fun _ => ⟨_, _, rfl, rfl⟩⟩
      simp [hnone]
    | some value =>
      refine ⟨fun value' => ?_, fun hnot => absurd ⟨value, (hread value).mp hbody⟩ hnot⟩
      rw [← hread, hbody]
      simp

example : integerLiteral " - 0x_fF " = .ok (-255) := by decide +kernel

end Claw
