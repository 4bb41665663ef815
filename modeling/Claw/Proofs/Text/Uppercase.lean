import Claw.Instruction
import Claw.Proofs.Text.Margin
import Mathlib

/-!
# Names in uppercase

A mnemonic is uppercased and then looked up, and the look-up uppercases and trims it once more.  The
second time changes nothing that matters: a text of word characters finds an instruction just if its
uppercase form is the name of the instruction (`ofName?_uppercase_iff`).

Full uppercasing leads into ASCII from outside (`ſ` becomes `S`), so that it has to be ruled out that
it takes two steps to get there.  `unreachedCodes` lists the characters from which a second step
would start, together with the blanks, which a trim would remove; `eq_of_mem_upperChar` says that no
other character has any of them in its uppercase form.  The rest follows character by character.

For the same reason it makes no difference whether a text is trimmed before or after it is uppercased
(`trimmed_uppercase`).

Consumed by `Claw/Proofs/Grammar/Instruction.lean`, `Claw/Proofs/Configuration.lean` and
`Claw/Proofs/Rows.lean`.
-/

namespace Claw.Text

/-! ## Characters -/

/-- The characters beyond ASCII whose uppercase form is written in ASCII, in part or as a whole. -/
def loweredCodes : List Nat :=
  [0xDF, 0x131, 0x149, 0x17F, 0x1F0, 0x1E96, 0x1E97, 0x1E98, 0x1E99, 0x1E9A, 0xFB00, 0xFB01, 0xFB02,
    0xFB03, 0xFB04, 0xFB05, 0xFB06]

/-- The code points that no other character has in its uppercase form. -/
def unreachedCodes : List Nat :=
  blankCodes ++ List.range' 0x61 26 ++ loweredCodes

lemma holds_unreached : (caseRuns.all fun run => unreachedCodes.all fun code =>
    !run.holds ((code : Int) - run.shift).toNat) = true := by
  decide +kernel

lemma expansions_unreached :
    ∀ entry ∈ caseExpansions, ∀ code ∈ entry.2, code ∉ unreachedCodes := by
  decide +kernel

/-- A run leads into ASCII from a character of the list only. -/
lemma runs_lowered : ∀ run ∈ caseRuns, 0x80 ≤ (run.first : Int) + run.shift ∨
    run.first = run.last ∧ run.first ∈ loweredCodes := by
  decide +kernel

lemma expansions_lowered :
    ∀ entry ∈ caseExpansions, entry.2 ≠ [] ∧
      ((∀ code ∈ entry.2, 0x80 ≤ code) ∨ entry.1 ∈ loweredCodes) := by
  decide +kernel

lemma capitals_unlisted : ∀ code ∈ List.range' 0x41 26, code ∉ unreachedCodes := by
  decide

/-- **What an uppercase form is**: the character itself, the capital of a small letter, or what one
of the tables says. -/
lemma upperChar_cases (c : Char) :
    upperChar c = [c] ∨
    (0x61 ≤ c.toNat ∧ c.toNat ≤ 0x7A ∧ upperChar c = [Char.ofNat (c.toNat - 0x20)]) ∨
    (∃ codes, (c.toNat, codes) ∈ caseExpansions ∧ upperChar c = codes.map Char.ofNat) ∨
    ∃ run ∈ caseRuns, run.holds c.toNat = true ∧
      upperChar c = [Char.ofNat ((c.toNat : Int) + run.shift).toNat] := by
  unfold upperChar
  dsimp only
  split
  · split
    · next hsmall =>
      simp only [Bool.and_eq_true, decide_eq_true_eq] at hsmall
      exact .inr (.inl ⟨hsmall.1, hsmall.2, rfl⟩)
    · exact .inl rfl
  · split
    · next codes hcodes =>
      obtain ⟨front, behind, htable, -⟩ := List.lookup_eq_some_iff.mp hcodes
      exact .inr (.inr (.inl ⟨codes, by simp [htable], rfl⟩))
    · cases hrun : caseRuns.find? (·.holds c.toNat) with
      | none => exact .inl (by rw [moveBy?, hrun]; rfl)
      | some run =>
        refine .inr (.inr (.inr ⟨run, List.mem_of_find?_eq_some hrun, ?_, ?_⟩))
        · simpa using List.find?_some hrun
        · rw [moveBy?, hrun]
          rfl

lemma toNat_ofNat {n : Nat} (h : (Char.ofNat n).toNat ≠ 0) : (Char.ofNat n).toNat = n := by
  rw [Char.toNat_ofNat] at h ⊢
  split
  · rfl
  · next hinvalid => exact absurd (if_neg hinvalid) h

lemma zero_not_mem_unreachedCodes : 0 ∉ unreachedCodes := by
  decide

/-- **Only a character that stays as it is has one of them in its uppercase form.** -/
lemma eq_of_mem_upperChar {c d : Char} (h : d ∈ upperChar c) (hd : d.toNat ∈ unreachedCodes) :
    upperChar c = [c] ∧ d = c := by
  have hcode : ∀ code, d = Char.ofNat code → d.toNat = code := by
    rintro code rfl
    exact toNat_ofNat fun hzero => zero_not_mem_unreachedCodes (hzero ▸ hd)
  rcases upperChar_cases c with hself | ⟨hlarge, hsmall, hcapital⟩ |
    ⟨codes, hcodes, hexpansion⟩ | ⟨run, hrun, hholds, hmoved⟩
  · rw [hself] at h
    exact ⟨hself, List.mem_singleton.mp h⟩
  · rw [hcapital] at h
    have hmem : c.toNat - 0x20 ∈ List.range' 0x41 26 := by
      rw [List.mem_range'_1]
      omega
    exact absurd (hcode _ (List.mem_singleton.mp h) ▸ hd) (capitals_unlisted _ hmem)
  · rw [hexpansion] at h
    obtain ⟨code, hmem, rfl⟩ := List.mem_map.mp h
    exact absurd (hcode code rfl ▸ hd) (expansions_unreached _ hcodes code hmem)
  · rw [hmoved] at h
    have hmoves := hcode _ (List.mem_singleton.mp h)
    have hne : d.toNat ≠ 0 := fun hzero => zero_not_mem_unreachedCodes (hzero ▸ hd)
    have hback : ((d.toNat : Int) - run.shift).toNat = c.toNat := by omega
    have hnot := List.all_eq_true.mp (List.all_eq_true.mp holds_unreached run hrun) _ hd
    rw [hback, hholds] at hnot
    cases hnot

/-- Whether the character is a capital letter of ASCII. -/
def isCapital (c : Char) : Bool :=
  0x41 ≤ c.toNat && c.toNat ≤ 0x5A

/-- **One step is enough.** What has a capital of ASCII in its uppercase form, and is itself of an
uppercase form, is that capital. -/
lemma upperChar_eq_self {c d e : Char} (hd : d ∈ upperChar c) (he : e ∈ upperChar d)
    (hcapital : isCapital e = true) : upperChar d = [d] := by
  have hrange : 0x41 ≤ e.toNat ∧ e.toNat ≤ 0x5A := by
    simpa [isCapital] using hcapital
  have hcode : ∀ code, e = Char.ofNat code → e.toNat = code := by
    rintro code rfl
    exact toNat_ofNat (by omega)
  have hunreached : d.toNat ∈ unreachedCodes → upperChar d = [d] := by
    intro hmem
    obtain ⟨hself, rfl⟩ := eq_of_mem_upperChar hd hmem
    exact hself
  have hlowered : d.toNat ∈ loweredCodes → upperChar d = [d] := fun hmem =>
    hunreached (List.mem_append_right _ hmem)
  rcases upperChar_cases d with hself | ⟨hlarge, hsmall, -⟩ | ⟨codes, hcodes, hexpansion⟩ |
    ⟨run, hrun, hholds, hmoved⟩
  · exact hself
  · refine hunreached (List.mem_append_left _ (List.mem_append_right _ ?_))
    rw [List.mem_range'_1]
    omega
  · rw [hexpansion] at he
    obtain ⟨code, hmem, heq⟩ := List.mem_map.mp he
    rcases (expansions_lowered _ hcodes).2 with hbeyond | hlisted
    · have := hbeyond code hmem
      have := hcode code heq.symm
      omega
    · exact hlowered hlisted
  · rw [hmoved] at he
    have hmoves := hcode _ (List.mem_singleton.mp he)
    have hfirst : run.first ≤ d.toNat ∧ d.toNat ≤ run.last := by
      simp only [CaseRun.holds, Bool.and_eq_true, decide_eq_true_eq] at hholds
      exact hholds.1
    rcases runs_lowered run hrun with hbeyond | ⟨hsingle, hlisted⟩
    · omega
    · have hsame : d.toNat = run.first := by omega
      exact hlowered (hsame ▸ hlisted)

lemma upperChar_ne_nil (c : Char) : upperChar c ≠ [] := by
  rcases upperChar_cases c with hself | ⟨-, -, hcapital⟩ | ⟨codes, hcodes, hexpansion⟩ |
    ⟨run, -, -, hmoved⟩
  · simp [hself]
  · simp [hcapital]
  · rw [hexpansion]
    simpa using (expansions_lowered _ hcodes).1
  · simp [hmoved]

/-! ## Texts -/

lemma mem_of_isBlank_of_mem_upper {cs : List Char} {d : Char} (hblank : isBlank d = true)
    (h : d ∈ upper cs) : d ∈ cs := by
  obtain ⟨c, hc, hmem⟩ := List.mem_flatMap.mp h
  have hcodes := toNat_mem_blankCodes hblank
  obtain ⟨-, rfl⟩ := eq_of_mem_upperChar hmem (List.mem_append_left _ (List.mem_append_left _ hcodes))
  exact hc

lemma isBlank_of_mem_upper {cs : List Char} (h : ∀ c ∈ cs, isBlank c = false) :
    ∀ c ∈ upper cs, isBlank c = false := by
  intro d hd
  by_contra hblank
  exact hblank (h d (mem_of_isBlank_of_mem_upper (eq_true_of_ne_false hblank) hd))

/-- A text that becomes capitals of ASCII in two steps does so in one. -/
lemma upper_upper {cs : List Char} (h : ∀ c ∈ upper (upper cs), isCapital c = true) :
    upper (upper cs) = upper cs := by
  have hself : ∀ d ∈ upper cs, upperChar d = [d] := by
    intro d hd
    obtain ⟨c, -, hmem⟩ := List.mem_flatMap.mp hd
    obtain ⟨e, he⟩ := List.exists_mem_of_ne_nil _ (upperChar_ne_nil d)
    exact upperChar_eq_self hmem he (h e (List.mem_flatMap.mpr ⟨d, hd, he⟩))
  calc upper (upper cs) = (upper cs).flatMap fun d => [d] := List.flatMap_congr hself
    _ = upper cs := List.flatMap_singleton' _

/-! ## Margins -/

lemma upperChar_of_isBlank {c : Char} (h : isBlank c = true) : upperChar c = [c] := by
  have hall : ∀ n ∈ blankCodes, upperChar (Char.ofNat n) = [Char.ofNat n] := by
    decide +kernel
  simpa only [Char.ofNat_toNat] using hall c.toNat (toNat_mem_blankCodes h)

/-- A replacement that leaves blanks alone and makes no others of anything else leaves a leading
margin alone. -/
lemma trimStart_flatMap {f : Char → List Char} (hblank : ∀ c, isBlank c = true → f c = [c])
    (hother : ∀ c, isBlank c = false → f c ≠ [] ∧ ∀ d ∈ f c, isBlank d = false)
    (cs : List Char) : trimStart (cs.flatMap f) = (trimStart cs).flatMap f := by
  induction cs with
  | nil => rfl
  | cons c cs ih =>
    rw [List.flatMap_cons]
    cases hc : isBlank c with
    | true =>
      rw [hblank c hc, List.singleton_append, trimStart, List.dropWhile_cons_of_pos hc, ← trimStart,
        ih, trimStart, trimStart, List.dropWhile_cons_of_pos hc]
    | false =>
      obtain ⟨hne, hnone⟩ := hother c hc
      have hkept : trimStart (c :: cs) = c :: cs :=
        trimStart_eq_self (by simpa using hc)
      rw [hkept, List.flatMap_cons]
      refine trimStart_eq_self fun d hd => hnone d ?_
      rw [List.head?_append_of_ne_nil _ hne] at hd
      exact List.mem_of_head? hd

lemma trim_upper (cs : List Char) : trim (upper cs) = upper (trim cs) := by
  have hother : ∀ c, isBlank c = false → upperChar c ≠ [] ∧ ∀ d ∈ upperChar c, isBlank d = false := by
    intro c hc
    refine ⟨upperChar_ne_nil c, ?_⟩
    have hone : ∀ d ∈ upper [c], isBlank d = false := isBlank_of_mem_upper (by simpa using hc)
    simpa [upper] using hone
  have hstart : ∀ cs, trimStart (upper cs) = upper (trimStart cs) :=
    trimStart_flatMap (fun c => upperChar_of_isBlank) hother
  have hend : ∀ cs, trimEnd (upper cs) = upper (trimEnd cs) := by
    intro cs
    have hreversed := trimStart_flatMap (f := List.reverse ∘ upperChar)
      (fun c hc => by rw [Function.comp_apply, upperChar_of_isBlank hc, List.reverse_singleton])
      (fun c hc => by simpa using hother c hc) cs.reverse
    rw [trimEnd, ← trimStart, upper, List.reverse_flatMap, hreversed, trimEnd, ← trimStart,
      List.reverse_flatMap]
    simp [upper, Function.comp_def]
  rw [trim, hstart, hend, trim]

lemma trimmed_uppercase (s : String) : trimmed (uppercase s) = uppercase (trimmed s) := by
  rw [trimmed, uppercase, String.toList_ofList, trim_upper, uppercase, trimmed,
    String.toList_ofList]

end Claw.Text

namespace Claw

/-- **The look-up of a mnemonic.** A word finds an instruction just if its uppercase form is the name
of the instruction. -/
lemma ofName?_uppercase_iff {word : List Char} (h : ∀ c ∈ word, Text.isWord c = true)
    (operation : Instruction) :
    Instruction.ofName? (Text.uppercase (String.ofList word)) = some operation ↔
      operation.name = Text.uppercase (String.ofList word) := by
  constructor
  · intro hfound
    have hblank : ∀ c ∈ Text.upper (Text.upper word), Text.isBlank c = false :=
      Text.isBlank_of_mem_upper
        (Text.isBlank_of_mem_upper fun c hc => Text.isBlank_of_isWord (h c hc))
    have hname : operation.name.toList = Text.upper (Text.upper word) := by
      have := List.find?_some hfound
      rw [beq_iff_eq] at this
      rw [this, Text.trimmed, Text.uppercase, Text.uppercase, String.toList_ofList,
        String.toList_ofList, String.toList_ofList, String.toList_ofList,
        Text.trim_eq_self_of_forall hblank]
    have hcapital : ∀ operation : Instruction, ∀ c ∈ operation.name.toList,
        Text.isCapital c = true := by
      intro operation
      rw [← List.all_eq_true]
      cases operation <;> decide
    have hone := Text.upper_upper (hname ▸ hcapital operation)
    rw [Text.uppercase, String.toList_ofList, ← hone, ← hname, String.ofList_toList]
  · intro hname
    rw [← hname]
    cases operation <;> decide

end Claw
