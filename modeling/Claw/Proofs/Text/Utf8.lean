import Claw.Text.Utf8
import Mathlib.Tactic.Common

/-!
# Texts read back from their encoding

Strict decoding undoes encoding, `decodeUtf8_encodeUtf8`, and decodes nothing but encodings:
`decodeUtf8_eq_ok_iff`.

The encoding of a character is a lead byte and up to three bytes of the form `trail n`, which carry
six bits each.  There is one lemma for each length, `decodeFrom_one` to `decodeFrom_four`, about the
code points that are encoded with so many bytes: the lead byte is in the range of that length, the
second byte is admitted behind it (`isSecond_trail`), and the payloads make up the code point again.
`decodeFrom_encodeChar` joins the four.

The way back has a lemma for each length as well, `encodeChar_one` to `encodeChar_four`: what the
classes of bytes keep out (`bounds_of_isSecond`) is just what is no code point or has a shorter
encoding.  `decodeFrom_cons_eq_ok` joins them.

Consumed by `Claw/Proofs/LineBreaks.lean`, where a file holds the encoding of a text, and by
`Claw/Proofs/Unreported.lean`, where it does not.
-/

namespace Claw.Text.Utf8

lemma isContinuation_iff {b : UInt8} : isContinuation b = true ↔ 128 ≤ b.toNat ∧ b.toNat < 192 := by
  simp only [isContinuation, Bool.and_eq_true, decide_eq_true_eq, UInt8.le_iff_toNat_le,
    UInt8.lt_iff_toNat_lt, UInt8.reduceToNat]

/-- The byte that carries the lowest six bits of a number on. -/
def trail (n : Nat) : UInt8 :=
  UInt8.ofNat (n % 64 + 128)

lemma toNat_trail (n : Nat) : (trail n).toNat = n % 64 + 128 := by
  rw [trail, UInt8.toNat_ofNat']
  omega

lemma isContinuation_trail (n : Nat) : isContinuation (trail n) = true := by
  rw [isContinuation_iff, toNat_trail]
  omega

lemma payload_trail (n : Nat) : payload (trail n) = n % 64 := by
  rw [payload, toNat_trail]
  omega

/-- A second byte is good unless it would make the form overlong, a surrogate, or too great. -/
lemma isSecond_trail {lead : UInt8} {n : Nat} (hE0 : lead.toNat = 0xE0 → 0x20 ≤ n % 64)
    (hED : lead.toNat = 0xED → n % 64 < 0x20) (hF0 : lead.toNat = 0xF0 → 0x10 ≤ n % 64)
    (hF4 : lead.toNat = 0xF4 → n % 64 < 0x10) : isSecond lead (trail n) = true := by
  have h := toNat_trail n
  simp only [isSecond, isContinuation_trail, Bool.true_and, ← UInt8.toNat_inj,
    UInt8.le_iff_toNat_le, UInt8.lt_iff_toNat_lt, h, UInt8.reduceToNat]
  split
  · simp only [decide_eq_true_eq]; omega
  · split
    · simp only [decide_eq_true_eq]; omega
    · split
      · simp only [decide_eq_true_eq]; omega
      · split
        · simp only [decide_eq_true_eq]; omega
        · rfl

/-! ## The four lengths -/

variable {n : Nat} (offset : Nat) (rest : List UInt8)

lemma decodeFrom_one (h : n < 0x80) :
    decodeFrom offset (UInt8.ofNat n :: rest) =
      (decodeFrom (offset + 1) rest).map (Char.ofNat n :: ·) := by
  have hbyte : (UInt8.ofNat n).toNat = n := by
    rw [UInt8.toNat_ofNat']
    omega
  have hlead : UInt8.ofNat n < 0x80 := by
    rw [UInt8.lt_iff_toNat_lt, hbyte]
    exact h
  rw [decodeFrom.eq_def]
  simp only [hlead, if_true, hbyte]

lemma decodeFrom_two (hmin : 0x80 ≤ n) (hmax : n < 0x800) :
    decodeFrom offset (UInt8.ofNat (n / 64 % 32 + 192) :: trail n :: rest) =
      (decodeFrom (offset + 2) rest).map (Char.ofNat n :: ·) := by
  generalize hlead : UInt8.ofNat (n / 64 % 32 + 192) = lead
  have hbyte : lead.toNat = n / 64 + 192 := by
    rw [← hlead, UInt8.toNat_ofNat']
    omega
  have hchar : char2 lead (trail n) = Char.ofNat n := by
    rw [char2, payload_trail, hbyte]
    congr 1
    omega
  rw [decodeFrom.eq_def]
  simp only [UInt8.lt_iff_toNat_lt, UInt8.le_iff_toNat_le, hbyte, UInt8.reduceToNat,
    isContinuation_trail, hchar, if_true]
  rw [if_neg (by omega), if_neg (by simp; omega), if_pos (by omega)]

lemma decodeFrom_three (hmin : 0x800 ≤ n) (hmax : n < 0x10000)
    (hsurrogate : n < 0xD800 ∨ 0xDFFF < n) :
    decodeFrom offset (UInt8.ofNat (n / 4096 % 16 + 224) :: trail (n / 64) :: trail n :: rest) =
      (decodeFrom (offset + 3) rest).map (Char.ofNat n :: ·) := by
  generalize hlead : UInt8.ofNat (n / 4096 % 16 + 224) = lead
  have hbyte : lead.toNat = n / 4096 + 224 := by
    rw [← hlead, UInt8.toNat_ofNat']
    omega
  have hsecond : isSecond lead (trail (n / 64)) = true := by
    apply isSecond_trail <;> rw [hbyte] <;> omega
  have hchar : char3 lead (trail (n / 64)) (trail n) = Char.ofNat n := by
    rw [char3, payload_trail, payload_trail, hbyte]
    congr 1
    omega
  rw [decodeFrom.eq_def]
  simp only [UInt8.lt_iff_toNat_lt, UInt8.le_iff_toNat_le, hbyte, UInt8.reduceToNat,
    isContinuation_trail, hsecond, hchar, Bool.not_true, Bool.false_eq_true, if_false]
  rw [if_neg (by omega), if_neg (by simp; omega), if_neg (by omega), if_pos (by omega)]

lemma decodeFrom_four (hmin : 0x10000 ≤ n) (hmax : n < 0x110000) :
    decodeFrom offset (UInt8.ofNat (n / 262144 % 8 + 240) :: trail (n / 4096) ::
        trail (n / 64) :: trail n :: rest) =
      (decodeFrom (offset + 4) rest).map (Char.ofNat n :: ·) := by
  generalize hlead : UInt8.ofNat (n / 262144 % 8 + 240) = lead
  have hbyte : lead.toNat = n / 262144 + 240 := by
    rw [← hlead, UInt8.toNat_ofNat']
    omega
  have hsecond : isSecond lead (trail (n / 4096)) = true := by
    apply isSecond_trail <;> rw [hbyte] <;> omega
  have hchar : char4 lead (trail (n / 4096)) (trail (n / 64)) (trail n) = Char.ofNat n := by
    rw [char4, payload_trail, payload_trail, payload_trail, hbyte]
    congr 1
    omega
  rw [decodeFrom.eq_def]
  simp only [UInt8.lt_iff_toNat_lt, UInt8.le_iff_toNat_le, hbyte, UInt8.reduceToNat,
    isContinuation_trail, hsecond, hchar, Bool.not_true, Bool.false_eq_true, if_false]
  rw [if_neg (by omega), if_neg (by simp; omega), if_neg (by omega), if_neg (by omega)]

/-- **Decoding one character.** Behind the encoding of a character the rest is read on. -/
lemma decodeFrom_encodeChar (c : Char) :
    decodeFrom offset (String.utf8EncodeChar c ++ rest) =
      (decodeFrom (offset + (String.utf8EncodeChar c).length) rest).map (c :: ·) := by
  have hvalid : c.toNat < 0xD800 ∨ 0xDFFF < c.toNat ∧ c.toNat < 0x110000 := c.valid
  have hcode : c.val.toNat = c.toNat := rfl
  have hchar : Char.ofNat c.toNat = c := Char.ofNat_toNat c
  unfold String.utf8EncodeChar
  simp only [hcode]
  generalize c.toNat = n at hvalid hchar
  subst hchar
  -- the cases are the four lengths of an encoding
  split
  · exact decodeFrom_one offset rest (by omega)
  · split
    · exact decodeFrom_two offset rest (by omega) (by omega)
    · split
      · exact decodeFrom_three offset rest (by omega) (by omega) (by omega)
      · exact decodeFrom_four offset rest (by omega) (by omega)

/-! ## Nothing else is decoded -/

lemma toNat_val_ofNat {n : Nat} (h : n.isValidChar) : (Char.ofNat n).val.toNat = n := by
  have hchar : Char.ofNat n = Char.ofNatAux n h := by
    rw [Char.ofNat, dif_pos h]
  rw [hchar]
  rfl

/-- What a second byte is kept from: overlong forms, surrogates, and what is too great. -/
lemma bounds_of_isSecond {lead second : UInt8} (h : isSecond lead second = true) :
    isContinuation second = true ∧ (lead.toNat = 0xE0 → 0x20 ≤ payload second) ∧
      (lead.toNat = 0xED → payload second < 0x20) ∧ (lead.toNat = 0xF0 → 0x10 ≤ payload second) ∧
      (lead.toNat = 0xF4 → payload second < 0x10) := by
  rw [isSecond, Bool.and_eq_true] at h
  obtain ⟨hcontinues, hbound⟩ := h
  obtain ⟨hmin, hmax⟩ := isContinuation_iff.mp hcontinues
  simp only [← UInt8.toNat_inj, UInt8.le_iff_toNat_le, UInt8.lt_iff_toNat_lt,
    UInt8.reduceToNat] at hbound
  refine ⟨hcontinues, ?_⟩
  rw [payload]
  split at hbound
  · simp only [decide_eq_true_eq] at hbound; omega
  · split at hbound
    · simp only [decide_eq_true_eq] at hbound; omega
    · split at hbound
      · simp only [decide_eq_true_eq] at hbound; omega
      · split at hbound
        · simp only [decide_eq_true_eq] at hbound; omega
        · omega

lemma trail_eq {b : UInt8} {n : Nat} (hb : isContinuation b = true) (hn : n % 64 = payload b) :
    UInt8.ofNat (n % 64 + 128) = b := by
  obtain ⟨hmin, hmax⟩ := isContinuation_iff.mp hb
  rw [payload] at hn
  rw [← UInt8.toNat_inj, UInt8.toNat_ofNat']
  omega

lemma payload_lt (b : UInt8) : payload b < 64 :=
  Nat.mod_lt _ (by decide)

/-- A lead byte is determined by the number that it stands for. -/
lemma lead_eq {a : UInt8} {n : Nat} (h : n = a.toNat) : UInt8.ofNat n = a := by
  rw [h, UInt8.ofNat_toNat]

variable {a b c d : UInt8}

lemma encodeChar_one (h : a.toNat < 0x80) : String.utf8EncodeChar (Char.ofNat a.toNat) = [a] := by
  have hcode : (Char.ofNat a.toNat).val.toNat = a.toNat := toNat_val_ofNat (.inl (by omega))
  unfold String.utf8EncodeChar
  simp only [hcode]
  rw [if_pos (by omega), UInt8.ofNat_toNat]

lemma encodeChar_two (hmin : 0xC2 ≤ a.toNat) (hmax : a.toNat < 0xE0)
    (hb : isContinuation b = true) : String.utf8EncodeChar (char2 a b) = [a, b] := by
  have hpayload := payload_lt b
  generalize hn : a.toNat % 32 * 64 + payload b = n
  have hcode : (Char.ofNat n).val.toNat = n := toNat_val_ofNat (.inl (by omega))
  have hlead : UInt8.ofNat (n / 64 % 32 + 192) = a := lead_eq (by omega)
  unfold String.utf8EncodeChar char2
  simp only [hn, hcode]
  rw [if_neg (by omega), if_pos (by omega), hlead, trail_eq hb (by omega)]

lemma encodeChar_three (hmin : 0xE0 ≤ a.toNat) (hmax : a.toNat < 0xF0)
    (hb : isSecond a b = true) (hc : isContinuation c = true) :
    String.utf8EncodeChar (char3 a b c) = [a, b, c] := by
  obtain ⟨hcontinues, hlong, hsurrogate, -, -⟩ := bounds_of_isSecond hb
  have hpayloads := And.intro (payload_lt b) (payload_lt c)
  generalize hn : (a.toNat % 16 * 64 + payload b) * 64 + payload c = n
  have hvalid : n < 0xD800 ∨ 0xDFFF < n ∧ n < 0x110000 := by omega
  have hcode := toNat_val_ofNat hvalid
  have hlead : UInt8.ofNat (n / 4096 % 16 + 224) = a := lead_eq (by omega)
  have hsecond : UInt8.ofNat (n / 64 % 64 + 128) = b := trail_eq hcontinues (by omega)
  unfold String.utf8EncodeChar char3
  simp only [hn, hcode]
  rw [if_neg (by omega), if_neg (by omega), if_pos (by omega), hlead, hsecond,
    trail_eq hc (by omega)]

lemma encodeChar_four (hmin : 0xF0 ≤ a.toNat) (hmax : a.toNat < 0xF5)
    (hb : isSecond a b = true) (hc : isContinuation c = true) (hd : isContinuation d = true) :
    String.utf8EncodeChar (char4 a b c d) = [a, b, c, d] := by
  obtain ⟨hcontinues, -, -, hlong, hgreat⟩ := bounds_of_isSecond hb
  have hpayloads := And.intro (payload_lt b) (And.intro (payload_lt c) (payload_lt d))
  generalize hn : ((a.toNat % 8 * 64 + payload b) * 64 + payload c) * 64 + payload d = n
  have hvalid : n < 0xD800 ∨ 0xDFFF < n ∧ n < 0x110000 := by omega
  have hcode := toNat_val_ofNat hvalid
  have hlead : UInt8.ofNat (n / 262144 % 8 + 240) = a := lead_eq (by omega)
  have hsecond : UInt8.ofNat (n / 4096 % 64 + 128) = b := trail_eq hcontinues (by omega)
  have hthird : UInt8.ofNat (n / 64 % 64 + 128) = c := trail_eq hc (by omega)
  unfold String.utf8EncodeChar char4
  simp only [hn, hcode]
  rw [if_neg (by omega), if_neg (by omega), if_neg (by omega), hlead, hsecond, hthird,
    trail_eq hd (by omega)]

/-- **Reading one character.** What can be decoded starts with the encoding of a character, and its
rest can be decoded. -/
lemma decodeFrom_cons_eq_ok {offset : Nat} {rest : List UInt8} {cs : List Char}
    (h : decodeFrom offset (a :: rest) = .ok cs) :
    ∃ c cs' offset' rest', cs = c :: cs' ∧ a :: rest = String.utf8EncodeChar c ++ rest' ∧
      decodeFrom offset' rest' = .ok cs' := by
  -- each class of lead bytes that is not refused gives a character and a rest
  have hmap : ∀ {offset' rest' c}, (decodeFrom offset' rest').map (c :: ·) = .ok cs →
      a :: rest = String.utf8EncodeChar c ++ rest' →
      ∃ c cs' offset' rest', cs = c :: cs' ∧ a :: rest = String.utf8EncodeChar c ++ rest' ∧
        decodeFrom offset' rest' = .ok cs' := by
    intro offset' rest' c hmap hrest
    cases hdecode : decodeFrom offset' rest' with
    | error fault => rw [hdecode] at hmap; cases hmap
    | ok cs' =>
      rw [hdecode] at hmap
      cases hmap
      exact ⟨c, cs', offset', rest', rfl, hrest, hdecode⟩
  rw [decodeFrom.eq_def] at h
  simp only [UInt8.lt_iff_toNat_lt, UInt8.le_iff_toNat_le, UInt8.reduceToNat,
    Bool.or_eq_true, decide_eq_true_eq] at h
  -- the cases are the classes of lead bytes, and within a class the bytes that there are
  split at h
  · next hone => exact hmap h (by rw [encodeChar_one hone]; rfl)
  split at h
  · cases h
  split at h
  · next htwo =>
    split at h
    · cases h
    · split at h
      · next hb => exact hmap h (by rw [encodeChar_two (by omega) htwo hb]; rfl)
      · cases h
  split at h
  · next hthree =>
    split at h
    · cases h
    · split at h <;> cases h
    · next b c rest =>
      by_cases hb : isSecond a b = true
      · by_cases hc : isContinuation c = true
        · simp only [hb, hc, Bool.not_true, Bool.false_eq_true, if_false] at h
          exact hmap h (by rw [encodeChar_three (by omega) hthree hb hc]; rfl)
        · simp [hb, hc] at h
      · simp [hb] at h
  · split at h
    · cases h
    · split at h <;> cases h
    · split at h
      · cases h
      · split at h <;> cases h
    · next b c d rest =>
      by_cases hb : isSecond a b = true
      · by_cases hc : isContinuation c = true
        · by_cases hd : isContinuation d = true
          · simp only [hb, hc, hd, Bool.not_true, Bool.false_eq_true, if_false] at h
            exact hmap h (by rw [encodeChar_four (by omega) (by omega) hb hc hd]; rfl)
          · simp [hb, hc, hd] at h
        · simp [hb, hc] at h
      · simp [hb] at h

end Claw.Text.Utf8

namespace Claw.Text

/-! ## Whole texts -/

open Utf8

/-- **Encoding and decoding.** A text is read back from its encoding. -/
lemma decodeUtf8_encodeUtf8 (cs : List Char) : decodeUtf8 (encodeUtf8 cs) = .ok cs := by
  have hfrom : ∀ offset, decodeFrom offset (encodeUtf8 cs) = .ok cs := by
    induction cs with
    | nil => intro offset; rfl
    | cons c cs ih =>
      intro offset
      have hcons : encodeUtf8 (c :: cs) = String.utf8EncodeChar c ++ encodeUtf8 cs := rfl
      rw [hcons, decodeFrom_encodeChar, ih]
      rfl
  exact hfrom 0

/-- **Decoding.** Nothing is decoded but the encodings of texts. -/
lemma decodeUtf8_eq_ok_iff {bytes : List UInt8} {cs : List Char} :
    decodeUtf8 bytes = .ok cs ↔ bytes = encodeUtf8 cs := by
  constructor
  · have hfrom : ∀ offset, decodeFrom offset bytes = .ok cs → bytes = encodeUtf8 cs := by
      induction hlength : bytes.length using Nat.strongRecOn generalizing bytes cs with
      | _ length ih =>
      intro offset hdecode
      cases bytes with
      | nil =>
        cases hdecode
        rfl
      | cons a rest =>
        obtain ⟨c, cs', offset', rest', rfl, hrest, hdecode'⟩ := decodeFrom_cons_eq_ok hdecode
        have hshorter : rest'.length < length := by
          have hpos := String.length_utf8EncodeChar c
          have := congrArg List.length hrest
          simp only [List.length_append] at this
          have := c.utf8Size_pos
          omega
        rw [hrest, ih _ hshorter rfl offset' hdecode']
        rfl
    exact hfrom 0
  · rintro rfl
    exact decodeUtf8_encodeUtf8 cs

end Claw.Text
