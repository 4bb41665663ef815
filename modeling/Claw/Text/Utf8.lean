import Claw.Numeral.Decimal

/-!
# Strict UTF-8

`decode` reads bytes as UTF-8 and refuses everything that is not the shortest encoding of a Unicode
scalar value: stray and missing continuation bytes, overlong forms, surrogates, and code points
above U+10FFFF.  The refusal is a `DecodeFault`, which says where the offending bytes stand and
why they were refused; `DecodeFault.message` puts it into words.

The classes of lead and second bytes are those of the table of well-formed byte sequences: a second
byte is narrowed after `E0` (no overlong form), `ED` (no surrogate), `F0` (no overlong form) and
`F4` (nothing above U+10FFFF), and any continuation byte serves otherwise.
-/

namespace Claw.Text

/-- Why a byte sequence is not UTF-8. -/
inductive DecodeReason
  /-- No character starts with this byte. -/
  | startByte
  /-- A byte that has to continue a character does not. -/
  | continuationByte
  /-- The bytes end within a character. -/
  | endOfData
  deriving DecidableEq, Repr

/-- The wording of a reason. -/
def DecodeReason.message : DecodeReason → String
  | .startByte => "invalid start byte"
  | .continuationByte => "invalid continuation byte"
  | .endOfData => "unexpected end of data"

/-- A refused byte sequence: its offset, its first byte, its length and the reason. -/
structure DecodeFault where
  offset : Nat
  byte : UInt8
  length : Nat
  reason : DecodeReason
  deriving DecidableEq, Repr

/-- The wording of a fault; a single byte is shown, several are located only. -/
def DecodeFault.message (fault : DecodeFault) : String :=
  if fault.length = 1 then
    "'utf-8' codec can't decode byte 0x" ++
      String.ofList (Numeral.paddedDigits 16 2 fault.byte.toNat) ++ " in position " ++
      Numeral.naturalText fault.offset ++ ": " ++ fault.reason.message
  else
    "'utf-8' codec can't decode bytes in position " ++ Numeral.naturalText fault.offset ++ "-" ++
      Numeral.naturalText (fault.offset + fault.length - 1) ++ ": " ++ fault.reason.message

namespace Utf8

/-- Whether the byte carries six further bits of a character. -/
def isContinuation (b : UInt8) : Bool :=
  0x80 ≤ b && b < 0xC0

/-- Whether the byte may follow a lead byte of a sequence of three or four. -/
def isSecond (lead second : UInt8) : Bool :=
  isContinuation second &&
    (if lead = 0xE0 then 0xA0 ≤ second
     else if lead = 0xED then second < 0xA0
     else if lead = 0xF0 then 0x90 ≤ second
     else if lead = 0xF4 then second < 0x90
     else true)

/-- The six payload bits of a continuation byte. -/
def payload (b : UInt8) : Nat :=
  b.toNat % 64

/-- The character of a sequence of two bytes. -/
def char2 (a b : UInt8) : Char :=
  Char.ofNat (a.toNat % 32 * 64 + payload b)

/-- The character of a sequence of three bytes. -/
def char3 (a b c : UInt8) : Char :=
  Char.ofNat ((a.toNat % 16 * 64 + payload b) * 64 + payload c)

/-- The character of a sequence of four bytes. -/
def char4 (a b c d : UInt8) : Char :=
  Char.ofNat (((a.toNat % 8 * 64 + payload b) * 64 + payload c) * 64 + payload d)

/-- The characters of the bytes, of which the first stands at `offset`. -/
def decodeFrom (offset : Nat) : List UInt8 → Except DecodeFault (List Char)
  | [] => .ok []
  | a :: rest =>
    let refuse (length : Nat) (reason : DecodeReason) := .error ⟨offset, a, length, reason⟩
    if a < 0x80 then
      (decodeFrom (offset + 1) rest).map (Char.ofNat a.toNat :: ·)
    else if a < 0xC2 || 0xF5 ≤ a then
      refuse 1 .startByte
    else if a < 0xE0 then
      match rest with
      | [] => refuse 1 .endOfData
      | b :: rest =>
        if isContinuation b then (decodeFrom (offset + 2) rest).map (char2 a b :: ·)
        else refuse 1 .continuationByte
    else if a < 0xF0 then
      match rest with
      | [] => refuse 1 .endOfData
      | [b] => if isSecond a b then refuse 2 .endOfData else refuse 1 .continuationByte
      | b :: c :: rest =>
        if !isSecond a b then refuse 1 .continuationByte
        else if !isContinuation c then refuse 2 .continuationByte
        else (decodeFrom (offset + 3) rest).map (char3 a b c :: ·)
    else
      match rest with
      | [] => refuse 1 .endOfData
      | [b] => if isSecond a b then refuse 2 .endOfData else refuse 1 .continuationByte
      | [b, c] =>
        if !isSecond a b then refuse 1 .continuationByte
        else if isContinuation c then refuse 3 .endOfData else refuse 2 .continuationByte
      | b :: c :: d :: rest =>
        if !isSecond a b then refuse 1 .continuationByte
        else if !isContinuation c then refuse 2 .continuationByte
        else if !isContinuation d then refuse 3 .continuationByte
        else (decodeFrom (offset + 4) rest).map (char4 a b c d :: ·)

end Utf8

/-- The characters that the bytes encode. -/
def decodeUtf8 (bytes : List UInt8) : Except DecodeFault (List Char) :=
  Utf8.decodeFrom 0 bytes

/-- The UTF-8 encoding of a text. -/
def encodeUtf8 (cs : List Char) : List UInt8 :=
  cs.flatMap String.utf8EncodeChar

end Claw.Text
