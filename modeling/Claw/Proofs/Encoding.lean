import Claw.DataType
import Mathlib.Algebra.Order.Ring.Int
import Mathlib.Tactic.NormNum
import Mathlib.Tactic.Positivity
import Mathlib.Tactic.Zify

/-!
# Integers in bytes

A value of an integer type is laid down in as many bytes as the type is wide: in plain binary if the
type is unsigned, in two's complement if it is signed.

* `littleEndian`, `ofLittleEndian`: natural numbers in a given number of bytes;
* `IntegerType.encode`, `IntegerType.decode`: integers in the bytes of a type;
* `IntegerType.decode_encode_iff`: the range of a type is what its bytes can hold.
-/

namespace Claw

/-- A natural number in so many bytes, the least significant byte first. -/
def littleEndian : Nat → Nat → List UInt8
  | 0, _ => []
  | width + 1, n => UInt8.ofNat n :: littleEndian width (n / 256)

/-- The natural number in bytes, the least significant byte first. -/
def ofLittleEndian : List UInt8 → Nat
  | [] => 0
  | byte :: bytes => byte.toNat + 256 * ofLittleEndian bytes

@[simp] lemma length_littleEndian (width n : Nat) : (littleEndian width n).length = width := by
  induction width generalizing n with
  | zero => rfl
  | succ width ih => rw [littleEndian, List.length_cons, ih]

/-- Bytes hold a number as far as they reach. -/
lemma ofLittleEndian_littleEndian (width n : Nat) :
    ofLittleEndian (littleEndian width n) = n % 256 ^ width := by
  induction width generalizing n with
  | zero => simp [littleEndian, ofLittleEndian, Nat.mod_one]
  | succ width ih =>
    have hsplit : n % 256 ^ (width + 1) = n % 256 + 256 * (n / 256 % 256 ^ width) := by
      rw [pow_succ', Nat.mod_mul]
    rw [littleEndian, ofLittleEndian, ih, UInt8.toNat_ofNat', hsplit]

namespace IntegerType

/-- The bytes of an integer, in two's complement where it is negative. -/
def encode (type : IntegerType) (value : Int) : List UInt8 :=
  littleEndian type.width.bytes (value % 2 ^ type.width.bits).toNat

/-- The integer in bytes: the upper half of the numbers stands for the negative integers if the type
is signed. -/
def decode (type : IntegerType) (bytes : List UInt8) : Int :=
  let number : Int := ofLittleEndian bytes
  if type.signed ∧ 2 ^ (type.width.bits - 1) ≤ number then number - 2 ^ type.width.bits else number

lemma length_encode (type : IntegerType) (value : Int) :
    (type.encode value).length = type.width.bytes :=
  length_littleEndian _ _

/-- The bytes of an integer hold its residue. -/
lemma ofLittleEndian_encode (type : IntegerType) (value : Int) :
    (ofLittleEndian (type.encode value) : Int) = value % 2 ^ type.width.bits := by
  have hpos : (0 : Int) < 2 ^ type.width.bits := by positivity
  have hreach : 256 ^ type.width.bytes = 2 ^ type.width.bits := by
    rw [Width.bits, pow_mul]
    rfl
  have hnonneg := Int.emod_nonneg value hpos.ne'
  have hlt := Int.emod_lt_of_pos value hpos
  rw [encode, ofLittleEndian_littleEndian, hreach, Nat.mod_eq_of_lt]
  · exact Int.toNat_of_nonneg hnonneg
  · zify
    rwa [Int.toNat_of_nonneg hnonneg]

/-- **Ranges and widths.** An integer survives the bytes of a type just if it is in the range of the
type. -/
theorem decode_encode_iff {type : IntegerType} {value : Int} :
    type.decode (type.encode value) = value ↔ type.admits value = true := by
  simp only [decode, ofLittleEndian_encode, admits, Bool.and_eq_true, decide_eq_true_eq]
  obtain ⟨signed, width⟩ := type
  cases signed with
  | false => cases width <;> norm_num [minimum, maximum, Width.bits, Width.bytes] <;> omega
  | true =>
    cases width <;> norm_num [minimum, maximum, Width.bits, Width.bytes] <;> split_ifs <;> omega

end IntegerType

end Claw
