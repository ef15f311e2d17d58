import Mathlib
import CompactAdjacency.Bytes

/-!
# Little-endian words read back

Writing a number and reading it back gives it modulo the width, `ofLittleEndian_littleEndian`, and
reading a byte string and writing it back gives the string, `littleEndian_ofLittleEndian`. So byte
strings of one width and the numbers that fit it determine each other.
-/

namespace CompactAdjacency

/-- Reading back `width` bytes of a number gives it modulo `256 ^ width`. -/
theorem ofLittleEndian_littleEndian (width value : Nat) :
    ofLittleEndian (littleEndian width value) = value % 256 ^ width := by
  induction width generalizing value with
  | zero => simp [littleEndian, ofLittleEndian, Nat.mod_one]
  | succ width ih =>
      have h : 256 ^ (width + 1) = 256 * 256 ^ width := by rw [Nat.pow_succ, Nat.mul_comm]
      simp only [littleEndian, ofLittleEndian, ih, h, Nat.mod_mul]
      simp [Nat.toUInt8, UInt8.toNat_ofNat']

/-- A byte string denotes a number below `256 ^ length`. -/
theorem ofLittleEndian_lt (bytes : Bytes) : ofLittleEndian bytes < 256 ^ bytes.length := by
  induction bytes with
  | nil => simp [ofLittleEndian]
  | cons byte rest ih =>
      have := byte.toNat_lt
      simp only [ofLittleEndian, List.length_cons, Nat.pow_succ]
      omega

/-- Writing the number a byte string denotes, at the string's own width, gives the string back. -/
theorem littleEndian_ofLittleEndian (bytes : Bytes) :
    littleEndian bytes.length (ofLittleEndian bytes) = bytes := by
  induction bytes with
  | nil => rfl
  | cons byte rest ih =>
      have := byte.toNat_lt
      have hlow : (byte.toNat + 256 * ofLittleEndian rest).toUInt8 = byte := by
        apply UInt8.toNat_inj.1
        simp only [Nat.toUInt8, UInt8.toNat_ofNat']
        omega
      have hhigh : (byte.toNat + 256 * ofLittleEndian rest) / 256 = ofLittleEndian rest := by omega
      simp [littleEndian, ofLittleEndian, hlow, hhigh, ih]

end CompactAdjacency
