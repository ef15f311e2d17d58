import Mathlib
import CompactAdjacency.Bytes.Lemmas
import CompactAdjacency.Coding.Bits

/-!
# Words as numbers

Masks, shifts and unions of words, read as operations on the numbers they stand for: a mask is a
remainder, a shift multiplies or divides by a power of two, and a union of words that share no bit
is a sum. Little-endian byte strings are numbers as well, and `ofLittleEndian_append` cuts them.
-/

namespace CompactAdjacency

/-! ## Words -/

/-- A mask has its `length` lowest bits set. -/
theorem toNat_lowMask {length : Nat} (hlength : length ≤ 64) :
    (lowMask length).toNat = 2 ^ length - 1 := by
  unfold lowMask
  split
  · have h : length = 64 := by omega
    subst h
    rfl
  · have hlt : length < 64 := by omega
    have hpow : 2 ^ length < 2 ^ 64 := Nat.pow_lt_pow_right (by omega) hlt
    have hpos : 0 < 2 ^ length := Nat.two_pow_pos length
    have hone : ((1 : UInt64) <<< length.toUInt64).toNat = 2 ^ length := by
      have hmod : length % 2 ^ 64 % 64 = length := by omega
      simp only [UInt64.toNat_shiftLeft, Nat.toUInt64, UInt64.toNat_ofNat', hmod,
        UInt64.toNat_one, Nat.shiftLeft_eq, Nat.one_mul]
      exact Nat.mod_eq_of_lt hpow
    rw [UInt64.toNat_sub_of_le _ _ (by rw [UInt64.le_iff_toNat_le, hone]; exact hpos), hone]
    rfl

/-- Masking a word keeps its remainder. -/
theorem toNat_and_lowMask (word : UInt64) {length : Nat} (hlength : length ≤ 64) :
    (word &&& lowMask length).toNat = word.toNat % 2 ^ length := by
  rw [UInt64.toNat_and, toNat_lowMask hlength, Nat.and_two_pow_sub_one_eq_mod]

/-- Moving a word up multiplies it; what leaves the word is lost. -/
theorem toNat_shiftUp (word : UInt64) {amount : Nat} (hamount : amount < 64) :
    (shiftUp word amount hamount).toNat = word.toNat * 2 ^ amount % 2 ^ 64 := by
  have hmod : amount % 2 ^ 64 % 64 = amount := by omega
  simp only [shiftUp, UInt64.toNat_shiftLeft, Nat.toUInt64, UInt64.toNat_ofNat', hmod,
    Nat.shiftLeft_eq]

/-- Moving a word down divides it. -/
theorem toNat_shiftDown (word : UInt64) {amount : Nat} (hamount : amount < 64) :
    (shiftDown word amount hamount).toNat = word.toNat / 2 ^ amount := by
  have hmod : amount % 2 ^ 64 % 64 = amount := by omega
  simp only [shiftDown, UInt64.toNat_shiftRight, Nat.toUInt64, UInt64.toNat_ofNat', hmod,
    Nat.shiftRight_eq_div_pow]

/-- Moving a word down by all of its bits leaves nothing, which no shift can do. -/
theorem toNat_shiftDown_all (word : UInt64) {amount : Nat} (hamount : amount ≤ 64) :
    (if whole : amount = 64 then (0 : UInt64) else shiftDown word amount (by omega)).toNat =
      word.toNat / 2 ^ amount := by
  split
  case isTrue hwhole =>
    rw [hwhole, Nat.div_eq_of_lt word.toNat_lt]
    rfl
  case isFalse hpart => rw [toNat_shiftDown]

/-- The union of a number with one moved past its bits is their sum. -/
theorem or_mul_two_pow {low amount : Nat} (hlow : low < 2 ^ amount) (high : Nat) :
    low ||| high * 2 ^ amount = low + high * 2 ^ amount := by
  rw [Nat.lor_comm, Nat.mul_comm, ← Nat.two_pow_add_eq_or_of_lt hlow, Nat.add_comm]

/-- The union of the `amount` lowest bits with a field moved past them, where part of the field may
leave the word. -/
theorem toNat_or_shiftUp {low : UInt64} {amount : Nat} (hamount : amount < 64)
    (hlow : low.toNat < 2 ^ amount) (field : UInt64) :
    (low ||| shiftUp field amount hamount).toNat =
      (low.toNat + field.toNat * 2 ^ amount) % 2 ^ 64 := by
  have hsplit : (2 : Nat) ^ 64 = 2 ^ (64 - amount) * 2 ^ amount := by
    rw [← pow_add, Nat.sub_add_cancel (by omega)]
  have hsum : low.toNat + field.toNat % 2 ^ (64 - amount) * 2 ^ amount < 2 ^ 64 := by
    have hfield : field.toNat % 2 ^ (64 - amount) + 1 ≤ 2 ^ (64 - amount) :=
      Nat.mod_lt _ (Nat.two_pow_pos _)
    calc
      low.toNat + field.toNat % 2 ^ (64 - amount) * 2 ^ amount
        < (field.toNat % 2 ^ (64 - amount) + 1) * 2 ^ amount := by rw [Nat.add_mul]; omega
      _ ≤ 2 ^ (64 - amount) * 2 ^ amount := Nat.mul_le_mul_right _ hfield
      _ = 2 ^ 64 := hsplit.symm
  have hmod : field.toNat * 2 ^ amount % 2 ^ 64 =
      field.toNat % 2 ^ (64 - amount) * 2 ^ amount := by
    rw [hsplit, Nat.mul_mod_mul_right]
  rw [UInt64.toNat_or, toNat_shiftUp _ hamount, hmod, or_mul_two_pow hlow,
    ← Nat.mod_eq_of_lt hsum, ← hmod, Nat.add_mod_mod]

/-! ## Fields across two words -/

/-- A field that begins in a word with `amount` bits and ends in the digits after it. -/
theorem mod_div_across {low amount : Nat} (hlow : low < 2 ^ amount) (rest need : Nat) :
    (low + 2 ^ amount * rest) % 2 ^ (amount + need) = low + 2 ^ amount * (rest % 2 ^ need) ∧
      (low + 2 ^ amount * rest) / 2 ^ (amount + need) = rest / 2 ^ need := by
  have hquotient : (low + 2 ^ amount * rest) / 2 ^ amount = rest := by
    rw [Nat.add_mul_div_left _ _ (Nat.two_pow_pos _), Nat.div_eq_of_lt hlow, Nat.zero_add]
  constructor
  · rw [pow_add, Nat.mod_mul, hquotient, Nat.add_mul_mod_self_left, Nat.mod_eq_of_lt hlow]
  · rw [pow_add, ← Nat.div_div_eq_div_mul, hquotient]

/-- A field above the bits in hand is cut where the word ends. -/
theorem split_word {low filled : Nat} (hlow : low < 2 ^ filled) (hfilled : filled < 64)
    (field : Nat) :
    low + field * 2 ^ filled =
      (low + field * 2 ^ filled) % 2 ^ 64 + 2 ^ 64 * (field / 2 ^ (64 - filled)) := by
  have hhigh : (low + field * 2 ^ filled) / 2 ^ 64 = field / 2 ^ (64 - filled) := by
    have h64 : 64 = filled + (64 - filled) := by omega
    rw [Nat.mul_comm]
    conv_lhs => rw [h64]
    exact (mod_div_across hlow _ _).2
  rw [← hhigh]
  exact (Nat.mod_add_div _ _).symm

/-- A field at the front of a word of `count` bits with more digits after it. The word may be
shorter than the field only if no digits follow. -/
theorem mod_div_within {word count : Nat} (hword : word < 2 ^ count) (rest need : Nat)
    (hlast : count < need → rest = 0) :
    (word + 2 ^ count * rest) % 2 ^ need = word % 2 ^ need ∧
      (word + 2 ^ count * rest) / 2 ^ need = word / 2 ^ need + 2 ^ (count - need) * rest ∧
      word / 2 ^ need < 2 ^ (count - need) := by
  rcases Nat.lt_or_ge count need with hshort | hlong
  · have hsmall : word < 2 ^ need := lt_trans hword (Nat.pow_lt_pow_right (by omega) hshort)
    simp [hlast hshort, Nat.div_eq_of_lt hsmall]
  · have hpow : 2 ^ count = 2 ^ need * 2 ^ (count - need) := by
      rw [← pow_add, Nat.add_sub_cancel' hlong]
    refine ⟨?_, ?_, ?_⟩
    · rw [hpow, Nat.mul_assoc, Nat.add_mul_mod_self_left]
    · rw [hpow, Nat.mul_assoc, Nat.add_mul_div_left _ _ (Nat.two_pow_pos _)]
    · rwa [Nat.div_lt_iff_lt_mul (Nat.two_pow_pos _), Nat.mul_comm, ← hpow]

/-! ## Byte strings -/

/-- The number of a joined byte string, the later bytes above the earlier ones. -/
theorem ofLittleEndian_append (front rest : Bytes) :
    ofLittleEndian (front ++ rest) =
      ofLittleEndian front + 256 ^ front.length * ofLittleEndian rest := by
  induction front with
  | nil => simp [ofLittleEndian]
  | cons byte front ih =>
      simp only [List.cons_append, ofLittleEndian, ih, List.length_cons, Nat.pow_succ]
      ring

/-- A power of 256 counts bits by the byte. -/
theorem pow_256 (count : Nat) : 256 ^ count = 2 ^ (8 * count) := by
  rw [show (256 : Nat) = 2 ^ 8 from rfl, ← pow_mul]

/-- The front bytes of a written number hold its remainder. -/
theorem ofLittleEndian_take_littleEndian {count width : Nat} (hcount : count ≤ width)
    (value : Nat) :
    ofLittleEndian ((littleEndian width value).take count) = value % 256 ^ count := by
  induction count generalizing width value with
  | zero => simp [ofLittleEndian, Nat.mod_one]
  | succ count ih =>
      obtain ⟨width, rfl⟩ : ∃ w, width = w + 1 := ⟨width - 1, by omega⟩
      have h : 256 ^ (count + 1) = 256 * 256 ^ count := by rw [Nat.pow_succ, Nat.mul_comm]
      simp only [littleEndian, List.take_succ_cons, ofLittleEndian, ih (by omega : count ≤ width),
        h, Nat.mod_mul]
      simp [Nat.toUInt8, UInt8.toNat_ofNat']

/-- A word written as eight bytes is read back. -/
theorem ofLittleEndian_littleEndian_toNat (word : UInt64) :
    (ofLittleEndian (littleEndian 8 word.toNat)).toUInt64 = word := by
  rw [ofLittleEndian_littleEndian, Nat.mod_eq_of_lt (show word.toNat < 256 ^ 8 from word.toNat_lt)]
  simp [Nat.toUInt64]

/-- A word cut out of a byte string is its number, no byte being lost. -/
theorem toNat_ofLittleEndian_take (bytes : Bytes) :
    (ofLittleEndian (bytes.take 8)).toUInt64.toNat = ofLittleEndian (bytes.take 8) := by
  have hlt := ofLittleEndian_lt (bytes.take 8)
  have hle : 256 ^ (bytes.take 8).length ≤ 256 ^ 8 :=
    Nat.pow_le_pow_right (by omega) (by simp)
  simp only [Nat.toUInt64, UInt64.toNat_ofNat']
  exact Nat.mod_eq_of_lt (by omega)

end CompactAdjacency
