import Mathlib
import CompactAdjacency.Proofs.Coding.Words

/-!
# Bit streams as numbers

Both ends of a bit stream stand for one number. `BitWriter.value` is the number whose binary digits
are the bits written so far, and `push` puts the new field above them. `BitReader.value` is the
number whose digits are the bits still to come, and `next` takes its remainder and leaves its
quotient. Bits in hand and bits handed on, the word boundaries between them and the short word at
the end of the input do not show in either number.
-/

namespace CompactAdjacency

/-! ## Writing -/

namespace BitWriter

variable {writer : BitWriter} {length : Nat}

/-- The number of bits in the buffer and in hand. -/
def bitCount (writer : BitWriter) : Nat := 8 * writer.output.length + writer.filled

/-- The number whose binary digits are the bits in the buffer and in hand. -/
def value (writer : BitWriter) : Nat :=
  ofLittleEndian writer.output + 256 ^ writer.output.length * writer.pending.toNat

/-- The bits in hand are no more than are counted. -/
def Tidy (writer : BitWriter) : Prop := writer.pending.toNat < 2 ^ writer.filled

theorem onto_tidy (buffer : Bytes) : (onto buffer).Tidy := by simp [onto, Tidy]

@[simp] theorem onto_value (buffer : Bytes) : (onto buffer).value = ofLittleEndian buffer := by
  simp [onto, value]

@[simp] theorem onto_bitCount (buffer : Bytes) : (onto buffer).bitCount = 8 * buffer.length := by
  simp [onto, bitCount]

theorem two_pow_bitCount (writer : BitWriter) :
    2 ^ writer.bitCount = 256 ^ writer.output.length * 2 ^ writer.filled := by
  rw [bitCount, pow_add, pow_256]

/-- A field above the bits in hand lies above all bits written before. -/
theorem value_add_field (writer : BitWriter) (field : Nat) :
    writer.value + 2 ^ writer.bitCount * field = ofLittleEndian writer.output +
      256 ^ writer.output.length * (writer.pending.toNat + field * 2 ^ writer.filled) := by
  rw [value, two_pow_bitCount]
  ring

/-- The bits in hand and a field above them. -/
theorem Tidy.add_field_lt (h : writer.Tidy) {field : Nat} (hfield : field < 2 ^ length) :
    writer.pending.toNat + field * 2 ^ writer.filled < 2 ^ (writer.filled + length) := by
  have hle : (field + 1) * 2 ^ writer.filled ≤ 2 ^ length * 2 ^ writer.filled :=
    Nat.mul_le_mul_right _ hfield
  unfold Tidy at h
  rw [Nat.add_mul] at hle
  rw [Nat.add_comm writer.filled, pow_add]
  omega

/-- A field for which there is room joins the bits in hand. -/
theorem push_of_room (h : writer.Tidy) (field : UInt64) (hlength : length ≤ 64)
    (hroom : writer.filled + length < 64) :
    (writer.push field length hlength).Tidy ∧
      (writer.push field length hlength).bitCount = writer.bitCount + length ∧
      (writer.push field length hlength).value =
        writer.value + 2 ^ writer.bitCount * (field.toNat % 2 ^ length) := by
  have hfield : field.toNat % 2 ^ length < 2 ^ length := Nat.mod_lt _ (Nat.two_pow_pos _)
  have hmerged := h.add_field_lt hfield
  have hor := toNat_or_shiftUp writer.filled_lt h (field &&& lowMask length)
  rw [toNat_and_lowMask _ hlength,
    Nat.mod_eq_of_lt (lt_trans hmerged (Nat.pow_lt_pow_right (by omega) hroom))] at hor
  by_cases hzero : length = 0
  · subst hzero
    simp [push, h, Nat.mod_one]
  · rw [push, dif_neg hzero, dif_pos hroom, value_add_field]
    refine ⟨?_, ?_, ?_⟩
    · simpa only [Tidy, hor] using hmerged
    · simp only [bitCount, Nat.add_assoc]
    · simp only [value, hor]

/-- A field for which there is no room completes the word in hand with its low bits, and its high
bits stay in hand. -/
theorem push_of_full (h : writer.Tidy) (field : UInt64) (hlength : length ≤ 64)
    (hfull : ¬ writer.filled + length < 64) :
    (writer.push field length hlength).Tidy ∧
      (writer.push field length hlength).bitCount = writer.bitCount + length ∧
      (writer.push field length hlength).value =
        writer.value + 2 ^ writer.bitCount * (field.toNat % 2 ^ length) := by
  have hfilled := writer.filled_lt
  have hfield : field.toNat % 2 ^ length < 2 ^ length := Nat.mod_lt _ (Nat.two_pow_pos _)
  have hor := toNat_or_shiftUp hfilled h (field &&& lowMask length)
  rw [toNat_and_lowMask _ hlength] at hor
  have hcarry : (if spilled : writer.filled + length - 64 = 0 then (0 : UInt64)
        else shiftDown (field &&& lowMask length) (length - (writer.filled + length - 64))
          (by omega)).toNat = field.toNat % 2 ^ length / 2 ^ (64 - writer.filled) := by
    split
    case isTrue hexact =>
      rw [show 64 - writer.filled = length by omega, Nat.div_eq_of_lt hfield]
      rfl
    case isFalse hmore =>
      rw [toNat_shiftDown, toNat_and_lowMask _ hlength]
      congr 2
      omega
  have hbytes : ofLittleEndian (littleEndian 8
      (writer.pending ||| shiftUp (field &&& lowMask length) writer.filled hfilled).toNat) =
      (writer.pending.toNat + field.toNat % 2 ^ length * 2 ^ writer.filled) % 2 ^ 64 := by
    rw [ofLittleEndian_littleEndian, hor]
    exact Nat.mod_mod _ _
  -- what does not fit into the word in hand is carried into the next one
  have hsplit := split_word h hfilled (field.toNat % 2 ^ length)
  rw [push, dif_neg (by omega), dif_neg hfull, value_add_field, hsplit]
  refine ⟨?_, ?_, ?_⟩
  · simp only [Tidy, hcarry]
    rw [Nat.div_lt_iff_lt_mul (Nat.two_pow_pos _), ← pow_add]
    rwa [show writer.filled + length - 64 + (64 - writer.filled) = length by omega]
  · simp only [bitCount, List.length_append, length_littleEndian]
    omega
  · simp only [value, ofLittleEndian_append, hbytes, hcarry, List.length_append,
      length_littleEndian, pow_add]
    ring

/-- One field more: it lies above the bits written before, and nothing else changes. -/
theorem push_value (h : writer.Tidy) (field : UInt64) (hlength : length ≤ 64) :
    (writer.push field length hlength).Tidy ∧
      (writer.push field length hlength).bitCount = writer.bitCount + length ∧
      (writer.push field length hlength).value =
        writer.value + 2 ^ writer.bitCount * (field.toNat % 2 ^ length) := by
  by_cases hroom : writer.filled + length < 64
  · exact push_of_room h field hlength hroom
  · exact push_of_full h field hlength hroom

/-- Finishing a stream hands on all of its bits, the last byte padded with zeros. -/
theorem finish_value (h : writer.Tidy) :
    ofLittleEndian writer.finish = writer.value ∧
      writer.finish.length = (writer.bitCount + 7) / 8 := by
  have hfilled := writer.filled_lt
  constructor
  · rw [finish, ofLittleEndian_append, value,
      ofLittleEndian_take_littleEndian (by omega : (writer.filled + 7) / 8 ≤ 8)]
    congr 2
    apply Nat.mod_eq_of_lt
    rw [pow_256]
    exact lt_of_lt_of_le h (Nat.pow_le_pow_right (by omega) (by omega))
  · simp only [finish, bitCount, List.length_append, List.length_take, length_littleEndian]
    omega

/-- Several fields of one width are the digits of a number. -/
theorem foldl_push_value (h : writer.Tidy) {width : Nat} (hwidth : width ≤ 64)
    (fields : List UInt64) :
    let written := fields.foldl (fun writer field => writer.push field width hwidth) writer
    written.Tidy ∧ written.bitCount = writer.bitCount + width * fields.length ∧
      written.value = writer.value + 2 ^ writer.bitCount *
        Nat.ofDigits (2 ^ width) (fields.map fun field => field.toNat % 2 ^ width) := by
  induction fields generalizing writer with
  | nil => simp [h]
  | cons field fields ih =>
      obtain ⟨htidy, hcount, hvalue⟩ := push_value h field hwidth
      obtain ⟨htidy', hcount', hvalue'⟩ := ih htidy
      refine ⟨htidy', ?_, ?_⟩
      · simp only [List.foldl_cons, List.length_cons, hcount', hcount]
        ring
      · simp only [List.foldl_cons, hvalue', hvalue, hcount, List.map_cons, Nat.ofDigits_cons,
          pow_add]
        ring

end BitWriter

/-! ## Reading -/

namespace BitReader

variable {reader : BitReader} {length : Nat}

/-- The number whose binary digits are the bits still to come. -/
def value (reader : BitReader) : Nat :=
  reader.pending.toNat + 2 ^ reader.filled * ofLittleEndian reader.input

/-- The bits in hand are no more than are counted. -/
def Tidy (reader : BitReader) : Prop := reader.pending.toNat < 2 ^ reader.filled

theorem ofBytes_tidy (input : Bytes) : (ofBytes input).Tidy := by simp [ofBytes, Tidy]

@[simp] theorem ofBytes_value (input : Bytes) : (ofBytes input).value = ofLittleEndian input := by
  simp [ofBytes, value]

/-- A loaded word holds as many bits as are counted for it. -/
theorem ofLittleEndian_take_lt_loadable (input : Bytes) :
    ofLittleEndian (input.take 8) < 2 ^ loadable input := by
  have hlt := ofLittleEndian_lt (input.take 8)
  rw [pow_256, List.length_take] at hlt
  refine lt_of_lt_of_le hlt (Nat.pow_le_pow_right (by omega) ?_)
  unfold loadable
  split <;> omega

/-- The input is the word that is loaded next with the rest above it. -/
theorem ofLittleEndian_eq_loaded (input : Bytes) :
    ofLittleEndian input =
      ofLittleEndian (input.take 8) + 2 ^ loadable input * ofLittleEndian (input.drop 8) := by
  rcases Nat.lt_or_ge input.length 8 with hshort | hlong
  · rw [List.take_of_length_le (by omega), List.drop_of_length_le (by omega)]
    simp [ofLittleEndian]
  · have hload : loadable input = 8 * (input.take 8).length := by
      have hne : input ≠ [] := by
        rintro rfl
        simp at hlong
      simp only [loadable, if_neg hne, List.length_take]
      omega
    rw [hload, ← pow_256, ← ofLittleEndian_append, List.take_append_drop]

/-- Nothing follows a word that holds fewer than 64 bits. -/
theorem ofLittleEndian_drop_of_loadable_lt {input : Bytes} (h : loadable input < 64) :
    ofLittleEndian (input.drop 8) = 0 := by
  have hshort : input.length < 8 := by
    unfold loadable at h
    split at h <;> omega
  rw [List.drop_of_length_le (by omega)]
  rfl

/-- A field that the bits in hand cover. -/
theorem next_of_hand (h : reader.Tidy) (hlength : length ≤ 64) (hhand : length ≤ reader.filled) :
    ((reader.next length hlength).1).toNat = reader.value % 2 ^ length ∧
      (reader.next length hlength).2.Tidy ∧
      (reader.next length hlength).2.value = reader.value / 2 ^ length := by
  by_cases hzero : length = 0
  · subst hzero
    simp [next, h, Nat.mod_one]
  · have hfilled := reader.filled_lt
    obtain ⟨hmod, hdiv, htidy⟩ := mod_div_within h (ofLittleEndian reader.input) length
      (fun hshort => absurd hhand (by omega))
    rw [next, dif_neg hzero, dif_pos hhand]
    refine ⟨?_, ?_, ?_⟩
    · rw [toNat_and_lowMask _ hlength, value, hmod]
    · simpa only [Tidy, toNat_shiftDown] using htidy
    · simpa only [value, toNat_shiftDown] using hdiv.symm

/-- A field that ends in the next word, or behind the last one. -/
theorem next_of_load (h : reader.Tidy) (hlength : length ≤ 64)
    (hload : ¬ length ≤ reader.filled) :
    ((reader.next length hlength).1).toNat = reader.value % 2 ^ length ∧
      (reader.next length hlength).2.Tidy ∧
      (reader.next length hlength).2.value = reader.value / 2 ^ length := by
  have hfilled := reader.filled_lt
  obtain ⟨need, hneed⟩ : ∃ need, length = reader.filled + need := ⟨length - reader.filled, by omega⟩
  have hsub : length - reader.filled = need := by omega
  have hword := toNat_ofLittleEndian_take reader.input
  -- the field goes on in the word that is loaded, of which the rest stays in hand
  obtain ⟨hacross, hbeyond⟩ := mod_div_across h (ofLittleEndian reader.input) need
  obtain ⟨hmod, hdiv, htidy⟩ := mod_div_within (ofLittleEndian_take_lt_loadable reader.input)
    (ofLittleEndian (reader.input.drop 8)) need
    (fun hshort => ofLittleEndian_drop_of_loadable_lt (by omega))
  rw [← ofLittleEndian_eq_loaded] at hmod hdiv
  rw [hmod, ← hneed] at hacross
  rw [hdiv, ← hneed] at hbeyond
  have hfield : reader.pending.toNat + ofLittleEndian (reader.input.take 8) % 2 ^ need *
      2 ^ reader.filled < 2 ^ 64 := by
    rw [Nat.mul_comm, ← hacross]
    exact lt_of_lt_of_le (Nat.mod_lt _ (Nat.two_pow_pos _))
      (Nat.pow_le_pow_right (by omega) hlength)
  rw [next, dif_neg (by omega), dif_neg hload]
  refine ⟨?_, ?_, ?_⟩
  · rw [toNat_or_shiftUp hfilled h, toNat_and_lowMask _ (by omega), hword, hsub,
      Nat.mod_eq_of_lt hfield, Nat.mul_comm]
    exact hacross.symm
  · simpa only [Tidy, hsub, toNat_shiftDown_all _ (show need ≤ 64 by omega), hword] using htidy
  · simpa only [value, hsub, toNat_shiftDown_all _ (show need ≤ 64 by omega), hword] using
      hbeyond.symm

/-- One field more: it is the lowest digits of the number, and the others are left. -/
theorem next_value (h : reader.Tidy) (hlength : length ≤ 64) :
    ((reader.next length hlength).1).toNat = reader.value % 2 ^ length ∧
      (reader.next length hlength).2.Tidy ∧
      (reader.next length hlength).2.value = reader.value / 2 ^ length := by
  by_cases hhand : length ≤ reader.filled
  · exact next_of_hand h hlength hhand
  · exact next_of_load h hlength hhand

end BitReader

end CompactAdjacency
