import Mathlib
import CompactAdjacency.Coding.Gaps
import CompactAdjacency.Coding.Varint.Buffer
import CompactAdjacency.Proofs.Coding.VarintRuns
import CompactAdjacency.Proofs.Coding.Words

/-!
# Varints read and written in place

What the loops over a buffer do, said of the bytes from the position on. A loop that moves seven
bits at a time comes to the same words as numbers that are put together by division,
`readFrom?_eq` and `writeFrom_eq`. It answers exactly where a number can be measured, so that
measuring a run first is what keeps the loops inside of the buffer and of the word:
`decodeFrom?_of_measure?`.
-/

namespace CompactAdjacency.Varint

/-! ## One byte -/

/-- A number goes on exactly if the highest bit of its byte is set. -/
theorem and_highest_eq_zero_iff (byte : UInt8) : byte &&& 0x80 = 0 ↔ continues byte = false := by
  have hbyte : byte.toNat < 256 := byte.toNat_lt
  have hbit : (byte &&& 0x80).toNat = (byte.toNat / 2 ^ 7 % 2) * 2 ^ 7 := by
    rw [UInt8.toNat_and, ← Nat.toNat_testBit]
    exact Nat.and_two_pow byte.toNat 7
  have hzero : byte &&& 0x80 = 0 ↔ (byte &&& 0x80).toNat = 0 := UInt8.toNat_inj.symm
  rw [hzero, hbit, continues, decide_eq_false_iff_not]
  omega

/-- The other bits are those that count. -/
theorem toNat_payload (byte : UInt8) : (byte.toUInt64 &&& 0x7F).toNat = byte.toNat % 128 := by
  rw [UInt64.toNat_and, UInt8.toNat_toUInt64]
  exact Nat.and_two_pow_sub_one_eq_mod byte.toNat 7

/-! ## Reading -/

variable {bytes : Bytes} {position shift : Nat} {value : UInt64}

/-- The word with the bits of a byte moved above those read before. -/
def merge (value : UInt64) (byte : UInt8) (shift : Nat) (shift_lt : shift < 64) : UInt64 :=
  value ||| shiftUp (byte.toUInt64 &&& 0x7F) shift shift_lt

theorem toNat_merge (hshift : shift < 64) (hvalue : value.toNat < 2 ^ shift) (byte : UInt8) :
    (merge value byte shift hshift).toNat =
      (value.toNat + byte.toNat % 128 * 2 ^ shift) % 2 ^ 64 := by
  rw [merge, toNat_or_shiftUp hshift hvalue, toNat_payload]

/-- Seven bits more have been read then. -/
theorem toNat_merge_lt (hshift : shift < 64) (hvalue : value.toNat < 2 ^ shift) (byte : UInt8) :
    (merge value byte shift hshift).toNat < 2 ^ (shift + 7) := by
  have hpayload : byte.toNat % 128 + 1 ≤ 2 ^ 7 := Nat.mod_lt _ (by decide)
  calc
    (merge value byte shift hshift).toNat
      ≤ value.toNat + byte.toNat % 128 * 2 ^ shift := toNat_merge hshift hvalue byte ▸
        Nat.mod_le _ _
    _ < (byte.toNat % 128 + 1) * 2 ^ shift := by rw [Nat.add_mul]; omega
    _ ≤ 2 ^ 7 * 2 ^ shift := Nat.mul_le_mul_right _ hpayload
    _ = 2 ^ (shift + 7) := by rw [pow_add, Nat.mul_comm]

theorem readFrom?_of_le (hposition : bytes.length ≤ position) :
    readFrom? bytes position shift value = none := by
  rw [readFrom?, dif_neg (Nat.not_lt.mpr hposition)]

theorem readFrom?_of_wide (hshift : 64 ≤ shift) :
    readFrom? bytes position shift value = none := by
  rw [readFrom?]
  split
  case isTrue hinside => rw [dif_neg (Nat.not_lt.mpr hshift)]
  case isFalse houtside => rfl

/-- One byte of a number that is read inside of the buffer. -/
theorem readFrom?_of_lt (hposition : position < bytes.length) (hshift : shift < 64) :
    readFrom? bytes position shift value =
      if continues bytes[position] then
        readFrom? bytes (position + 1) (shift + 7) (merge value bytes[position] shift hshift)
      else some (merge value bytes[position] shift hshift, position + 1) := by
  rw [readFrom?, dif_pos hposition, dif_pos hshift]
  simp only [and_highest_eq_zero_iff, merge]
  cases continues bytes[position] <;> rfl

/-- Reading on in a number puts what is left of it above the bits read before. As seven bits are
moved at a time, the shift is too large exactly where the number is too long. -/
theorem readFrom?_eq {limit : Nat} (hshift : shift + 7 * limit = 70) (bytes : Bytes)
    (position : Nat) (hvalue : value.toNat < 2 ^ shift) :
    readFrom? bytes position shift value =
      (readNat? limit (bytes.drop position)).map fun read =>
        ((value.toNat + read.1 * 2 ^ shift).toUInt64, bytes.length - read.2.length) := by
  induction limit generalizing shift position value with
  | zero =>
      rw [readFrom?_of_wide (by omega)]
      rfl
  | succ limit ih =>
      rcases Nat.lt_or_ge position bytes.length with hinside | houtside
      · have hlt : shift < 64 := by omega
        have hmerge := toNat_merge hlt hvalue bytes[position]
        rw [readFrom?_of_lt hinside hlt, List.drop_eq_getElem_cons hinside, readNat?]
        split
        case isTrue hcontinues =>
          have hlarge : 128 ≤ bytes[position].toNat := by simpa [continues] using hcontinues
          have hpayload : bytes[position].toNat % 128 = bytes[position].toNat - 128 := by
            have := bytes[position].toNat_lt
            omega
          rw [ih (by omega) (position + 1) (toNat_merge_lt hlt hvalue bytes[position]),
            Option.map_map]
          refine congrArg₂ Option.map (funext fun read => ?_) rfl
          refine congrArg₂ Prod.mk (UInt64.toNat_inj.mp ?_) rfl
          have hsum (others : Nat) :
              value.toNat + (bytes[position].toNat - 128) * 2 ^ shift + others * 2 ^ (shift + 7) =
                value.toNat + (bytes[position].toNat - 128 + 128 * others) * 2 ^ shift := by
            ring
          simp only [Nat.toUInt64, UInt64.toNat_ofNat', hmerge, hpayload, Nat.mod_add_mod, hsum]
        case isFalse hends =>
          have hsmall : bytes[position].toNat < 128 := by simpa [continues] using hends
          rw [Option.map_some, List.length_drop]
          rw [Nat.mod_eq_of_lt hsmall] at hmerge
          refine congrArg some (congrArg₂ Prod.mk (UInt64.toNat_inj.mp ?_) (by omega))
          rw [hmerge, Nat.toUInt64, UInt64.toNat_ofNat']
      · rw [readFrom?_of_le houtside, List.drop_eq_nil_of_le houtside]
        rfl

/-- The word at a position is the one at the front of the bytes from there on. -/
theorem readAt?_eq (bytes : Bytes) (position : Nat) :
    readAt? bytes position =
      (read? (bytes.drop position)).map fun read => (read.1, bytes.length - read.2.length) := by
  rw [readAt?, readFrom?_eq (show 0 + 7 * maxLength = 70 from rfl) bytes position (by decide),
    read?, Option.map_map]
  simp [Function.comp_def]

/-- A number that can be measured is read, and reading moves on by its length. -/
theorem readAt?_of_measureOne? {length : Nat}
    (h : measureOne? maxLength (bytes.drop position) = some length) :
    ∃ value, read? (bytes.drop position) = some (value, bytes.drop (position + length)) ∧
      readAt? bytes position = some (value, position + length) := by
  obtain ⟨number, rest, hnumber⟩ := exists_readNat? h
  obtain ⟨front, hsplit, hfront, hmeasure, -⟩ := split_of_readNat? hnumber
  obtain rfl : front.length = length := Option.some.inj (hmeasure.symm.trans h)
  have hrest : bytes.drop (position + front.length) = rest := by
    rw [← List.drop_drop, hsplit, List.drop_left]
  have hread : read? (bytes.drop position) = some (number.toUInt64, rest) := by
    simp [read?, hnumber]
  have hlast : bytes.length - rest.length = position + front.length := by
    have hpos := List.length_pos_iff.mpr hfront
    have hlengths := congrArg List.length hsplit
    rw [List.length_drop, List.length_append] at hlengths
    omega
  refine ⟨number.toUInt64, hrest ▸ hread, ?_⟩
  rw [readAt?_eq, hread, Option.map_some, hlast]

/-- A number that cannot be measured is not read. -/
theorem readAt?_of_measureOne?_eq_none (h : measureOne? maxLength (bytes.drop position) = none) :
    readAt? bytes position = none := by
  rw [readAt?_eq, Option.map_eq_none_iff, read?, Option.map_eq_none_iff]
  by_contra hread
  obtain ⟨⟨number, rest⟩, hnumber⟩ := Option.ne_none_iff_exists'.mp hread
  obtain ⟨front, -, -, hmeasure, -⟩ := split_of_readNat? hnumber
  simp [h] at hmeasure

/-! ## Several numbers -/

/-- A run that can be measured is decoded, and decoding takes its length. -/
theorem decodeFrom?_of_measure? {count length : Nat}
    (h : measure? count (bytes.drop position) = some length) :
    decodeFrom? bytes position count =
      some ((readRun count (bytes.drop position)).values, position + length) := by
  induction count generalizing position length with
  | zero =>
      obtain rfl := Option.some.inj h
      rfl
  | succ count ih =>
      simp only [measure?, bind, Option.bind_eq_some_iff] at h
      obtain ⟨first, hfirst, others, hothers, hlength⟩ := h
      obtain rfl := Option.some.inj hlength
      obtain ⟨value, hread, hat⟩ := readAt?_of_measureOne? hfirst
      rw [List.drop_drop] at hothers
      simp only [decodeFrom?, hat, ih hothers, readRun_succ hread, bind, Option.bind_some, pure,
        Nat.add_assoc]

/-- From the front of the bytes, the position behind the run is its length. -/
theorem decode?_of_measure? {count length : Nat} (h : measure? count bytes = some length) :
    decode? bytes count = some ((readRun count bytes).values, length) := by
  rw [decode?, decodeFrom?_of_measure? h, List.drop_zero, Nat.zero_add]

/-- A run that cannot be measured is not decoded. -/
theorem decodeFrom?_of_measure?_eq_none {count : Nat}
    (h : measure? count (bytes.drop position) = none) :
    decodeFrom? bytes position count = none := by
  induction count generalizing position with
  | zero => simp [measure?] at h
  | succ count ih =>
      cases hfirst : measureOne? maxLength (bytes.drop position) with
      | none =>
          simp only [decodeFrom?, readAt?_of_measureOne?_eq_none hfirst, bind, Option.bind_none]
      | some first =>
          obtain ⟨value, -, hat⟩ := readAt?_of_measureOne? hfirst
          cases hothers : measure? count (bytes.drop (position + first)) with
          | none =>
              simp only [decodeFrom?, hat, ih hothers, bind, Option.bind_some, Option.bind_none]
          | some others => simp [measure?, hfirst, hothers] at h

/-- Running sums are those of the words that are decoded, and take the same bytes. -/
theorem decodeSumsFrom?_eq (bytes : Bytes) (position : Nat) (previous : UInt64) (count : Nat) :
    decodeSumsFrom? bytes position previous count =
      (decodeFrom? bytes position count).map fun decoded =>
        (Gaps.sumsFrom previous decoded.1, decoded.2) := by
  induction count generalizing position previous with
  | zero => rfl
  | succ count ih =>
      rw [decodeSumsFrom?, decodeFrom?]
      cases readAt? bytes position with
      | none => rfl
      | some read =>
          obtain ⟨gap, next⟩ := read
          simp only [bind, Option.bind_some, pure, ih]
          cases decodeFrom? bytes next count with
          | none => rfl
          | some decoded => rfl

/-! ## Writing -/

/-- The byte that is appended before a number goes on. -/
theorem and_or_highest (value : UInt64) :
    (value &&& 0x7F).toUInt8 ||| 0x80 = (value.toNat % 128 + 128).toUInt8 := by
  have hlow : ((value &&& 0x7F).toUInt8).toNat = value.toNat % 128 := by
    have hmask : (value &&& 0x7F).toNat = value.toNat % 128 := by
      rw [UInt64.toNat_and]
      exact Nat.and_two_pow_sub_one_eq_mod value.toNat 7
    rw [UInt64.toNat_toUInt8, hmask]
    omega
  have hlt : value.toNat % 128 < 2 ^ 7 := Nat.mod_lt _ (by decide)
  apply UInt8.toNat_inj.mp
  rw [toNat_toUInt8 (by omega), UInt8.toNat_or, hlow]
  exact or_mul_two_pow hlt 1

/-- What the loop appends to a buffer are the bytes of the word, and it counts them. -/
theorem writeFrom_eq (written : Nat) (buffer : Bytes) (value : UInt64) :
    writeFrom (written + 1) buffer value =
      (written + (encode value).length, buffer ++ encode value) := by
  induction hvalue : value.toNat using Nat.strongRecOn generalizing written buffer value with
  | ind number ih =>
      subst hvalue
      have hsmall : value > 0x7F ↔ ¬ value.toNat < 128 := by
        rw [gt_iff_lt, UInt64.lt_iff_toNat_lt, Nat.not_lt]
        rfl
      rw [writeFrom, encode, encodeNat]
      split
      case isTrue hlarge =>
        rw [if_neg (hsmall.mp hlarge), ih _ (toNat_shiftRight_lt hlarge) _ _ _ rfl, encode,
          toNat_shiftRight_seven, and_or_highest, List.append_assoc, List.singleton_append,
          List.length_cons]
        refine congrArg₂ Prod.mk ?_ rfl
        omega
      case isFalse hlast =>
        rw [if_pos (not_not.mp (mt hsmall.mpr hlast)), List.length_singleton]
        rfl

theorem writeOnto_eq (buffer : Bytes) (value : UInt64) :
    writeOnto buffer value = ((encode value).length, buffer ++ encode value) := by
  rw [writeOnto, ← Nat.zero_add 1, writeFrom_eq, Nat.zero_add]

/-- Several words are appended one after the other. -/
theorem writeAllOnto_eq (buffer : Bytes) (values : List UInt64) :
    writeAllOnto buffer values = ((encodeAll values).length, buffer ++ encodeAll values) := by
  induction values generalizing buffer with
  | nil => simp [writeAllOnto, encodeAll]
  | cons value values ih =>
      rw [writeAllOnto, writeOnto_eq]
      dsimp only
      rw [ih, encodeAll, encodeAll, List.flatMap_cons, List.length_append, List.append_assoc]

end CompactAdjacency.Varint
