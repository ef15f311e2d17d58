import Mathlib
import CompactAdjacency.Proofs.Coding.BitStream

/-!
# Fields written end to end

A stream is written as a sequence of fields, each of a width of its own. Whatever the widths and
whatever stands in the values above them, what is appended to the buffer is one little-endian
number, the sum of the fields each moved past the ones before it: `appendAll?_concatenates`. The
writer keeps fewer than 64 bits in hand, so that it may shift by what it holds, by the width of a
field that leaves room, and by what of a field went into a full word; `pushChecked_eq` says that all
of these amounts are below 64 at every state it can be in.
-/

namespace CompactAdjacency

/-! ## Fields -/

/-- A value to be written, of which the `length` lowest bits count. -/
structure BitField where
  value : UInt64
  length : Nat
  deriving DecidableEq, Repr

namespace BitField

/-- The number that the bits of a field stand for. -/
def digits (field : BitField) : Nat := field.value.toNat % 2 ^ field.length

/-- The number of bits of several fields. -/
def totalLength (fields : List BitField) : Nat := (fields.map BitField.length).sum

/-- The number that several fields stand for, each above the bits of those before it. -/
def concatenation (fields : List BitField) : Nat :=
  ∑ index : Fin fields.length, fields[index].digits * 2 ^ totalLength (fields.take index)

@[simp] theorem totalLength_nil : totalLength [] = 0 := rfl

@[simp] theorem totalLength_cons (field : BitField) (fields : List BitField) :
    totalLength (field :: fields) = field.length + totalLength fields := by
  simp [totalLength]

theorem concatenation_nil : concatenation [] = 0 := rfl

/-- The first field has the lowest bits. -/
theorem concatenation_cons (field : BitField) (fields : List BitField) :
    concatenation (field :: fields) = field.digits + 2 ^ field.length * concatenation fields := by
  have hrest : ∑ index : Fin fields.length, fields[index].digits *
      2 ^ totalLength ((field :: fields).take (index.val + 1)) =
        2 ^ field.length * concatenation fields := by
    rw [concatenation, Finset.mul_sum]
    refine Finset.sum_congr rfl fun index _ => ?_
    rw [List.take_succ_cons, totalLength_cons, pow_add]
    ring
  show ∑ index : Fin (fields.length + 1), (field :: fields)[index].digits *
      2 ^ totalLength ((field :: fields).take index) = _
  rw [Fin.sum_univ_succ, ← hrest]
  simp

/-- Fields stand for a number of no more bits than they have. -/
theorem concatenation_lt (fields : List BitField) :
    concatenation fields < 2 ^ totalLength fields := by
  induction fields with
  | nil => simp [concatenation_nil]
  | cons field fields ih =>
      have hdigits : field.digits < 2 ^ field.length := Nat.mod_lt _ (Nat.two_pow_pos _)
      rw [concatenation_cons, totalLength_cons, pow_add]
      calc
        field.digits + 2 ^ field.length * concatenation fields
          < 2 ^ field.length * (concatenation fields + 1) := by rw [Nat.mul_add]; omega
        _ ≤ 2 ^ field.length * 2 ^ totalLength fields := Nat.mul_le_mul_left _ ih

end BitField

open BitField (totalLength concatenation concatenation_nil concatenation_cons concatenation_lt)

/-! ## Shifts that are checked -/

/-- The word moved towards its most significant bit, `none` by an amount that no word can be moved
by. -/
def shiftUp? (word : UInt64) (amount : Nat) : Option UInt64 :=
  if amount_lt : amount < 64 then some (shiftUp word amount amount_lt) else none

/-- The word moved towards its least significant bit, `none` by an amount that no word can be moved
by. -/
def shiftDown? (word : UInt64) (amount : Nat) : Option UInt64 :=
  if amount_lt : amount < 64 then some (shiftDown word amount amount_lt) else none

/-- The word whose `length` lowest bits are set, its shift checked. -/
def lowMask? (length : Nat) : Option UInt64 :=
  if length ≥ 64 then some 0xFFFFFFFFFFFFFFFF else (shiftUp? 1 length).map (· - 1)

/-- No mask takes a shift by 64 or more. -/
theorem lowMask?_eq (length : Nat) : lowMask? length = some (lowMask length) := by
  unfold lowMask? lowMask
  split
  case isTrue hwide => rfl
  case isFalse hnarrow => rw [shiftUp?, dif_pos (Nat.lt_of_not_le hnarrow)]; rfl

namespace BitWriter

variable {writer : BitWriter} {length : Nat}

/-- What goes past a full word is less than a word. -/
theorem spill_lt (writer : BitWriter) (length_le : length ≤ 64) :
    writer.filled + length - 64 < 64 := by
  have hfilled := writer.filled_lt
  omega

/-- Appends the `length` lowest bits of a value as `push` does, with every shift checked. -/
def pushChecked (writer : BitWriter) (value : UInt64) (length : Nat) (length_le : length ≤ 64) :
    Option BitWriter :=
  if length = 0 then some writer
  else do
    let field := value &&& (← lowMask? length)
    let merged := writer.pending ||| (← shiftUp? field writer.filled)
    if room : writer.filled + length < 64 then
      some
        { output := writer.output
          pending := merged
          filled := writer.filled + length
          written := writer.written + length
          filled_lt := room }
    else
      let spill := writer.filled + length - 64
      let carry ← if spill = 0 then some 0 else shiftDown? field (length - spill)
      some
        { output := writer.output ++ littleEndian 8 merged.toNat
          pending := carry
          filled := spill
          written := writer.written + length
          filled_lt := writer.spill_lt length_le }

/-- Pushing never shifts by 64 or more, whatever is in hand. -/
theorem pushChecked_eq (writer : BitWriter) (value : UInt64) (hlength : length ≤ 64) :
    writer.pushChecked value length hlength = some (writer.push value length hlength) := by
  have hfilled := writer.filled_lt
  unfold pushChecked push
  by_cases hzero : length = 0
  · rw [if_pos hzero, dif_pos hzero]
  · have hup : shiftUp? (value &&& lowMask length) writer.filled =
        some (shiftUp (value &&& lowMask length) writer.filled hfilled) := dif_pos hfilled
    simp only [if_neg hzero, dif_neg hzero, lowMask?_eq, hup, bind, Option.bind_some]
    split
    case isTrue hroom => rfl
    case isFalse hfull =>
      -- the part of the field that completes a word is shorter than a word, or nothing is left
      by_cases hexact : writer.filled + length - 64 = 0
      · simp only [if_pos hexact, dif_pos hexact]
      · have hdown : shiftDown? (value &&& lowMask length)
            (length - (writer.filled + length - 64)) =
              some (shiftDown (value &&& lowMask length)
                (length - (writer.filled + length - 64)) (by omega)) :=
          dif_pos (by omega)
        simp only [if_neg hexact, dif_neg hexact, hdown, Option.bind_some]

/-! ## Sequences of fields -/

/-- Appends several fields. Each is answered with the number of bits it appended and the total
after it. -/
def appendAll? (writer : BitWriter) : List BitField → Except Fault (List (Nat × Nat) × BitWriter)
  | [] => .ok ([], writer)
  | field :: fields => do
      let (appended, next) ← writer.append? field.value field.length
      let (answers, last) ← next.appendAll? fields
      pure ((appended, next.written) :: answers, last)

/-- A field of at most 64 bits is appended, and counted. -/
theorem append?_eq (writer : BitWriter) (value : UInt64) (hlength : length ≤ 64) :
    writer.append? value length = .ok (length, writer.push value length hlength) ∧
      (writer.push value length hlength).written = writer.written + length := by
  constructor
  · rw [append?, push?, dif_pos hlength]
    rfl
  · unfold push
    by_cases hzero : length = 0
    · rw [dif_pos hzero, hzero, Nat.add_zero]
    · rw [dif_neg hzero]
      split
      case isTrue hroom => rfl
      case isFalse hfull => rfl

/-- Fields go above the bits written before, the first of them lowest. -/
theorem appendAll?_value (h : writer.Tidy) {fields : List BitField}
    (hlengths : ∀ field ∈ fields, field.length ≤ 64) :
    ∃ last, writer.appendAll? fields =
        .ok (fields.mapIdx fun index field =>
          (field.length, writer.written + totalLength (fields.take (index + 1))), last) ∧
      last.Tidy ∧ last.bitCount = writer.bitCount + totalLength fields ∧
      last.written = writer.written + totalLength fields ∧
      last.value = writer.value + 2 ^ writer.bitCount * concatenation fields := by
  induction fields generalizing writer with
  | nil => exact ⟨writer, rfl, h, rfl, rfl, by simp [concatenation_nil]⟩
  | cons field fields ih =>
      have hlength := hlengths field List.mem_cons_self
      obtain ⟨happend, hwritten⟩ := append?_eq writer field.value hlength
      obtain ⟨htidy, hcount, hvalue⟩ := push_value h field.value hlength
      obtain ⟨last, hrun, htidy', hcount', hwritten', hvalue'⟩ :=
        ih htidy fun other hother => hlengths other (List.mem_cons_of_mem _ hother)
      refine ⟨last, ?_, htidy', ?_, ?_, ?_⟩
      · simp only [appendAll?, happend, hrun, bind, Except.bind, pure, Except.pure, hwritten,
          List.mapIdx_cons, List.take_succ_cons, List.take_zero, BitField.totalLength_cons,
          BitField.totalLength_nil, Nat.add_zero, Nat.add_assoc]
      · rw [hcount', hcount, BitField.totalLength_cons, Nat.add_assoc]
      · rw [hwritten', hwritten, BitField.totalLength_cons, Nat.add_assoc]
      · rw [hvalue', hvalue, hcount, concatenation_cons, pow_add, BitField.digits]
        ring

end BitWriter

/-- Byte strings of one length are equal if they stand for the same number. -/
theorem eq_of_ofLittleEndian {bytes others : Bytes} (hlength : bytes.length = others.length)
    (hvalue : ofLittleEndian bytes = ofLittleEndian others) : bytes = others := by
  rw [← littleEndian_ofLittleEndian bytes, hvalue, hlength, littleEndian_ofLittleEndian]

/-- Fields of at most 64 bits each are appended to a buffer as the bytes of the sum of their lowest
bits, each field moved past those before it. The buffer keeps what it held and gains as many bytes
as the fields have bits, rounded up; the bits that fill up the last byte are zero. Each field is
answered with its length and the total so far, the whole stream with its number of bytes, and no
shift on the way is by 64 or more. -/
theorem appendAll?_concatenates (buffer : Bytes) (fields : List BitField)
    (hlengths : ∀ field ∈ fields, field.length ≤ 64) :
    ∃ last, (BitWriter.onto buffer).appendAll? fields =
        .ok (fields.mapIdx fun index field =>
          (field.length, totalLength (fields.take (index + 1))), last) ∧
      last.finish =
        buffer ++ littleEndian ((totalLength fields + 7) / 8) (concatenation fields) ∧
      concatenation fields < 2 ^ totalLength fields ∧
      last.byteCount = (totalLength fields + 7) / 8 ∧
      ∀ (writer : BitWriter) (value : UInt64) (length : Nat) (hlength : length ≤ 64),
        writer.pushChecked value length hlength = some (writer.push value length hlength) := by
  obtain ⟨last, hrun, htidy, hcount, hwritten, hvalue⟩ :=
    BitWriter.appendAll?_value (BitWriter.onto_tidy buffer) hlengths
  obtain ⟨hfinish, hlength⟩ := BitWriter.finish_value htidy
  have hstart : (BitWriter.onto buffer).written = 0 := rfl
  rw [BitWriter.onto_bitCount] at hcount hvalue
  rw [BitWriter.onto_value] at hvalue
  rw [hstart, Nat.zero_add] at hwritten
  simp only [hstart, Nat.zero_add] at hrun
  have hbytes : (8 * buffer.length + totalLength fields + 7) / 8 =
      buffer.length + (totalLength fields + 7) / 8 := by omega
  have hfits : concatenation fields < 256 ^ ((totalLength fields + 7) / 8) := by
    rw [pow_256]
    exact (concatenation_lt fields).trans_le (Nat.pow_le_pow_right (by omega) (by omega))
  refine ⟨last, hrun, ?_, concatenation_lt fields, ?_, fun writer value length hlength =>
    BitWriter.pushChecked_eq writer value hlength⟩
  · apply eq_of_ofLittleEndian
    · rw [hlength, hcount, hbytes, List.length_append, length_littleEndian]
    · rw [hfinish, hvalue, ofLittleEndian_append, ofLittleEndian_littleEndian,
        Nat.mod_eq_of_lt hfits, pow_256]
  · rw [BitWriter.byteCount, hwritten]

/-- A field with bits above its length, one that straddles a word, an empty one, and one that leaves
a bit of the last byte unused. -/
def straddlingFields : List BitField := [⟨0xFF, 3⟩, ⟨0xFFFFFFFFFFFFFFFF, 64⟩, ⟨9, 0⟩, ⟨0x15, 4⟩]

/-- Four fields of 71 bits take nine bytes behind those of the buffer. -/
theorem appendAll?_concatenates_straddling :
    (∀ field ∈ straddlingFields, field.length ≤ 64) ∧
      ∃ last, (BitWriter.onto [1, 2]).appendAll? straddlingFields =
          .ok ([(3, 3), (64, 67), (0, 67), (4, 71)], last) ∧
        last.finish = [1, 2, 255, 255, 255, 255, 255, 255, 255, 255, 47] ∧
        last.byteCount = 9 := by
  have hlengths : ∀ field ∈ straddlingFields, field.length ≤ 64 := by decide
  obtain ⟨last, hrun, hfinish, -, hcount, -⟩ :=
    appendAll?_concatenates [1, 2] straddlingFields hlengths
  have hbytes : littleEndian ((totalLength straddlingFields + 7) / 8)
      (concatenation straddlingFields) = [255, 255, 255, 255, 255, 255, 255, 255, 47] := by
    decide +kernel
  rw [hbytes] at hfinish
  exact ⟨hlengths, last, hrun, hfinish, hcount⟩

end CompactAdjacency
