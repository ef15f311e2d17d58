import Mathlib
import CompactAdjacency.Proofs.Coding.Fields
import CompactAdjacency.Proofs.Outcomes

/-!
# Slices of a bit string

The bits of a byte string are numbered from its first byte on, and from the lowest bit of each byte
on; past the end they are zero. A reader that is asked for fields of any widths answers each of them
with the number that its bits form, and how a range of bits is cut into fields makes no difference
to the bits that are read: `readAll?_reads_slices`. `BufferReader` is the same reader with the whole
buffer and a position in it, whose every slice and every shift is checked. It never fails.
-/

namespace CompactAdjacency

/-! ## Bits -/

/-- The bit of a byte string at a position, zero past its end. -/
def bitAt (bytes : Bytes) (position : Nat) : Bool :=
  (bytes.getD (position / 8) 0).toNat.testBit (position % 8)

/-- The number that the `length` bits from `start` on form, the first of them lowest. -/
def bitSlice (bytes : Bytes) (start length : Nat) : Nat :=
  ∑ index ∈ Finset.range length, (bitAt bytes (start + index)).toNat * 2 ^ index

/-- The bits of a byte string are those of the number it denotes. -/
theorem testBit_ofLittleEndian (bytes : Bytes) (position : Nat) :
    (ofLittleEndian bytes).testBit position = bitAt bytes position := by
  induction bytes generalizing position with
  | nil => simp [ofLittleEndian, bitAt]
  | cons byte bytes ih =>
      have hbyte : byte.toNat < 2 ^ 8 := byte.toNat_lt
      rw [ofLittleEndian, Nat.add_comm, show (256 : Nat) = 2 ^ 8 from rfl,
        Nat.testBit_two_pow_mul_add _ hbyte]
      split
      case isTrue hfirst => simp [bitAt, Nat.div_eq_of_lt hfirst, Nat.mod_eq_of_lt hfirst]
      case isFalse hlater =>
        obtain ⟨later, rfl⟩ := Nat.exists_eq_add_of_le (Nat.not_lt.mp hlater)
        rw [Nat.add_sub_cancel_left, ih, bitAt, bitAt, Nat.add_div_left _ (by decide),
          Nat.add_mod_left, List.getD_cons_succ]

/-- A slice is a remainder of a quotient of the number that a byte string denotes. -/
theorem bitSlice_eq (bytes : Bytes) (start length : Nat) :
    bitSlice bytes start length = ofLittleEndian bytes / 2 ^ start % 2 ^ length := by
  induction length with
  | zero => simp [bitSlice, Nat.mod_one]
  | succ length ih =>
      rw [bitSlice, Finset.sum_range_succ, ← bitSlice, ih, ← testBit_ofLittleEndian,
        Nat.toNat_testBit, pow_succ, Nat.mod_mul, pow_add, Nat.div_div_eq_div_mul,
        Nat.mul_comm (2 ^ length) (_ % 2)]

theorem bitSlice_lt (bytes : Bytes) (start length : Nat) :
    bitSlice bytes start length < 2 ^ length := by
  rw [bitSlice_eq]
  exact Nat.mod_lt _ (Nat.two_pow_pos _)

/-- A slice of at most 64 bits is a word. -/
theorem toNat_bitSlice (bytes : Bytes) (start : Nat) {length : Nat} (hlength : length ≤ 64) :
    (bitSlice bytes start length).toUInt64.toNat = bitSlice bytes start length := by
  have hword : bitSlice bytes start length < UInt64.size :=
    (bitSlice_lt bytes start length).trans_le (Nat.pow_le_pow_right (by decide) hlength)
  rw [Nat.toUInt64, UInt64.toNat_ofNat', Nat.mod_eq_of_lt hword]

/-- A range of bits is its front with the rest above it. -/
theorem bitSlice_add (bytes : Bytes) (start front rest : Nat) :
    bitSlice bytes start (front + rest) =
      bitSlice bytes start front + 2 ^ front * bitSlice bytes (start + front) rest := by
  rw [bitSlice_eq, bitSlice_eq, bitSlice_eq, pow_add, Nat.mod_mul, Nat.div_div_eq_div_mul,
    ← pow_add]

/-! ## Cuts -/

namespace BitField

/-- The fields of several lengths that follow each other in a byte string. -/
def cuts (bytes : Bytes) (start : Nat) : List Nat → List BitField
  | [] => []
  | length :: lengths =>
      ⟨(bitSlice bytes start length).toUInt64, length⟩ :: cuts bytes (start + length) lengths

/-- A field of at most 64 bits has its slice as digits. -/
theorem digits_cut (bytes : Bytes) (start : Nat) {length : Nat} (hlength : length ≤ 64) :
    digits ⟨(bitSlice bytes start length).toUInt64, length⟩ = bitSlice bytes start length := by
  rw [digits, toNat_bitSlice bytes start hlength, Nat.mod_eq_of_lt (bitSlice_lt bytes start length)]

/-- However a range of bits is cut, the fields make up its slice. -/
theorem concatenation_cuts (bytes : Bytes) {lengths : List Nat}
    (hlengths : ∀ length ∈ lengths, length ≤ 64) (start : Nat) :
    concatenation (cuts bytes start lengths) = bitSlice bytes start lengths.sum := by
  induction lengths generalizing start with
  | nil => rfl
  | cons length lengths ih =>
      rw [cuts, concatenation_cons, digits_cut bytes start (hlengths length List.mem_cons_self),
        ih fun other hother => hlengths other (List.mem_cons_of_mem _ hother), List.sum_cons,
        bitSlice_add]

theorem take_cuts (bytes : Bytes) (lengths : List Nat) (count start : Nat) :
    (cuts bytes start lengths).take count = cuts bytes start (lengths.take count) := by
  induction lengths generalizing count start with
  | nil => simp [cuts]
  | cons length lengths ih =>
      cases count with
      | zero => rfl
      | succ count => rw [cuts, List.take_succ_cons, List.take_succ_cons, cuts, ih]

theorem drop_cuts (bytes : Bytes) (lengths : List Nat) (count start : Nat) :
    (cuts bytes start lengths).drop count =
      cuts bytes (start + (lengths.take count).sum) (lengths.drop count) := by
  induction lengths generalizing count start with
  | nil => simp [cuts]
  | cons length lengths ih =>
      cases count with
      | zero => rfl
      | succ count =>
          rw [cuts, List.drop_succ_cons, List.drop_succ_cons, List.take_succ_cons, List.sum_cons,
            ih, Nat.add_assoc]

end BitField

open BitField (concatenation cuts concatenation_cuts take_cuts drop_cuts)

/-! ## Sequences of reads -/

/-- What the read of a field answers: its value, and how many bits have been read and how many bytes
touched after it. -/
structure BitRead where
  value : UInt64
  read : Nat
  bytes : Nat
  deriving DecidableEq, Repr

namespace BitRead

/-- The fields of several lengths that were read. -/
def fields (answers : List BitRead) (lengths : List Nat) : List BitField :=
  List.zipWith (fun answer length => ⟨answer.value, length⟩) answers lengths

/-- The answers that the bits of a byte string ask for, from a start on. -/
def expected (bytes : Bytes) (start : Nat) : List Nat → List BitRead
  | [] => []
  | length :: lengths =>
      ⟨(bitSlice bytes start length).toUInt64, start + length, (start + length + 7) / 8⟩ ::
        expected bytes (start + length) lengths

theorem fields_expected (bytes : Bytes) (lengths : List Nat) (start : Nat) :
    fields (expected bytes start lengths) lengths = cuts bytes start lengths := by
  induction lengths generalizing start with
  | nil => rfl
  | cons length lengths ih =>
      rw [expected, fields, List.zipWith_cons_cons, ← fields, ih, cuts]

/-- The answers one by one, each with the sum of the lengths before it. -/
theorem map_expected (bytes : Bytes) {lengths : List Nat}
    (hlengths : ∀ length ∈ lengths, length ≤ 64) (start : Nat) :
    ((expected bytes start lengths).map fun answer =>
      (answer.value.toNat, answer.read, answer.bytes)) =
        lengths.mapIdx fun index length =>
          (bitSlice bytes (start + (lengths.take index).sum) length,
            start + (lengths.take index).sum + length,
            (start + (lengths.take index).sum + length + 7) / 8) := by
  induction lengths generalizing start with
  | nil => rfl
  | cons length lengths ih =>
      have hword : (bitSlice bytes start length).toUInt64.toNat = bitSlice bytes start length :=
        toNat_bitSlice bytes start (hlengths length List.mem_cons_self)
      rw [expected, List.map_cons, List.mapIdx_cons, hword,
        ih fun other hother => hlengths other (List.mem_cons_of_mem _ hother)]
      simp only [List.take_zero, List.sum_nil, Nat.add_zero, List.take_succ_cons, List.sum_cons,
        Nat.add_assoc]

end BitRead

namespace BitReader

variable {reader : BitReader} {length : Nat}

/-- Reads several fields one after another. -/
def readAll? (reader : BitReader) : List Nat → Except Fault (List BitRead × BitReader)
  | [] => .ok ([], reader)
  | length :: lengths => do
      let (value, next) ← reader.next? length
      let (answers, last) ← next.readAll? lengths
      pure (⟨value, next.read, next.byteCount⟩ :: answers, last)

/-- Every read is counted. -/
theorem next_read (reader : BitReader) (hlength : length ≤ 64) :
    (reader.next length hlength).2.read = reader.read + length := by
  unfold next
  by_cases hzero : length = 0
  · rw [dif_pos hzero, hzero, Nat.add_zero]
  · rw [dif_neg hzero]
    split
    case isTrue hhand => rfl
    case isFalse hload => rfl

/-- The reader is in the middle of a byte string: what it has not read yet is what follows the bits
that it counts. -/
structure Within (reader : BitReader) (bytes : Bytes) : Prop where
  tidy : reader.Tidy
  value : reader.value = ofLittleEndian bytes / 2 ^ reader.read

theorem ofBytes_within (bytes : Bytes) : (ofBytes bytes).Within bytes :=
  ⟨ofBytes_tidy bytes, by rw [ofBytes_value, ofBytes, pow_zero, Nat.div_one]⟩

/-- One read more answers the next slice. -/
theorem Within.next {bytes : Bytes} (h : reader.Within bytes) (hlength : length ≤ 64) :
    (reader.next length hlength).1 = (bitSlice bytes reader.read length).toUInt64 ∧
      (reader.next length hlength).2.Within bytes := by
  obtain ⟨hfield, htidy, hrest⟩ := next_value h.tidy hlength
  rw [h.value] at hfield hrest
  refine ⟨?_, htidy, ?_⟩
  · rw [bitSlice_eq, ← hfield, Nat.toUInt64, UInt64.ofNat_toNat]
  · rw [hrest, next_read, pow_add, Nat.div_div_eq_div_mul]

/-- Reads of at most 64 bits each answer the slices that follow each other. -/
theorem Within.readAll? {bytes : Bytes} (h : reader.Within bytes) {lengths : List Nat}
    (hlengths : ∀ length ∈ lengths, length ≤ 64) :
    ∃ last, reader.readAll? lengths = .ok (BitRead.expected bytes reader.read lengths, last) := by
  induction lengths generalizing reader with
  | nil => exact ⟨reader, rfl⟩
  | cons length lengths ih =>
      have hlength := hlengths length List.mem_cons_self
      obtain ⟨hvalue, hnext⟩ := h.next hlength
      obtain ⟨last, hrun⟩ :=
        ih hnext fun other hother => hlengths other (List.mem_cons_of_mem _ hother)
      refine ⟨last, ?_⟩
      simp only [BitReader.readAll?, next?, dif_pos hlength, bind, Except.bind, pure, Except.pure,
        hrun, hvalue, next_read, byteCount, BitRead.expected]

end BitReader

/-! ## Slices and shifts that are checked -/

/-- The `count` bytes from `start` on, `none` if they are not all there. -/
def slice? (bytes : Bytes) (start count : Nat) : Option Bytes :=
  if start + count ≤ bytes.length then some ((bytes.drop start).take count) else none

/-- The word without its `amount` lowest bits, its shift checked. All 64 bits leave nothing, which
no shift can do. -/
def dropBits? (word : UInt64) (amount : Nat) : Option UInt64 :=
  if amount = 64 then some 0 else shiftDown? word amount

/-- No more bits are dropped than a word has. -/
theorem dropBits?_eq (word : UInt64) {amount : Nat} (hamount : amount ≤ 64) :
    dropBits? word amount =
      some (if whole : amount = 64 then 0
        else shiftDown word amount (Nat.lt_of_le_of_ne hamount whole)) := by
  unfold dropBits?
  split
  case isTrue hwhole => rfl
  case isFalse hpart => exact dif_pos (by omega)

/-- A bit stream being read that keeps the whole buffer and the position in it of the byte that is
loaded next. -/
structure BufferReader where
  buffer : Bytes
  position : Nat
  pending : UInt64
  filled : Nat
  read : Nat
  deriving DecidableEq, Repr

namespace BufferReader

/-- A reader at the first bit of a buffer. -/
def ofBytes (buffer : Bytes) : BufferReader := ⟨buffer, 0, 0, 0, 0⟩

/-- The number of bytes touched by what was read. -/
def byteCount (reader : BufferReader) : Nat := (reader.read + 7) / 8

/-- Loads up to eight bytes: the word, the number of bits in it, and the reader behind them. Nothing
is loaded past the end of the buffer, which yields 64 zero bits. -/
def load? (reader : BufferReader) : Option (UInt64 × Nat × BufferReader) := do
  let available := min (reader.buffer.length - reader.position) 8
  let loaded ← slice? reader.buffer reader.position available
  pure ((ofLittleEndian loaded).toUInt64, if available = 0 then 64 else 8 * available,
    { reader with position := reader.position + available })

/-- Reads the next `length` bits as a number, with every slice of the buffer and every shift
checked. -/
def next? (reader : BufferReader) (length : Nat) : Option (UInt64 × BufferReader) :=
  if length = 0 then some (0, reader)
  else if length ≤ reader.filled then do
    let value := reader.pending &&& (← lowMask? length)
    let left ← dropBits? reader.pending length
    pure (value,
      { reader with
        pending := left
        filled := reader.filled - length
        read := reader.read + length })
  else do
    let need := length - reader.filled
    let (word, bits, loaded) ← reader.load?
    let value := reader.pending ||| (← shiftUp? (word &&& (← lowMask? need)) reader.filled)
    let left ← dropBits? word need
    pure (value,
      { loaded with
        pending := left
        filled := bits - need
        read := reader.read + length })

/-- Reads several fields one after another. -/
def readAll? (reader : BufferReader) : List Nat → Option (List BitRead × BufferReader)
  | [] => some ([], reader)
  | length :: lengths => do
      let (value, next) ← reader.next? length
      let (answers, last) ← next.readAll? lengths
      pure (⟨value, next.read, next.byteCount⟩ :: answers, last)

/-- A reader with a buffer stands where a reader without it does: inside the buffer, with the same
bytes to come and the same bits in hand. -/
structure Follows (buffered : BufferReader) (reader : BitReader) : Prop where
  inside : buffered.position ≤ buffered.buffer.length
  input : buffered.buffer.drop buffered.position = reader.input
  pending : buffered.pending = reader.pending
  filled : buffered.filled = reader.filled
  read : buffered.read = reader.read

variable {buffered : BufferReader} {reader : BitReader} {length : Nat}

theorem ofBytes_follows (input : Bytes) : (ofBytes input).Follows (BitReader.ofBytes input) :=
  ⟨Nat.zero_le _, rfl, rfl, rfl, rfl⟩

/-- Loading never slices outside of the buffer. -/
theorem Follows.load? (h : buffered.Follows reader) :
    ∃ position, position ≤ buffered.buffer.length ∧
      buffered.buffer.drop position = reader.input.drop 8 ∧
      buffered.load? = some ((ofLittleEndian (reader.input.take 8)).toUInt64,
        BitReader.loadable reader.input, { buffered with position }) := by
  have hlength : buffered.buffer.length - buffered.position = reader.input.length := by
    rw [← h.input, List.length_drop]
  have hinside := h.inside
  have hslice : slice? buffered.buffer buffered.position (min reader.input.length 8) =
      some (reader.input.take 8) := by
    rw [slice?, if_pos (by omega), h.input, Nat.min_comm, ← List.take_take, List.take_length]
  have hloadable : (if min reader.input.length 8 = 0 then 64 else 8 * min reader.input.length 8) =
      BitReader.loadable reader.input := by
    unfold BitReader.loadable
    simp only [← List.length_eq_zero_iff]
    split <;> split <;> omega
  refine ⟨buffered.position + min reader.input.length 8, by omega, ?_, ?_⟩
  · rw [← List.drop_drop, h.input]
    rcases Nat.le_total reader.input.length 8 with hshort | hlong
    · rw [Nat.min_eq_left hshort, List.drop_length, List.drop_of_length_le hshort]
    · rw [Nat.min_eq_right hlong]
  · simp only [BufferReader.load?, hlength, hslice, hloadable, bind, Option.bind_some, pure]

/-- A read of at most 64 bits is answered alike, and no slice or shift on the way fails. -/
theorem Follows.next? (h : buffered.Follows reader) (hlength : length ≤ 64) :
    ∃ next, buffered.next? length = some ((reader.next length hlength).1, next) ∧
      next.Follows (reader.next length hlength).2 := by
  have hfilled := reader.filled_lt
  unfold BufferReader.next? BitReader.next
  by_cases hzero : length = 0
  · rw [if_pos hzero, dif_pos hzero]
    exact ⟨buffered, rfl, h⟩
  rw [if_neg hzero, dif_neg hzero, h.filled, h.pending]
  by_cases hhand : length ≤ reader.filled
  · simp only [if_pos hhand, dif_pos hhand, lowMask?_eq, dropBits?_eq _ hlength,
      dif_neg (show length ≠ 64 by omega), bind, Option.bind_some, pure]
    exact ⟨_, rfl, h.inside, h.input, rfl, rfl, by rw [h.read]⟩
  · obtain ⟨position, hinside, hdrop, hload⟩ := h.load?
    have hup (field : UInt64) : shiftUp? field reader.filled =
        some (shiftUp field reader.filled hfilled) := dif_pos hfilled
    simp only [if_neg hhand, dif_neg hhand, hload, lowMask?_eq, hup,
      dropBits?_eq _ (show length - reader.filled ≤ 64 by omega), bind, Option.bind_some, pure]
    exact ⟨_, rfl, hinside, hdrop, rfl, rfl, by rw [h.read]⟩

/-- Both readers answer a sequence of reads alike. -/
theorem Follows.readAll? (h : buffered.Follows reader) {lengths : List Nat}
    (hlengths : ∀ length ∈ lengths, length ≤ 64) :
    ∃ answers last lastBuffered, reader.readAll? lengths = .ok (answers, last) ∧
      buffered.readAll? lengths = some (answers, lastBuffered) := by
  induction lengths generalizing buffered reader with
  | nil => exact ⟨[], reader, buffered, rfl, rfl⟩
  | cons length lengths ih =>
      have hlength := hlengths length List.mem_cons_self
      obtain ⟨next, hnext, hfollows⟩ := h.next? hlength
      obtain ⟨answers, last, lastBuffered, hrun, hbuffered⟩ :=
        ih hfollows fun other hother => hlengths other (List.mem_cons_of_mem _ hother)
      refine ⟨⟨(reader.next length hlength).1, next.read, next.byteCount⟩ :: answers, last,
        lastBuffered, ?_, ?_⟩
      · simp only [BitReader.readAll?, BitReader.next?, dif_pos hlength, hrun, bind, Except.bind,
          pure, Except.pure, byteCount, BitReader.byteCount, hfollows.read]
      · simp only [BufferReader.readAll?, hnext, hbuffered, bind, Option.bind_some, pure]

end BufferReader

/-! ## The slices that are read -/

/-- Reads of at most 64 bits each, at whatever bits they begin and end: every one of them answers
the number that its bits form, which begin where the reads before it ended and are zero past the end
of the bytes, with the bits read so far and the bytes that they touch. However a range of bits is
cut into reads, the values read make up the same number. No slice of the buffer on the way is
outside of it, and no shift is by 64 or more. -/
theorem readAll?_reads_slices (bytes : Bytes) (lengths : List Nat)
    (hlengths : ∀ length ∈ lengths, length ≤ 64) :
    ∃ answers last lastBuffered,
      (BitReader.ofBytes bytes).readAll? lengths = .ok (answers, last) ∧
      (BufferReader.ofBytes bytes).readAll? lengths = some (answers, lastBuffered) ∧
      (answers.map fun answer => (answer.value.toNat, answer.read, answer.bytes)) =
        (lengths.mapIdx fun index length =>
          let start := (lengths.take index).sum
          (bitSlice bytes start length, start + length, (start + length + 7) / 8)) ∧
      ∀ first count,
        concatenation (((BitRead.fields answers lengths).drop first).take count) =
          bitSlice bytes (lengths.take first).sum ((lengths.drop first).take count).sum := by
  obtain ⟨answers, last, lastBuffered, hrun, hbuffered⟩ :=
    (BufferReader.ofBytes_follows bytes).readAll? hlengths
  obtain ⟨last', hrun'⟩ := (BitReader.ofBytes_within bytes).readAll? hlengths
  have hanswers : answers = BitRead.expected bytes 0 lengths :=
    (Prod.mk.inj (Except.ok.inj (hrun.symm.trans hrun'))).1
  refine ⟨answers, last, lastBuffered, hrun, hbuffered, ?_, ?_⟩
  · simpa only [hanswers, Nat.zero_add] using BitRead.map_expected bytes hlengths 0
  · intro first count
    have hwindow : ∀ length ∈ (lengths.drop first).take count, length ≤ 64 :=
      fun length hlength => hlengths length (List.mem_of_mem_drop (List.mem_of_mem_take hlength))
    rw [hanswers, BitRead.fields_expected, drop_cuts, take_cuts, concatenation_cuts bytes hwindow,
      Nat.zero_add]

/-- Three bytes, read across the end of a word that is shorter than the field, past the end, and
with an empty field between. -/
theorem readAll?_reads_slices_shortWord :
    (∀ length ∈ [3, 0, 17, 64, 5], length ≤ 64) ∧
      ∃ answers last lastBuffered,
        (BitReader.ofBytes [0xFF, 0x01, 0x80]).readAll? [3, 0, 17, 64, 5] = .ok (answers, last) ∧
        (BufferReader.ofBytes [0xFF, 0x01, 0x80]).readAll? [3, 0, 17, 64, 5] =
          some (answers, lastBuffered) ∧
        (answers.map fun answer => (answer.value.toNat, answer.read, answer.bytes)) =
          [(7, 3, 1), (0, 3, 1), (63, 20, 3), (8, 84, 11), (0, 89, 12)] := by
  have hlengths : ∀ length ∈ [3, 0, 17, 64, 5], length ≤ 64 := by decide
  obtain ⟨answers, last, lastBuffered, hrun, hbuffered, hanswers, -⟩ :=
    readAll?_reads_slices [0xFF, 0x01, 0x80] [3, 0, 17, 64, 5] hlengths
  refine ⟨hlengths, answers, last, lastBuffered, hrun, hbuffered, hanswers.trans ?_⟩
  decide +kernel

end CompactAdjacency
