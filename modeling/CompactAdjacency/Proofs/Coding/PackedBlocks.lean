import Mathlib
import CompactAdjacency.Coding.Block
import CompactAdjacency.Proofs.Coding.BitStream

/-!
# Packed blocks read back

`unpack_pack` is the round trip of one block: what was packed with a width that holds every value is
unpacked to the same values, whatever bytes follow. `exists_unpack` says when untrusted bytes unpack
at all, and to how many values. A list is cut into full blocks and a tail; `fullBlocks_append` and
`tail_append` are the equations that proofs about whole records follow.
-/

namespace CompactAdjacency.Block

/-! ## Widths -/

/-- A word fits into the number of its binary digits. -/
theorem toNat_lt_two_pow_bitLength (word : UInt64) : word.toNat < 2 ^ bitLength word := by
  unfold bitLength
  split
  case isTrue hzero =>
    subst hzero
    simp
  case isFalse hnonzero => exact Nat.lt_log2_self

/-- The union of a list has every bit of its values, and of what it starts from. -/
theorem le_foldl_or (start : UInt64) (values : List UInt64) :
    start.toNat ≤ (values.foldl (· ||| ·) start).toNat ∧
      ∀ value ∈ values, value.toNat ≤ (values.foldl (· ||| ·) start).toNat := by
  induction values generalizing start with
  | nil => simp
  | cons value values ih =>
      obtain ⟨hstart, hvalues⟩ := ih (start ||| value)
      rw [UInt64.toNat_or] at hstart
      refine ⟨le_trans Nat.left_le_or hstart, ?_⟩
      rintro other hother
      rcases List.mem_cons.mp hother with rfl | hother
      · exact le_trans Nat.right_le_or hstart
      · exact hvalues other hother

/-- Every value of a list fits into the width that the list needs. -/
theorem toNat_lt_two_pow_bitsNeeded {values : List UInt64} {value : UInt64}
    (hvalue : value ∈ values) : value.toNat < 2 ^ bitsNeeded values :=
  lt_of_le_of_lt ((le_foldl_or 0 values).2 value hvalue) (toNat_lt_two_pow_bitLength _)

theorem packedLength_eq (width : Nat) : packedLength width = 8 * width := by
  unfold packedLength blockSize
  omega

/-! ## One block -/

/-- A packed list stands for its values as digits, in as many bytes as their bits need. -/
theorem pack_value {width : Nat} (hwidth : width ≤ 64) (values : List UInt64) :
    ofLittleEndian (pack width hwidth values) =
        Nat.ofDigits (2 ^ width) (values.map fun value => value.toNat % 2 ^ width) ∧
      (pack width hwidth values).length = (width * values.length + 7) / 8 := by
  obtain ⟨htidy, hcount, hvalue⟩ :=
    BitWriter.foldl_push_value (BitWriter.onto_tidy []) hwidth values
  obtain ⟨hfinish, hlength⟩ := BitWriter.finish_value htidy
  refine ⟨?_, ?_⟩
  · simpa [pack, hvalue, ofLittleEndian] using hfinish
  · simpa [pack, hcount] using hlength

theorem length_pack {width : Nat} (hwidth : width ≤ 64) {values : List UInt64}
    (hvalues : values.length = blockSize) :
    (pack width hwidth values).length = packedLength width := by
  rw [(pack_value hwidth values).2, hvalues, packedLength_eq, blockSize]
  omega

theorem readValues_succ {width : Nat} (hwidth : width ≤ 64) (count : Nat) (reader : BitReader) :
    readValues width hwidth (count + 1) reader =
      (reader.next width hwidth).1 ::
        readValues width hwidth count (reader.next width hwidth).2 := rfl

@[simp] theorem length_readValues {width : Nat} (hwidth : width ≤ 64) (count : Nat)
    (reader : BitReader) : (readValues width hwidth count reader).length = count := by
  induction count generalizing reader with
  | zero => rfl
  | succ count ih => simp [readValues_succ, ih]

/-- Reading as many values as a number has digits gives the digits, the lowest first. -/
theorem readValues_eq {width : Nat} (hwidth : width ≤ 64) {values : List UInt64}
    (hfit : ∀ value ∈ values, value.toNat < 2 ^ width) {reader : BitReader} (h : reader.Tidy)
    (hvalue : reader.value = Nat.ofDigits (2 ^ width) (values.map UInt64.toNat)) :
    readValues width hwidth values.length reader = values := by
  -- the invariant is that what is left of the number has the values left as its digits
  induction values generalizing reader with
  | nil => rfl
  | cons value values ih =>
      obtain ⟨hfirst, htidy, hrest⟩ := BitReader.next_value h hwidth
      have hlt := hfit value (by simp)
      rw [hvalue, List.map_cons, Nat.ofDigits_cons] at hfirst hrest
      rw [Nat.add_mul_mod_self_left, Nat.mod_eq_of_lt hlt] at hfirst
      rw [Nat.add_mul_div_left _ _ (Nat.two_pow_pos _), Nat.div_eq_of_lt hlt, Nat.zero_add] at hrest
      rw [List.length_cons, readValues_succ]
      congr 1
      · exact UInt64.toNat_inj.mp hfirst
      · exact ih (fun other hother => hfit other (by simp [hother])) htidy hrest

/-- What unpacking does with a width that a word has. -/
theorem unpack_of_le {width : Nat} (hwidth : width ≤ 64) (bytes : Bytes) :
    unpack bytes width =
      if width = 0 then .ok (List.replicate blockSize 0)
      else
        match cut? (packedLength width) bytes with
        | none => .error .outOfBounds
        | some (packed, _) =>
            .ok (readValues width hwidth blockSize (BitReader.ofBytes packed)) :=
  dif_pos hwidth

/-- A block that was packed with a width that holds it is unpacked to itself, whatever follows. -/
theorem unpack_pack {width : Nat} (hwidth : width ≤ 64) {values : List UInt64}
    (hvalues : values.length = blockSize) (hfit : ∀ value ∈ values, value.toNat < 2 ^ width)
    (rest : Bytes) : unpack (pack width hwidth values ++ rest) width = .ok values := by
  have hlength := length_pack hwidth hvalues
  rw [unpack_of_le hwidth]
  split
  case isTrue hzero =>
    -- No bits are written, and no value is larger than zero.
    subst hzero
    have hzeros : ∀ value ∈ values, value = 0 := by
      intro value hvalue
      have := hfit value hvalue
      exact UInt64.toNat_inj.mp (by simpa using this)
    rw [List.eq_replicate_of_mem hzeros, hvalues]
  case isFalse hpos =>
    have hcut : cut? (packedLength width) (pack width hwidth values ++ rest) =
        some (pack width hwidth values, rest) := by
      rw [cut?_eq, if_pos (by simp [hlength]), ← hlength, List.take_left, List.drop_left]
    have hmod : (values.map fun value => value.toNat % 2 ^ width) = values.map UInt64.toNat :=
      List.map_congr_left fun value hvalue => Nat.mod_eq_of_lt (hfit value hvalue)
    have hread := readValues_eq hwidth hfit
      (BitReader.ofBytes_tidy (pack width hwidth values))
      (by rw [BitReader.ofBytes_value, (pack_value hwidth values).1, hmod])
    rw [hvalues] at hread
    simp only [hcut, hread]

/-- Bytes that are long enough for a width unpack to a full block. -/
theorem exists_unpack {bytes : Bytes} {width : Nat} (hwidth : width ≤ 64)
    (hbytes : packedLength width ≤ bytes.length) :
    ∃ block, block.length = blockSize ∧ unpack bytes width = .ok block := by
  rw [unpack_of_le hwidth]
  split
  case isTrue hzero => exact ⟨_, List.length_replicate, rfl⟩
  case isFalse hpos =>
    rw [cut?_eq, if_pos hbytes]
    exact ⟨_, length_readValues _ _ _, rfl⟩

/-- What unpacks is a full block of a width that a word has, and there are enough bytes for it. -/
theorem unpack_inversion {bytes : Bytes} {width : Nat} {block : List UInt64}
    (h : unpack bytes width = .ok block) :
    width ≤ 64 ∧ packedLength width ≤ bytes.length ∧ block.length = blockSize := by
  unfold unpack at h
  split at h
  case isFalse hwide => simp at h
  case isTrue hwidth =>
    refine ⟨hwidth, ?_⟩
    split at h
    case isTrue hzero =>
      obtain rfl := Except.ok.inj h
      exact ⟨by rw [hzero, packedLength_eq]; omega, List.length_replicate⟩
    case isFalse hpos =>
      rw [cut?_eq] at h
      split at h
      case h_1 hnone => simp at h
      case h_2 packed rest hcut =>
        obtain rfl := Except.ok.inj h
        refine ⟨?_, length_readValues _ _ _⟩
        by_contra hshort
        simp [hshort] at hcut

/-! ## Whole lists -/

theorem fullBlocks_of_lt {values : List UInt64} (h : values.length < blockSize) :
    fullBlocks values = [] := by
  simp [fullBlocks, Nat.div_eq_of_lt h]

theorem tail_of_lt {values : List UInt64} (h : values.length < blockSize) :
    tail values = values := by
  simp [tail, Nat.div_eq_of_lt h]

/-- The number of full blocks grows by one with each block in front. -/
theorem div_blockSize_append {block : List UInt64} (hblock : block.length = blockSize)
    (values : List UInt64) :
    (block ++ values).length / blockSize = values.length / blockSize + 1 := by
  rw [List.length_append, hblock, Nat.add_comm, Nat.add_div_right _ (by decide)]

theorem fullBlocks_append {block : List UInt64} (hblock : block.length = blockSize)
    (values : List UInt64) : fullBlocks (block ++ values) = block :: fullBlocks values := by
  rw [fullBlocks, div_blockSize_append hblock, List.range_succ_eq_map, List.map_cons,
    List.map_map, fullBlocks]
  congr 1
  · rw [Nat.zero_mul, List.drop_zero, ← hblock, List.take_left]
  · apply List.map_congr_left
    intro index _
    simp only [Function.comp_apply]
    rw [show (index + 1) * blockSize = block.length + index * blockSize by
      rw [hblock, Nat.add_mul, Nat.one_mul, Nat.add_comm], List.drop_length_add_append]

theorem tail_append {block : List UInt64} (hblock : block.length = blockSize)
    (values : List UInt64) : tail (block ++ values) = tail values := by
  rw [tail, div_blockSize_append hblock, tail, Nat.add_mul, Nat.one_mul, Nat.add_comm, ← hblock,
    List.drop_length_add_append]

/-- A list is shorter than a block or begins with one. -/
theorem lt_or_exists_block (values : List UInt64) :
    values.length < blockSize ∨
      ∃ block rest, block.length = blockSize ∧ values = block ++ rest := by
  rcases Nat.lt_or_ge values.length blockSize with hshort | hlong
  · exact Or.inl hshort
  · refine Or.inr ⟨values.take blockSize, values.drop blockSize, ?_, ?_⟩
    · rw [List.length_take, Nat.min_eq_left hlong]
    · rw [List.take_append_drop]

/-- Blocks and tail of a list make it up. -/
theorem flatten_fullBlocks_append_tail (values : List UInt64) :
    (fullBlocks values).flatten ++ tail values = values := by
  -- a whole block comes off the front, so that the induction is on the length
  induction hn : values.length using Nat.strongRecOn generalizing values with
  | ind n ih =>
      subst hn
      rcases lt_or_exists_block values with hshort | ⟨block, rest, hblock, rfl⟩
      · rw [fullBlocks_of_lt hshort, tail_of_lt hshort]
        rfl
      · have hlt : rest.length < (block ++ rest).length := by
          rw [List.length_append, hblock]
          exact Nat.lt_add_of_pos_left (by decide)
        rw [fullBlocks_append hblock, tail_append hblock, List.flatten_cons, List.append_assoc,
          ih _ hlt rest rfl]

theorem length_of_mem_fullBlocks {values block : List UInt64} (h : block ∈ fullBlocks values) :
    block.length = blockSize := by
  obtain ⟨index, hindex, rfl⟩ := List.mem_map.mp h
  have hlt := List.mem_range.mp hindex
  have hle : (index + 1) * blockSize ≤ values.length :=
    le_trans (Nat.mul_le_mul_right _ hlt) (Nat.div_mul_le_self _ _)
  rw [Nat.add_mul, Nat.one_mul] at hle
  rw [List.length_take, List.length_drop]
  omega

@[simp] theorem length_fullBlocks (values : List UInt64) :
    (fullBlocks values).length = values.length / blockSize := by
  simp [fullBlocks]

@[simp] theorem length_tail (values : List UInt64) :
    (tail values).length = values.length % blockSize := by
  rw [tail, List.length_drop, Nat.mod_eq_sub_div_mul]

/-! ## Headers -/

/-- The width that a block needs survives being written as one byte. -/
theorem toNat_header (values : List UInt64) :
    (bitsNeeded values).toUInt8.toNat = bitsNeeded values := by
  have := bitsNeeded_le values
  simp [Nat.toUInt8, UInt8.toNat_ofNat', Nat.mod_eq_of_lt (show bitsNeeded values < 256 by omega)]

/-- A header without a wide width is no reason to stop. -/
theorem packedBlocksLength?_eq {header : Bytes} (h : ∀ width ∈ header, width.toNat ≤ 64) :
    packedBlocksLength? header = .ok (packedBlocksLength header) := by
  have hfind : header.find? (fun width => width.toNat > maxBitWidth) = none := by
    simpa [List.find?_eq_none, maxBitWidth] using h
  simp only [packedBlocksLength?, hfind]

theorem length_le_packedBlocksLength (header : Bytes) :
    header.length ≤ packedBlocksLength header := by
  induction header with
  | nil => simp
  | cons width header ih =>
      rw [packedBlocksLength, List.length_cons]
      omega

/-- Blocks packed one after the other, each with the least width that holds it. -/
def body (blocks : List (List UInt64)) : Bytes :=
  blocks.flatMap fun block => pack (bitsNeeded block) (bitsNeeded_le block) block

theorem body_cons (block : List UInt64) (blocks : List (List UInt64)) :
    body (block :: blocks) = pack (bitsNeeded block) (bitsNeeded_le block) block ++ body blocks :=
  List.flatMap_cons

theorem packBlocks_eq (values : List UInt64) :
    packBlocks values = header (fullBlocks values) ++ body (fullBlocks values) := rfl

/-- A header announces the length of its blocks. -/
theorem packedBlocksLength_header {blocks : List (List UInt64)}
    (hblocks : ∀ block ∈ blocks, block.length = blockSize) :
    packedBlocksLength (header blocks) = blocks.length + (body blocks).length := by
  induction blocks with
  | nil => rfl
  | cons block blocks ih =>
      have hrest := ih fun other hother => hblocks other (by simp [hother])
      rw [header, List.map_cons, packedBlocksLength, ← header, hrest, toNat_header, body_cons,
        List.length_append, length_pack _ (hblocks block (by simp)),
        List.length_cons]
      ring

end CompactAdjacency.Block
