import Mathlib
import CompactAdjacency.Coding.Block.Buffer
import CompactAdjacency.Proofs.Coding.Fields
import CompactAdjacency.Proofs.Coding.PackedBlocks

/-!
# Blocks packed and unpacked in place

What stands in a buffer does not show in what is appended to it: a writer behind other bytes does
what it does without them, `BitWriter.foldl_push_behind`. So a block is appended as the bytes that
it is packed as, `packOnto?_eq`, and unpacking these over any other block restores it,
`unpackInto_eq`. A list is packed onto a buffer block by block, and `foldlM_appendBlock?` is what
its loop keeps: the widths of the blocks packed so far stand where room was made for them, with the
room for the others behind them and then the blocks.
-/

namespace CompactAdjacency

/-! ## Writing behind other bytes -/

namespace BitWriter

/-- The writer with other bytes in front of its output. -/
def behind (front : Bytes) (writer : BitWriter) : BitWriter :=
  { writer with output := front ++ writer.output }

theorem onto_eq_behind (buffer : Bytes) : onto buffer = (onto []).behind buffer := by
  simp [onto, behind]

/-- A field is written without regard to the bytes in front. -/
theorem push_behind (front : Bytes) (writer : BitWriter) (value : UInt64) {length : Nat}
    (hlength : length ≤ 64) :
    (writer.behind front).push value length hlength =
      (writer.push value length hlength).behind front := by
  unfold push
  by_cases hzero : length = 0
  · rw [dif_pos hzero, dif_pos hzero]
  · rw [dif_neg hzero, dif_neg hzero]
    by_cases hroom : writer.filled + length < 64
    · have hroom' : (writer.behind front).filled + length < 64 := hroom
      rw [dif_pos hroom, dif_pos hroom']
      rfl
    · have hroom' : ¬ (writer.behind front).filled + length < 64 := hroom
      rw [dif_neg hroom, dif_neg hroom']
      simp only [behind, List.append_assoc]
      rfl

/-- So are several fields of one width. -/
theorem foldl_push_behind (front : Bytes) (writer : BitWriter) {width : Nat} (hwidth : width ≤ 64)
    (values : List UInt64) :
    values.foldl (fun writer value => writer.push value width hwidth) (writer.behind front) =
      (values.foldl (fun writer value => writer.push value width hwidth) writer).behind front := by
  induction values generalizing writer with
  | nil => rfl
  | cons value values ih => rw [List.foldl_cons, List.foldl_cons, push_behind, ih]

theorem finish_behind (front : Bytes) (writer : BitWriter) :
    (writer.behind front).finish = front ++ writer.finish :=
  List.append_assoc _ _ _

/-- Every bit of several fields is counted. -/
theorem foldl_push_written (writer : BitWriter) {width : Nat} (hwidth : width ≤ 64)
    (values : List UInt64) :
    (values.foldl (fun writer value => writer.push value width hwidth) writer).written =
      writer.written + width * values.length := by
  induction values generalizing writer with
  | nil => rfl
  | cons value values ih =>
      rw [List.foldl_cons, ih, (append?_eq writer value hwidth).2, List.length_cons]
      ring

end BitWriter

namespace Block

/-! ## The least width -/

theorem bitLength_le_iff {word : UInt64} {width : Nat} :
    bitLength word ≤ width ↔ word.toNat < 2 ^ width := by
  unfold bitLength
  split
  case isTrue hzero => simp [hzero]
  case isFalse hnonzero =>
    have hpos : word.toNat ≠ 0 := fun h => hnonzero (UInt64.toNat_inj.mp h)
    rw [Nat.succ_le_iff, Nat.log2_lt hpos]

/-- The union of values that fit into a width fits into it. -/
theorem foldl_or_lt {start : UInt64} {values : List UInt64} {width : Nat}
    (hstart : start.toNat < 2 ^ width) (hvalues : ∀ value ∈ values, value.toNat < 2 ^ width) :
    (values.foldl (· ||| ·) start).toNat < 2 ^ width := by
  induction values generalizing start with
  | nil => exact hstart
  | cons value values ih =>
      refine ih ?_ fun other hother => hvalues other (List.mem_cons_of_mem _ hother)
      rw [UInt64.toNat_or]
      exact Nat.or_lt_two_pow hstart (hvalues value List.mem_cons_self)

/-- A list needs the least width that every one of its values fits into. -/
theorem bitsNeeded_isLeast (values : List UInt64) :
    IsLeast {width | ∀ value ∈ values, value.toNat < 2 ^ width} (bitsNeeded values) := by
  refine ⟨fun value hvalue => toNat_lt_two_pow_bitsNeeded hvalue, fun width hwidth => ?_⟩
  exact bitLength_le_iff.mpr (foldl_or_lt (Nat.two_pow_pos width) hwidth)

/-! ## One block -/

/-- What packing does with a width that a word has. -/
theorem packOnto?_of_le {width : Nat} (hwidth : width ≤ 64) (buffer : Bytes)
    (values : List UInt64) :
    packOnto? buffer width values =
      if width = 0 then .ok (0, buffer)
      else
        let writer := values.foldl (fun writer value => writer.push value width hwidth)
          (BitWriter.onto buffer)
        .ok (writer.byteCount, writer.finish) :=
  dif_pos hwidth

/-- A buffer gains the bytes that the values are packed as. -/
theorem packOnto?_eq (buffer : Bytes) {width : Nat} (hwidth : width ≤ 64)
    (values : List UInt64) :
    packOnto? buffer width values =
      .ok ((pack width hwidth values).length, buffer ++ pack width hwidth values) := by
  have hlength := (pack_value hwidth values).2
  rw [packOnto?_of_le hwidth]
  split
  case isTrue hzero =>
    -- no bits are written, so that there are no bytes
    subst hzero
    have hempty : pack 0 hwidth values = [] := List.eq_nil_of_length_eq_zero (by omega)
    rw [hempty, List.append_nil, List.length_nil]
  case isFalse hpos =>
    have hcount : (values.foldl (fun writer value => writer.push value width hwidth)
        (BitWriter.onto buffer)).byteCount = (pack width hwidth values).length := by
      rw [hlength, BitWriter.byteCount, BitWriter.foldl_push_written]
      simp [BitWriter.onto]
    have hfinish : (values.foldl (fun writer value => writer.push value width hwidth)
        (BitWriter.onto buffer)).finish = buffer ++ pack width hwidth values := by
      rw [BitWriter.onto_eq_behind, BitWriter.foldl_push_behind, BitWriter.finish_behind, pack]
    simp only [hcount, hfinish]

theorem replaceValues_cons {width : Nat} (hwidth : width ≤ 64) (value : UInt64)
    (block : List UInt64) (reader : BitReader) :
    replaceValues width hwidth (value :: block) reader =
      (reader.next width hwidth).1 ::
        replaceValues width hwidth block (reader.next width hwidth).2 := rfl

/-- As many values are replaced as there are. -/
theorem replaceValues_eq {width : Nat} (hwidth : width ≤ 64) (block : List UInt64)
    (reader : BitReader) :
    replaceValues width hwidth block reader = readValues width hwidth block.length reader := by
  induction block generalizing reader with
  | nil => rfl
  | cons value block ih => rw [replaceValues_cons, List.length_cons, readValues_succ, ih]

/-- Unpacking in the place of a full block replaces it by what unpacks, and leaves it where nothing
does. -/
theorem unpackInto_eq (bytes : Bytes) (width : Nat) {block : List UInt64}
    (hblock : block.length = blockSize) :
    unpackInto bytes width block =
      match unpack bytes width with
      | .ok values => (.ok (packedLength width), values)
      | .error fault => (.error fault, block) := by
  unfold unpackInto unpack
  by_cases hwidth : width ≤ maxBitWidth
  · rw [dif_pos hwidth, dif_pos hwidth]
    by_cases hzero : width = 0
    · rw [if_pos hzero, if_pos hzero, List.map_const', hblock, hzero]
      rfl
    · rw [if_neg hzero, if_neg hzero]
      cases cut? (packedLength width) bytes with
      | none => rfl
      | some pieces =>
          dsimp only
          rw [replaceValues_eq hwidth, hblock]
  · rw [dif_neg hwidth, dif_neg hwidth]

/-! ## Whole lists -/

/-- A byte is put in the place of the first one behind a front. -/
theorem setByte?_append (front rest : Bytes) (old byte : UInt8) :
    setByte? (front ++ old :: rest) front.length byte = .ok (front ++ byte :: rest) := by
  have hinside : front.length < (front ++ old :: rest).length := by simp
  rw [setByte?, if_pos hinside, List.set_append_right _ _ (Nat.le_refl _), Nat.sub_self,
    List.set_cons_zero]

/-- A block is appended behind everything, and its width is filled in where there is room for it. -/
theorem appendBlock?_eq {headerStart index : Nat} {front : Bytes}
    (hfront : front.length = headerStart + index) (rest : Bytes) (block : List UInt64) :
    appendBlock? headerStart (front ++ 0 :: rest) block index =
      .ok (front ++ (bitsNeeded block).toUInt8 ::
        (rest ++ pack (bitsNeeded block) (bitsNeeded_le block) block)) := by
  simp only [appendBlock?, ← hfront, setByte?_append, packOnto?_eq _ (bitsNeeded_le block), bind,
    Except.bind, pure, Except.pure, List.append_assoc, List.cons_append]

/-- Appending the blocks of a list one by one: behind the buffer stand the widths of those that are
done, room for the widths of the others, and then the blocks that are done. -/
theorem foldlM_appendBlock? (buffer : Bytes) (done blocks : List (List UInt64)) :
    (blocks.zipIdx done.length).foldlM
        (fun output (block, index) => appendBlock? buffer.length output block index)
        (buffer ++ header done ++ (List.replicate blocks.length 0 ++ body done)) =
      .ok (buffer ++ header (done ++ blocks) ++ body (done ++ blocks)) := by
  induction blocks generalizing done with
  | nil => simp [pure, Except.pure]
  | cons block blocks ih =>
      have hfront : (buffer ++ header done).length = buffer.length + done.length := by
        simp [header]
      have hnext : buffer ++ header done ++ (bitsNeeded block).toUInt8 ::
          (List.replicate blocks.length 0 ++ body done ++
            pack (bitsNeeded block) (bitsNeeded_le block) block) =
          buffer ++ header (done ++ [block]) ++
            (List.replicate blocks.length 0 ++ body (done ++ [block])) := by
        simp [header, body]
      rw [List.zipIdx_cons, List.foldlM_cons, List.length_cons, List.replicate_succ,
        List.cons_append]
      dsimp only
      rw [appendBlock?_eq hfront, hnext]
      have hrest := ih (done ++ [block])
      rw [List.length_append, List.length_singleton, List.append_assoc done [block] blocks,
        List.singleton_append] at hrest
      exact hrest

/-- A buffer gains what the full blocks of a list are packed as, and the other values are handed
back. -/
theorem packBlocksOnto?_eq (buffer : Bytes) (values : List UInt64) :
    packBlocksOnto? buffer values = .ok (tail values, buffer ++ packBlocks values) := by
  have hloop := foldlM_appendBlock? buffer [] (fullBlocks values)
  simp only [List.length_nil, List.nil_append, length_fullBlocks] at hloop
  have hstart : buffer ++ header [] ++ (List.replicate (values.length / blockSize) 0 ++ body []) =
      buffer ++ List.replicate (values.length / blockSize) 0 := by
    simp [header, body]
  rw [hstart] at hloop
  simp only [packBlocksOnto?, hloop, bind, Except.bind, pure, Except.pure, tail, packBlocks_eq,
    List.append_assoc]

/-- A header announces what its blocks take. -/
theorem packedBlocksLength?_header {blocks : List (List UInt64)}
    (hblocks : ∀ block ∈ blocks, block.length = blockSize) :
    packedBlocksLength? (header blocks) = .ok (header blocks ++ body blocks).length := by
  have hwidths : ∀ width ∈ header blocks, width.toNat ≤ 64 := by
    intro width hwidth
    obtain ⟨block, -, rfl⟩ := List.mem_map.mp hwidth
    rw [toNat_header]
    exact bitsNeeded_le block
  rw [packedBlocksLength?_eq hwidths, packedBlocksLength_header hblocks, List.length_append, header,
    List.length_map]

theorem map_toNat_header (blocks : List (List UInt64)) :
    (header blocks).map UInt8.toNat = blocks.map bitsNeeded := by
  rw [header, List.map_map]
  exact List.map_congr_left fun block _ => toNat_header block

theorem tail_eq_drop (values : List UInt64) :
    tail values = values.drop (values.length - values.length % blockSize) := by
  have hdiv := Nat.div_add_mod values.length blockSize
  rw [tail, Nat.mul_comm, ← Nat.eq_sub_of_add_eq hdiv]

/-! ## Packing and unpacking -/

/-- A full block needs the least width that each of its values is below two to the power of. With
any width from there to that of a word, whatever the buffer holds, it is appended as eight bytes for
each bit of the width, and whatever follows them and whatever block is in its place, unpacking these
bytes restores it and takes all of them. A list is appended to a buffer as the least widths of its
full blocks, a byte each, and then the blocks, packed in order; the length that these widths
announce is that of everything appended, and the values after the last full block are handed
back. -/
theorem packOnto?_restores {block : List UInt64} (hblock : block.length = blockSize) {width : Nat}
    (hneeded : bitsNeeded block ≤ width) (hwidth : width ≤ maxBitWidth) (buffer : Bytes)
    (values : List UInt64) :
    IsLeast {width | ∀ value ∈ block, value.toNat < 2 ^ width} (bitsNeeded block) ∧
      packedLength? width = .ok (8 * width) ∧
      (pack width hwidth block).length = 8 * width ∧
      packOnto? buffer width block = .ok (8 * width, buffer ++ pack width hwidth block) ∧
      (∀ rest target, target.length = blockSize →
        unpackInto (pack width hwidth block ++ rest) width target = (.ok (8 * width), block)) ∧
      ∃ widths packed,
        packBlocksOnto? buffer values =
          .ok (values.drop (values.length - values.length % blockSize),
            buffer ++ (widths ++ packed)) ∧
        widths.map UInt8.toNat = (fullBlocks values).map bitsNeeded ∧
        packed = ((fullBlocks values).flatMap fun block =>
          pack (bitsNeeded block) (bitsNeeded_le block) block) ∧
        packedBlocksLength? widths = .ok (widths ++ packed).length ∧
        (∀ block ∈ fullBlocks values, block.length = blockSize) ∧
        values = (fullBlocks values).flatten ++
          values.drop (values.length - values.length % blockSize) := by
  have hlength : (pack width hwidth block).length = 8 * width := by
    rw [length_pack hwidth hblock, packedLength_eq]
  have hfit : ∀ value ∈ block, value.toNat < 2 ^ width := fun value hvalue =>
    (toNat_lt_two_pow_bitsNeeded hvalue).trans_le (Nat.pow_le_pow_right (by decide) hneeded)
  have hfull : ∀ block ∈ fullBlocks values, block.length = blockSize :=
    fun _ => length_of_mem_fullBlocks
  refine ⟨bitsNeeded_isLeast block, ?_, hlength, ?_, ?_, header (fullBlocks values),
    body (fullBlocks values), ?_, map_toNat_header _, rfl, packedBlocksLength?_header hfull, hfull,
    ?_⟩
  · rw [packedLength?, if_pos hwidth, packedLength_eq]
  · rw [packOnto?_eq buffer hwidth, hlength]
  · intro rest target htarget
    rw [unpackInto_eq _ _ htarget, unpack_pack hwidth hblock hfit, packedLength_eq]
  · rw [packBlocksOnto?_eq, packBlocks_eq, tail_eq_drop]
  · rw [← tail_eq_drop, flatten_fullBlocks_append_tail]

/-- A block that counts up to 63. -/
def countingBlock : List UInt64 := (List.range blockSize).map Nat.toUInt64

/-- The block needs six bits for each value, is packed with seven behind two other bytes, and comes
back over a block of ones with another byte behind it; of 130 values, two are handed back. -/
theorem packOnto?_restores_counting :
    countingBlock.length = blockSize ∧ bitsNeeded countingBlock ≤ 7 ∧ 7 ≤ maxBitWidth ∧
      IsLeast {width | ∀ value ∈ countingBlock, value.toNat < 2 ^ width} 6 ∧
      ∃ packed, packOnto? [1, 2] 7 countingBlock = .ok (56, [1, 2] ++ packed) ∧
        unpackInto (packed ++ [9]) 7 (List.replicate 64 1) = (.ok 56, countingBlock) ∧
        ∃ appended, packBlocksOnto? [1, 2] (countingBlock ++ countingBlock ++ [4, 5]) =
          .ok ([4, 5], [1, 2] ++ appended) := by
  have hblock : countingBlock.length = blockSize := by decide +kernel
  have hneeded : bitsNeeded countingBlock = 6 := by decide +kernel
  have htail : (countingBlock ++ countingBlock ++ [4, 5]).drop
      ((countingBlock ++ countingBlock ++ [4, 5]).length -
        (countingBlock ++ countingBlock ++ [4, 5]).length % blockSize) = [4, 5] := by
    decide +kernel
  have hwidth : 7 ≤ maxBitWidth := by decide
  have hle : bitsNeeded countingBlock ≤ 7 := by rw [hneeded]; decide
  obtain ⟨hleast, -, -, hpack, hunpack, widths, packed, hblocks, -⟩ :=
    packOnto?_restores hblock hle hwidth [1, 2] (countingBlock ++ countingBlock ++ [4, 5])
  rw [hneeded] at hleast
  rw [htail] at hblocks
  exact ⟨hblock, hle, hwidth, hleast, pack 7 hwidth countingBlock, hpack,
    hunpack [9] _ List.length_replicate, widths ++ packed, hblocks⟩

end Block

end CompactAdjacency
