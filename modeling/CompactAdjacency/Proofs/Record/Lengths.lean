import Mathlib
import CompactAdjacency.Proofs.Record.Channels

/-!
# The length of a record

What a record takes is known from its values, without writing it. A varint takes a seventh of the
bits of its word, and a packed block one byte for its width and eight bytes for each bit of the
width. `length_encode` shows that the writer of bits, the packing of blocks and the varints come to
the same for every list, and `length_encodeChannels` that property records are made of such records,
or of eight bytes per value.
-/

namespace CompactAdjacency

/-! ## Varints -/

namespace Varint

/-- A number takes a seventh of its bits, rounded up, and at least one byte. -/
theorem length_encodeNat (value : Nat) :
    (encodeNat value).length = (max (if value = 0 then 0 else value.log2 + 1) 1 + 6) / 7 := by
  fun_induction encodeNat value with
  | case1 value hsmall =>
      have hbits : value ≠ 0 → value.log2 < 7 := fun hne => (Nat.log2_lt hne).mpr hsmall
      rw [List.length_singleton]
      split
      case isTrue hzero => rfl
      case isFalse hne =>
        have := hbits hne
        omega
  | case2 value hlarge ih =>
      -- the byte takes the lowest seven bits off the number
      have hlog : (value / 128).log2 = value.log2 - 7 := by
        rw [Nat.log2_eq_log_two, Nat.log2_eq_log_two]
        exact Nat.log_div_base_pow 2 value 7
      have hseven : 7 ≤ value.log2 := by
        by_contra hless
        exact hlarge ((Nat.log2_lt (by omega)).mp (Nat.lt_of_not_le hless))
      rw [List.length_cons, ih, hlog, if_neg (by omega), if_neg (by omega)]
      omega

/-- The bytes of a word are as many as its closed form says. -/
theorem length_encode (value : UInt64) : (encode value).length = length value := by
  have hzero : value.toNat = 0 ↔ value = 0 := UInt64.toNat_inj (b := 0)
  simp only [encode, length_encodeNat, length, hzero]

theorem length_encodeAll (values : List UInt64) :
    (encodeAll values).length = (values.map length).sum := by
  simp only [encodeAll, List.length_flatMap, length_encode]

end Varint

/-! ## Packed blocks -/

/-- Packed blocks take eight bytes for each bit of their widths. -/
theorem Block.length_body {blocks : List (List UInt64)}
    (hblocks : ∀ block ∈ blocks, block.length = blockSize) :
    (body blocks).length = (blocks.map fun block => 8 * bitsNeeded block).sum := by
  rw [body, List.length_flatMap]
  refine congrArg List.sum (List.map_congr_left fun block hblock => ?_)
  rw [length_pack _ (hblocks block hblock), packedLength_eq]

namespace Record

/-! ## Records of neighbors -/

/-- The number of bytes of a record, from its values: the bytes of each varint, or one byte for each
full block, eight bytes for each bit of their widths, and the bytes of the varints behind them. -/
def recordLength : Layout → List UInt64 → Nat
  | .packed, values =>
      (Block.fullBlocks values).length +
        ((Block.fullBlocks values).map fun block => 8 * Block.bitsNeeded block).sum +
        ((Block.tail values).map Varint.length).sum
  | .varint, values => (values.map Varint.length).sum

/-- A record is written with as many bytes. -/
theorem length_encode (layout : Layout) (values : List UInt64) :
    (encode layout values).length = recordLength layout values := by
  cases layout with
  | varint => exact Varint.length_encodeAll values
  | packed =>
      have hbody := Block.length_body fun block (hblock : block ∈ Block.fullBlocks values) =>
        Block.length_of_mem_fullBlocks hblock
      rw [encode, encodePacked, Block.packBlocks_eq, List.length_append, List.length_append, hbody,
        Varint.length_encodeAll, Block.header, List.length_map]
      rfl

/-- A list without values has no record. -/
theorem recordLength_nil (layout : Layout) : recordLength layout [] = 0 := by
  cases layout with
  | packed => rfl
  | varint => rfl

/-! ## Records of properties -/

/-- The number of bytes of a property record, from the values of its channels: those of a packed
record for each channel, or eight bytes for each value. -/
def channelsLength : Layout → Nat → List (List Binary64) → Nat
  | .packed, degree, channels =>
      (channels.map fun values =>
        recordLength .packed ((values.take degree).map Binary64.bits)).sum
  | .varint, degree, channels => channels.length * (degree * Binary64.byteCount)

/-- Channels without values have no record. -/
theorem channelsLength_zero (layout : Layout) (channels : List (List Binary64)) :
    channelsLength layout 0 channels = 0 := by
  cases layout with
  | packed => simp [channelsLength, recordLength_nil]
  | varint => simp [channelsLength]

/-- A property record is written with as many bytes, if there is a value for each relationship in
every channel. -/
theorem length_encodeChannels {degree : Nat} {channels : List (List Binary64)}
    (hdegree : ∀ values ∈ channels, degree ≤ values.length) (layout : Layout) :
    (encodeChannels layout degree channels).length = channelsLength layout degree channels := by
  cases layout with
  | varint => exact length_encodeChannels_varint hdegree
  | packed =>
      rw [encodeChannels, List.length_flatMap, channelsLength]
      refine congrArg List.sum (List.map_congr_left fun values _ => ?_)
      exact length_encode .packed ((values.take degree).map Binary64.bits)

end Record

end CompactAdjacency
