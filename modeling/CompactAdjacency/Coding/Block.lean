import CompactAdjacency.Coding.Bits

/-!
# Packed blocks

Sixty-four values at a time are written with the same number of bits each, the least number that
holds the largest of them. A width of zero stands for a block of zeros, which takes no bytes at all.
`packBlocks` cuts a whole list into blocks: one byte per block with its width, then the packed
blocks, while the values after the last full block are handed back to be written some other way.
-/

namespace CompactAdjacency

/-- The number of values in a packed block. -/
def blockSize : Nat := 64

/-- The largest number of bits a packed value takes. -/
def maxBitWidth : Nat := 64

namespace Block

/-! ## Widths -/

/-- The number of binary digits of a word, zero for zero. -/
def bitLength (word : UInt64) : Nat :=
  if word = 0 then 0 else word.toNat.log2 + 1

/-- The least number of bits that holds every value of a list. -/
def bitsNeeded (values : List UInt64) : Nat :=
  bitLength (values.foldl (· ||| ·) 0)

theorem bitLength_le (word : UInt64) : bitLength word ≤ 64 := by
  unfold bitLength
  split
  · omega
  · rename_i nonzero
    have hpos : word.toNat ≠ 0 := fun h => nonzero (UInt64.toNat_inj.1 h)
    have := (Nat.log2_lt hpos).2 (show word.toNat < 2 ^ 64 from word.toNat_lt)
    omega

theorem bitsNeeded_le (values : List UInt64) : bitsNeeded values ≤ 64 :=
  bitLength_le _

/-- The number of bytes of a block packed with `width` bits per value. -/
def packedLength (width : Nat) : Nat := blockSize * width / 8

/-- The number of bytes of a packed block, or a refusal of a width no word has. -/
def packedLength? (width : Nat) : Except Fault Nat :=
  if width ≤ maxBitWidth then .ok (packedLength width) else .error (.blockWidth width)

/-! ## One block -/

/-- The values written with `width` bits each. -/
def pack (width : Nat) (width_le : width ≤ 64) (values : List UInt64) : Bytes :=
  (values.foldl (fun writer value => writer.push value width width_le) (BitWriter.onto [])).finish

/-- The values written with `width` bits each, or a refusal of a width no word has. -/
def pack? (width : Nat) (values : List UInt64) : Except Fault Bytes :=
  if width_le : width ≤ maxBitWidth then .ok (pack width width_le values)
  else .error (.blockWidth width)

/-- The next `count` numbers of `width` bits each. -/
def readValues (width : Nat) (width_le : width ≤ 64) : Nat → BitReader → List UInt64
  | 0, _ => []
  | count + 1, reader =>
      let (value, reader) := reader.next width width_le
      value :: readValues width width_le count reader

/-- The block packed at the front of a byte string with `width` bits per value. It takes
`packedLength width` bytes; bytes that end before that are a fault. -/
def unpack (bytes : Bytes) (width : Nat) : Except Fault (List UInt64) :=
  if width_le : width ≤ maxBitWidth then
    if width = 0 then .ok (List.replicate blockSize 0)
    else
      match cut? (packedLength width) bytes with
      | none => .error .outOfBounds
      | some (packed, _) => .ok (readValues width width_le blockSize (BitReader.ofBytes packed))
  else .error (.blockWidth width)

/-! ## Whole lists -/

/-- The full blocks at the front of a list. -/
def fullBlocks (values : List UInt64) : List (List UInt64) :=
  (List.range (values.length / blockSize)).map fun index =>
    (values.drop (index * blockSize)).take blockSize

/-- The values after the last full block, fewer than a block. -/
def tail (values : List UInt64) : List UInt64 :=
  values.drop (values.length / blockSize * blockSize)

/-- One byte per block: the width it is packed with. -/
def header (blocks : List (List UInt64)) : Bytes :=
  blocks.map fun block => (bitsNeeded block).toUInt8

/-- The widths of the full blocks of a list and the blocks themselves, each packed with the least
width that holds it. -/
def packBlocks (values : List UInt64) : Bytes :=
  let blocks := fullBlocks values
  header blocks ++ blocks.flatMap fun block => pack (bitsNeeded block) (bitsNeeded_le block) block

/-- The number of bytes of a header together with the blocks it announces. -/
def packedBlocksLength : Bytes → Nat
  | [] => 0
  | width :: header => 1 + packedLength width.toNat + packedBlocksLength header

/-- The number of bytes of a header together with the blocks it announces, or a refusal of the
first width no word has. -/
def packedBlocksLength? (header : Bytes) : Except Fault Nat :=
  match header.find? (fun width => width.toNat > maxBitWidth) with
  | some width => .error (.blockWidth width.toNat)
  | none => .ok (packedBlocksLength header)

end Block

end CompactAdjacency
