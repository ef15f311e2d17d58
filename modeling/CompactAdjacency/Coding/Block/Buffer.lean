import CompactAdjacency.Coding.Block

/-!
# Blocks in buffers

A block is packed onto the end of a buffer that may hold other bytes already, and unpacked over the
values of another block. A whole list is packed onto a buffer in two places at a time: room for the
widths of its blocks is made first, and each width is filled in when its block is appended behind
them.
-/

namespace CompactAdjacency.Block

/-! ## One block -/

/-- Appends the values to a buffer with `width` bits each and answers the number of bytes appended,
or refuses a width no word has. -/
def packOnto? (buffer : Bytes) (width : Nat) (values : List UInt64) :
    Except Fault (Nat × Bytes) :=
  if width_le : width ≤ maxBitWidth then
    if width = 0 then .ok (0, buffer)
    else
      let writer := values.foldl (fun writer value => writer.push value width width_le)
        (BitWriter.onto buffer)
      .ok (writer.byteCount, writer.finish)
  else .error (.blockWidth width)

/-- Puts the next numbers of `width` bits each in the places of the values of a block. -/
def replaceValues (width : Nat) (width_le : width ≤ 64) : List UInt64 → BitReader → List UInt64
  | [], _ => []
  | _ :: values, reader =>
      let (value, reader) := reader.next width width_le
      value :: replaceValues width width_le values reader

/-- Unpacks the block at the front of a byte string in the place of another block. What is answered
is the number of bytes that it took, and the block as it is then. -/
def unpackInto (bytes : Bytes) (width : Nat) (block : List UInt64) :
    Except Fault Nat × List UInt64 :=
  if width_le : width ≤ maxBitWidth then
    if width = 0 then (.ok 0, block.map fun _ => 0)
    else
      match cut? (packedLength width) bytes with
      | none => (.error .outOfBounds, block)
      | some (packed, _) =>
          (.ok (packedLength width), replaceValues width width_le block (BitReader.ofBytes packed))
  else (.error (.blockWidth width), block)

/-! ## Whole lists -/

/-- The buffer with another byte at an index, which has to be in the buffer. -/
def setByte? (buffer : Bytes) (index : Nat) (byte : UInt8) : Except Fault Bytes :=
  if index < buffer.length then .ok (buffer.set index byte) else .error .outOfBounds

/-- Fills in the width of a block at its index in a header, and appends the block. -/
def appendBlock? (headerStart : Nat) (buffer : Bytes) (block : List UInt64) (index : Nat) :
    Except Fault Bytes := do
  let width := bitsNeeded block
  let filled ← setByte? buffer (headerStart + index) width.toUInt8
  let (_, packed) ← packOnto? filled width block
  pure packed

/-- Appends the widths of the full blocks of a list and the packed blocks to a buffer. What is
answered is the values after the last full block, and the buffer as it is then. -/
def packBlocksOnto? (buffer : Bytes) (values : List UInt64) :
    Except Fault (List UInt64 × Bytes) := do
  let count := values.length / blockSize
  let packed ← (fullBlocks values).zipIdx.foldlM
    (fun output (block, index) => appendBlock? buffer.length output block index)
    (buffer ++ List.replicate count 0)
  pure (values.drop (count * blockSize), packed)

end CompactAdjacency.Block
