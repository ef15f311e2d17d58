import CompactAdjacency.Record.Layout
import CompactAdjacency.Coding.Varint

/-!
# The extent of an untrusted record

Before bytes from outside are read as records, `extent?` walks each record once without decoding it:
widths are at most 64, the blocks they announce lie inside the bytes, and the varints after them end
in time. The answer is the number of bytes that reading the record takes.
-/

namespace CompactAdjacency.Record

/-- The number of bytes of the record of `count` values at the front of a byte string, led by
`headerLength` block widths; `none` if no such record fits there. -/
def extent? (bytes : Bytes) (headerLength count : Nat) : Option Nat := do
  let (header, body) ← cut? headerLength bytes
  if header.any (fun width => width.toNat > maxBitWidth) then none
  else
    let (_, tail) ← cut? (Block.packedBlocksLength header - headerLength) body
    let tailLength ← Varint.measure? (count - headerLength * blockSize) tail
    pure (Block.packedBlocksLength header + tailLength)

/-- The number of bytes of `channels` records of one shape, one after the other; `none` as soon as
one of them does not fit. -/
def extents? (bytes : Bytes) (headerLength count : Nat) : Nat → Option Nat
  | 0 => some 0
  | channels + 1 => do
      let first ← extent? bytes headerLength count
      let others ← extents? (bytes.drop first) headerLength count channels
      pure (first + others)

end CompactAdjacency.Record
