import CompactAdjacency.Record.Layout
import CompactAdjacency.Coding.Varint
import CompactAdjacency.Coding.Gaps

/-!
# Reading records block by block

A `Decoder` stands inside a record: the widths of the packed blocks still to come, the bytes after
them, the number of values left and the value decoded last. `Decoder.step` decodes one block more
into a buffer of 64 values. Values after the last packed block are decoded up to 64 at a time, so a
record without packed blocks is read in chunks like any other. A step on bytes that are no record
ends in a fault; the buffer then holds the values that were decoded before the bytes gave out, in
front of what it held before.
-/

namespace CompactAdjacency.Record

/-- A position between two blocks of a record. -/
structure Decoder where
  /-- The widths of the packed blocks to come. -/
  header : Bytes
  /-- The bytes after the last block decoded. -/
  rest : Bytes
  /-- The number of values to come. -/
  remaining : Nat
  /-- Whether values are gaps to add up. -/
  delta : Bool
  /-- The value decoded last, zero at first. -/
  last : UInt64
  deriving DecidableEq, Repr

/-- What one step of a decoder leaves: the decoder and buffer after it, and the number of values
decoded, zero at the end of the record. -/
structure Decoder.Step where
  decoder : Decoder
  block : List UInt64
  outcome : Except Fault Nat

namespace Decoder

/-- A decoder without a record. -/
def empty : Decoder := ⟨[], [], 0, false, 0⟩

/-- A decoder at the start of the record of `count` values at the front of a byte string. -/
def ofRecord (bytes : Bytes) (headerLength count : Nat) (delta : Bool) : Except Fault Decoder :=
  match cut? headerLength bytes with
  | none => .error .outOfBounds
  | some (header, rest) => .ok ⟨header, rest, count, delta, 0⟩

/-- The values that a block of the record stands for: itself, or its running sums. -/
def resolve (decoder : Decoder) (block : List UInt64) : List UInt64 :=
  if decoder.delta then Gaps.sumsFrom decoder.last block else block

/-- Decodes the next block into a buffer. -/
def step (decoder : Decoder) (buffer : List UInt64) : Step :=
  if decoder.remaining = 0 then ⟨decoder, buffer, .ok 0⟩
  else
    match decoder.header with
    | width :: header =>
        match Block.unpack decoder.rest width.toNat with
        | .error fault => ⟨decoder, buffer, .error fault⟩
        | .ok packed =>
            let block := decoder.resolve packed
            ⟨{ decoder with
                header := header
                rest := decoder.rest.drop (Block.packedLength width.toNat)
                remaining := decoder.remaining - blockSize
                last := block.getLastD decoder.last },
              block, .ok blockSize⟩
    | [] =>
        let count := min decoder.remaining blockSize
        let run := Varint.readRun count decoder.rest
        let values := decoder.resolve run.values
        let block := values ++ buffer.drop values.length
        match run.rest with
        | none => ⟨decoder, block, .error .outOfBounds⟩
        | some rest =>
            ⟨{ decoder with
                rest := rest
                remaining := decoder.remaining - count
                last := values.getLastD decoder.last },
              block, .ok count⟩

end Decoder

end CompactAdjacency.Record
