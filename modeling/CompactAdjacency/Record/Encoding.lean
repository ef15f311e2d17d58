import CompactAdjacency.Record.Layout
import CompactAdjacency.Coding.Varint
import CompactAdjacency.Coding.Gaps
import CompactAdjacency.Value.Binary64

/-!
# Writing records

A record is written from its values alone. Neighbors are written as their gaps, and the channels of
a property record follow each other without a length or a separator: packed like the neighbors, or
as the eight bytes of each value.
-/

namespace CompactAdjacency.Record

/-- The packed record of a list: block widths, blocks, and the remaining values as varints. -/
def encodePacked (values : List UInt64) : Bytes :=
  Block.packBlocks values ++ Varint.encodeAll (Block.tail values)

/-- The record of a list of values. -/
def encode : Layout → List UInt64 → Bytes
  | .packed, values => encodePacked values
  | .varint, values => Varint.encodeAll values

/-- The record of one channel. -/
def encodeChannel : Layout → List Binary64 → Bytes
  | .packed, values => encodePacked (values.map Binary64.bits)
  | .varint, values => values.flatMap Binary64.toBytes

/-- The property record of the first `degree` values of each channel. -/
def encodeChannels (layout : Layout) (degree : Nat) (channels : List (List Binary64)) : Bytes :=
  channels.flatMap fun channel => encodeChannel layout (channel.take degree)

/-- The property record of the first `degree` values of each channel; a channel that is shorter is a
fault. -/
def encodeChannels? (layout : Layout) (degree : Nat) (channels : List (List Binary64)) :
    Except Fault Bytes :=
  if channels.all (fun channel => degree ≤ channel.length) then
    .ok (encodeChannels layout degree channels)
  else .error .outOfBounds

end CompactAdjacency.Record
