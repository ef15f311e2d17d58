import CompactAdjacency.Coding.Block.Buffer
import CompactAdjacency.Coding.Varint.Buffer
import CompactAdjacency.Record.Encoding

/-!
# Records in reused buffers

The records of a node are written to buffers that still hold those of the node before it. Each
buffer is cleared before anything is appended to it: the neighbor and the property buffer once for a
node, and the words of a channel that is being packed once for a channel. A record is appended value
by value to whatever its buffer holds.
-/

namespace CompactAdjacency.Record

/-! ## Appending records -/

/-- Appends the packed record of a list to a buffer. -/
def encodePackedOnto? (buffer : Bytes) (values : List UInt64) : Except Fault Bytes := do
  let (tail, packed) ← Block.packBlocksOnto? buffer values
  pure (Varint.writeAllOnto packed tail).2

/-- Appends the record of a list to a buffer. -/
def encodeOnto? : Layout → Bytes → List UInt64 → Except Fault Bytes
  | .packed, buffer, values => encodePackedOnto? buffer values
  | .varint, buffer, values => pure (Varint.writeAllOnto buffer values).2

/-- The first values of a channel, which has to have as many. -/
def firstValues? (degree : Nat) (channel : List Binary64) : Except Fault (List Binary64) :=
  if degree ≤ channel.length then .ok (channel.take degree) else .error .outOfBounds

/-! ## Buffers -/

/-- What a compressor writes the records of its nodes to, one node after the other. -/
structure Buffers where
  /-- The neighbor record of a node. -/
  adjacency : Bytes
  /-- The property record of a node. -/
  properties : Bytes
  /-- The words of a channel that is being packed. -/
  scratch : List UInt64
  deriving DecidableEq, Repr

namespace Buffers

/-- Buffers nobody has written to. -/
def empty : Buffers := ⟨[], [], []⟩

def clearAdjacency (buffers : Buffers) : Buffers := { buffers with adjacency := [] }

def clearProperties (buffers : Buffers) : Buffers := { buffers with properties := [] }

def clearScratch (buffers : Buffers) : Buffers := { buffers with scratch := [] }

/-- Appends the first values of a channel, packed by way of their words. -/
def appendPacked? (buffers : Buffers) (values : List Binary64) : Except Fault Buffers := do
  let buffers := buffers.clearScratch
  let scratch := buffers.scratch ++ values.map Binary64.bits
  let properties ← encodePackedOnto? buffers.properties scratch
  pure { buffers with properties, scratch }

/-- Appends the first values of a channel as the bytes of each. -/
def appendRaw (buffers : Buffers) (values : List Binary64) : Buffers :=
  { buffers with
    properties := values.foldl (fun output value => output ++ value.toBytes) buffers.properties }

/-- Appends the record of a channel to the property buffer. -/
def appendChannel? (layout : Layout) (degree : Nat) (buffers : Buffers)
    (channel : List Binary64) : Except Fault Buffers := do
  let values ← firstValues? degree channel
  match layout with
  | .packed => buffers.appendPacked? values
  | .varint => pure (buffers.appendRaw values)

/-- Writes the records of another node: its gaps, and the first values of each of its channels. -/
def refill? (buffers : Buffers) (layout : Layout) (gaps : List UInt64)
    (channels : List (List Binary64)) (degree : Nat) : Except Fault Buffers := do
  let buffers := buffers.clearAdjacency
  let adjacency ← encodeOnto? layout buffers.adjacency gaps
  let buffers := { buffers with adjacency }.clearProperties
  channels.foldlM (appendChannel? layout degree) buffers

end Buffers

end CompactAdjacency.Record
