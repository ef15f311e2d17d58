import CompactAdjacency.Record.Decoder
import CompactAdjacency.Storage.Arena
import CompactAdjacency.Storage.Directory
import CompactAdjacency.Value.DecimalReading
import CompactAdjacency.Value.DecimalWriting
import CompactAdjacency.Config.Basic

/-!
# Compressed neighbor lists

What a build leaves: the directory, the arena with the neighbor records and, if there are property
channels, the arena with the property records. The bytes of a record are found through the
directory; a channel of a packed property record is found by walking over the channels before it.

`Stats` sums a structure up.
-/

namespace CompactAdjacency

/-- The property records of all nodes and the number of channels in each. -/
structure Properties where
  arena : Arena
  channelCount : UInt64
  deriving DecidableEq, Repr

/-- The compressed neighbor lists of a graph, with their property channels. -/
structure Lists where
  rule : LayoutRule
  /-- The number of relationships, as counted while they were compressed. -/
  relationshipCount : UInt64
  directory : Directory
  adjacency : Arena
  properties : Option Properties
  deriving DecidableEq, Repr

namespace Lists

/-! ## Finding records -/

/-- The number of nodes. -/
def nodeCount (lists : Lists) : Nat := lists.directory.nodeCount

/-- The number of neighbors of a node, zero for nodes out of range. -/
def degree (lists : Lists) (node : Nat) : Nat := lists.directory.degree node

/-- The layout of the record of a node. -/
def layout (lists : Lists) (node : Nat) : Layout := lists.rule.layout (lists.degree node)

/-- The bytes from the record of a node to the end of its page, `none` for a node without
neighbors. -/
def record (lists : Lists) (node : Nat) : Except Fault (Option Bytes) :=
  if lists.degree node = 0 then .ok none
  else do
    let address ← Directory.lookup lists.directory.adjacency node
    let bytes ← lists.adjacency.bytesAt address
    pure (some bytes)

/-- The bytes after `count` packed records of `degree` values each. -/
def skipPacked (degree : Nat) : Nat → Bytes → Except Fault Bytes
  | 0, bytes => .ok bytes
  | count + 1, bytes => do
      let some (header, _) := cut? (Layout.packed.headerLength degree) bytes
        | .error .outOfBounds
      let blocks ← Block.packedBlocksLength? header
      let some (_, tail) := cut? blocks bytes | .error .outOfBounds
      match Varint.skip? (degree % blockSize) tail with
      | none => .error .outOfBounds
      | some length => skipPacked degree count (tail.drop length)

/-- The bytes from a channel of the property record of a node to the end of its page, `none` for a
node without neighbors. -/
def channelRecord (lists : Lists) (properties : Properties) (node channel : Nat) :
    Except Fault (Option Bytes) :=
  let degree := lists.degree node
  if degree = 0 then .ok none
  else do
    let address ← Directory.lookup lists.directory.properties node
    let bytes ← properties.arena.bytesAt address
    match lists.layout node with
    | .varint =>
        match cut? (channel * degree * Binary64.byteCount) bytes with
        | none => .error .outOfBounds
        | some (_, rest) => pure (some rest)
    | .packed => do
        let rest ← skipPacked degree channel bytes
        pure (some rest)

/-- A node without neighbors has no record. -/
theorem record_of_degree_eq_zero {lists : Lists} {node : Nat} (hdegree : lists.degree node = 0) :
    lists.record node = .ok none :=
  if_pos hdegree

/-- The record of a node is found through its address. -/
theorem record_of_lookup {lists : Lists} {node : Nat} {address : Address} {bytes : Bytes}
    (hdegree : lists.degree node ≠ 0)
    (haddress : Directory.lookup lists.directory.adjacency node = .ok address)
    (hbytes : lists.adjacency.bytesAt address = .ok bytes) :
    lists.record node = .ok (some bytes) := by
  simp only [record, if_neg hdegree, haddress, hbytes, bind, Except.bind, pure, Except.pure]

/-- A channel of a packed record is found behind the channels before it. -/
theorem channelRecord_of_packed {lists : Lists} {properties : Properties} {node channel : Nat}
    {address : Address} {bytes rest : Bytes} (hdegree : lists.degree node ≠ 0)
    (haddress : Directory.lookup lists.directory.properties node = .ok address)
    (hbytes : properties.arena.bytesAt address = .ok bytes)
    (hlayout : lists.layout node = .packed)
    (hskip : skipPacked (lists.degree node) channel bytes = .ok rest) :
    lists.channelRecord properties node channel = .ok (some rest) := by
  simp only [channelRecord, if_neg hdegree, haddress, hbytes, hlayout, hskip, bind, Except.bind,
    pure, Except.pure]

/-- A channel of an unpacked record is found at its offset. -/
theorem channelRecord_of_varint {lists : Lists} {properties : Properties} {node channel : Nat}
    {address : Address} {bytes front rest : Bytes} (hdegree : lists.degree node ≠ 0)
    (haddress : Directory.lookup lists.directory.properties node = .ok address)
    (hbytes : properties.arena.bytesAt address = .ok bytes)
    (hlayout : lists.layout node = .varint)
    (hcut : cut? (channel * lists.degree node * Binary64.byteCount) bytes = some (front, rest)) :
    lists.channelRecord properties node channel = .ok (some rest) := by
  simp only [channelRecord, if_neg hdegree, haddress, hbytes, hlayout, hcut, bind, Except.bind,
    pure, Except.pure]

/-! ## Sizes -/

/-- The number of bytes of the neighbor records and the directory. -/
def adjacencyMemory (lists : Lists) : Nat := lists.adjacency.size + lists.directory.byteSize

/-- The number of bytes of the property records. -/
def propertyMemory (lists : Lists) : Nat :=
  match lists.properties with
  | none => 0
  | some properties => properties.arena.size

/-- The number of bytes of everything stored. -/
def memory (lists : Lists) : Nat := lists.adjacencyMemory + lists.propertyMemory

/-- The number of nodes that have neighbors and a record of the given layout. -/
def countLayout (lists : Lists) (layout : Layout) : Nat :=
  lists.directory.degrees.foldl
    (fun total degree =>
      if degree ≠ 0 ∧ lists.rule.layout degree.toNat = layout then total + 1 else total) 0

end Lists

/-! ## Statistics -/

/-- A structure in numbers. -/
structure Stats where
  nodeCount : Nat
  relationshipCount : UInt64
  strategy : Strategy
  /-- The largest degree that the mixed strategy leaves unpacked. -/
  threshold : UInt64
  packedNodes : Nat
  varintNodes : Nat
  adjacencyBytes : Nat
  propertyBytes : Nat
  directoryBytes : Nat
  /-- The bits of the neighbor records for each relationship, zero without relationships. -/
  bitsPerRelationship : Binary64
  deriving DecidableEq, Repr

namespace Lists

/-- A structure in numbers. -/
def stats (lists : Lists) : Stats :=
  { nodeCount := lists.nodeCount
    relationshipCount := lists.relationshipCount
    strategy := lists.rule.strategy
    threshold := lists.rule.threshold
    packedNodes := lists.countLayout .packed
    varintNodes := lists.countLayout .varint
    adjacencyBytes := lists.adjacency.size
    propertyBytes := lists.propertyMemory
    directoryBytes := lists.directory.byteSize
    bitsPerRelationship :=
      if lists.relationshipCount = 0 then ⟨0⟩
      else .ofQuotient (lists.adjacency.size * 8) lists.relationshipCount.toNat }

end Lists

/-- The numbers as JSON, one to a line. -/
def Stats.toJson (stats : Stats) : String :=
  let fields :=
    [("node_count", toString stats.nodeCount),
      ("relationship_count", toString stats.relationshipCount.toNat),
      ("strategy", Config.quoted stats.strategy.label),
      ("packed_degree_threshold", toString stats.threshold.toNat),
      ("packed_nodes", toString stats.packedNodes),
      ("varlong_nodes", toString stats.varintNodes),
      ("adjacency_bytes", toString stats.adjacencyBytes),
      ("property_bytes", toString stats.propertyBytes),
      ("directory_bytes", toString stats.directoryBytes),
      ("bits_per_relationship", stats.bitsPerRelationship.toDecimal)]
  "\x7b\n" ++
    String.intercalate ",\n"
      (fields.map fun field => "  " ++ Config.quoted field.1 ++ ": " ++ field.2) ++ "\n\x7d"

end CompactAdjacency
