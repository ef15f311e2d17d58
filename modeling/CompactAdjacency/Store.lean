import CompactAdjacency.Lists
import CompactAdjacency.Record.Buffers

/-!
# Stores under construction

A store is a graph that is being compressed: a directory, and the arenas that records are written
to. Any number of compressors work on it, each filling pages of its own, and each node they compress
is entered into the directory through a partition. `Store.freeze` turns a store whose compressors
are all closed into `Lists`.

A store can be reset to another number of nodes. Compressors made before a reset keep writing to the
arenas that the reset discarded, though they enter addresses into the new directory; the arenas of
every generation are therefore kept.

A compressor writes the records of every node to the same buffers, and what is in them when it is
done with a node is still there when it takes the next one.

`Store.run` is any interleaving of the work of several compressors.
-/

namespace CompactAdjacency

/-! ## Encoded nodes -/

/-- What is written for one node. -/
structure EncodedNode where
  /-- The targets as gaps. -/
  gaps : List UInt64
  adjacency : Bytes
  properties : Bytes
  deriving DecidableEq, Repr

namespace EncodedNode

/-- The first channel with fewer than `degree` values, and how many it has. -/
def shortChannel (degree : Nat) (channels : List (List Binary64)) : Option (Nat × Nat) :=
  (channels.zipIdx.find? fun channel => channel.1.length < degree).map fun channel =>
    (channel.2, channel.1.length)

/-- Refuses what is not the first `degree` relationships of a node of a partition, with values in
`channelCount` channels. -/
def check (channelCount : Nat) (part : Partition) (node : Nat) (targets : List UInt64)
    (channels : List (List Binary64)) (degree : Nat) : Except Failure Unit := do
  let _ ← part.locate node
  if degree > targets.length ∨ degree ≥ UInt32.size then
    .error (.degreeMismatch node degree targets.length)
  else if channels.length ≠ channelCount then
    .error (.channelCount channelCount channels.length)
  else
    match shortChannel degree channels with
    | some (channel, length) => .error (.channelLength node channel length degree)
    | none => .ok ()

/-- What the first `degree` relationships of a node are encoded as, whoever encodes them. The
targets have to ascend. -/
def ofTargets (config : Config) (part : Partition) (node : Nat) (targets : List UInt64)
    (channels : List (List Binary64)) (degree : Nat) : Except Failure EncodedNode := do
  check config.channelCount.toNat part node targets channels degree
  let gaps ← Gaps.encode node (targets.take degree)
  let layout := config.layoutRule.layout degree
  pure
    { gaps := gaps
      adjacency := Record.encode layout gaps
      properties := Record.encodeChannels layout degree channels }

end EncodedNode

/-! ## Stores -/

/-- The arenas that the compressors made between two resets share, and the number of relationships
they have compressed. -/
structure Generation where
  adjacency : Allocators
  properties : Allocators
  relationships : UInt64
  deriving DecidableEq, Repr

/-- Where a worker on a store writes: the generation it was made in, and the first of the two
allocators it has in each arena of that generation. -/
structure Compressor where
  generation : Nat
  allocator : Nat
  deriving DecidableEq, Repr

/-- A compressor that is not closed, with the buffers that it uses again for every node. Each layout
has buffers of its own. -/
structure OpenCompressor extends Compressor where
  packed : Record.Buffers
  varint : Record.Buffers
  deriving DecidableEq, Repr

namespace OpenCompressor

/-- A compressor that has not compressed anything. -/
def ofCompressor (compressor : Compressor) : OpenCompressor :=
  { compressor with packed := .empty, varint := .empty }

/-- The buffers for records of a layout. -/
def buffers (compressor : OpenCompressor) : Layout → Record.Buffers
  | .packed => compressor.packed
  | .varint => compressor.varint

/-- Replaces the buffers for records of a layout. -/
def withBuffers (compressor : OpenCompressor) (layout : Layout) (buffers : Record.Buffers) :
    OpenCompressor :=
  match layout with
  | .packed => { compressor with packed := buffers }
  | .varint => { compressor with varint := buffers }

/-- Encodes the first `degree` relationships of a node in the buffers of their layout, and answers
what is in the buffers then. What is refused is refused before the buffers are cleared. -/
def encode (compressor : OpenCompressor) (config : Config) (part : Partition) (node : Nat)
    (targets : List UInt64) (channels : List (List Binary64)) (degree : Nat) :
    Except Failure (EncodedNode × OpenCompressor) := do
  EncodedNode.check config.channelCount.toNat part node targets channels degree
  let gaps ← Gaps.encode node (targets.take degree)
  let layout := config.layoutRule.layout degree
  let buffers ←
    ((compressor.buffers layout).refill? layout gaps channels degree).mapError Failure.fault
  let encoded :=
    { gaps := gaps, adjacency := buffers.adjacency, properties := buffers.properties }
  pure (encoded, compressor.withBuffers layout buffers)

end OpenCompressor

/-- The allocator that a compressor uses for records of a layout. Records of different layouts go to
different pages. -/
def Compressor.allocatorOf (compressor : Compressor) : Layout → Nat
  | .packed => compressor.allocator
  | .varint => compressor.allocator + 1

/-- A graph under construction. -/
structure Store where
  config : Config
  directory : Directory
  /-- The generations before the last reset, oldest first. -/
  discarded : List Generation
  current : Generation
  /-- The compressors in order of creation, `none` for closed ones. -/
  compressors : List (Option OpenCompressor)
  deriving DecidableEq, Repr

namespace Generation

/-- Arenas nobody has written to. -/
def ofPageSize (pageSize : Nat) : Generation :=
  { adjacency := .ofPool (.ofPageSize pageSize)
    properties := .ofPool (.ofPageSize pageSize)
    relationships := 0 }

/-- Adds the allocators of one compressor. -/
def join (generation : Generation) : Generation :=
  { generation with
    adjacency := generation.adjacency.join.join
    properties := generation.properties.join.join }

/-- Writes the records of a node, and answers where they are. A store without channels writes no
property records. -/
def insert (generation : Generation) (allocator : Nat) (adjacency : Bytes)
    (properties : Option Bytes) : Except Failure (Address × Address) × Generation :=
  match generation.adjacency.insert allocator adjacency with
  | (.error failure, arena) => (.error failure, { generation with adjacency := arena })
  | (.ok address, arena) =>
      let generation := { generation with adjacency := arena }
      match properties with
      | none => (.ok (address, .zero), generation)
      | some record =>
          match generation.properties.insert allocator record with
          | (.error failure, arena) => (.error failure, { generation with properties := arena })
          | (.ok property, arena) =>
              (.ok (address, property), { generation with properties := arena })

/-- Returns the pages that an allocator has open in either arena. -/
def retire (generation : Generation) (allocator : Nat) : Generation :=
  { generation with
    adjacency := generation.adjacency.retire allocator
    properties := generation.properties.retire allocator }

end Generation

/-- What compressing a node leaves: the number of bytes of its neighbor record, the targets, which
are gaps as soon as they have been encoded, and the store. -/
structure Compression where
  outcome : Except Failure Nat
  targets : List UInt64
  store : Store

namespace Store

/-- A store for a number of nodes, unless no build can follow the configuration. -/
def create (config : Config) (nodeCount : Nat) : Except Failure Store := do
  config.check
  let directory ← Directory.ofNodeCount nodeCount
  pure
    { config := config
      directory := directory
      discarded := []
      current := .ofPageSize config.pageSize.toNat
      compressors := [] }

/-- The number of nodes. -/
def nodeCount (store : Store) : Nat := store.directory.nodeCount

/-- Discards what was written and makes room for a number of nodes. -/
def reset (store : Store) (nodeCount : Nat) : Except Failure Store := do
  let directory ← Directory.ofNodeCount nodeCount
  pure
    { store with
      directory := directory
      discarded := store.discarded ++ [store.current]
      current := .ofPageSize store.config.pageSize.toNat }

/-! ## Compressors -/

/-- The generation of a number. -/
def generation? (store : Store) (number : Nat) : Option Generation :=
  (store.discarded ++ [store.current])[number]?

/-- Replaces the generation of a number. -/
def setGeneration (store : Store) (number : Nat) (generation : Generation) : Store :=
  if number = store.discarded.length then { store with current := generation }
  else { store with discarded := store.discarded.set number generation }

/-- Adds a compressor; its number is the number of compressors before it. -/
def createCompressor (store : Store) : Store :=
  let compressor : Compressor :=
    ⟨store.discarded.length, store.current.adjacency.current.length⟩
  { store with
    current := store.current.join
    compressors := store.compressors ++ [some (.ofCompressor compressor)] }

/-- The compressor of a number with its buffers, unless there is none or it was closed. -/
def openCompressor? (store : Store) (number : Nat) : Option OpenCompressor :=
  (store.compressors[number]?).join

/-- The compressor of a number, unless there is none or it was closed. -/
def compressor? (store : Store) (number : Nat) : Option Compressor :=
  (store.openCompressor? number).map OpenCompressor.toCompressor

/-- Puts a compressor that has used its buffers back in its place. -/
def putBack (store : Store) (number : Nat) (compressor : OpenCompressor) : Store :=
  { store with compressors := store.compressors.set number (some compressor) }

/-- Closes a compressor, which returns the pages it has open. -/
def close (store : Store) (number : Nat) : Store :=
  match store.compressor? number with
  | none => store
  | some compressor =>
      let store := { store with compressors := store.compressors.set number none }
      match store.generation? compressor.generation with
      | none => store
      | some generation =>
          store.setGeneration compressor.generation
            ((generation.retire (compressor.allocatorOf .packed)).retire
              (compressor.allocatorOf .varint))

/-! ## Compressing -/

/-- Enters a node into the directory. -/
def enter (store : Store) (part : Partition) (node : Nat) (entry : DirectoryEntry) :
    Except Failure Unit × Store :=
  let (outcome, directory) := store.directory.set part node entry
  (outcome, { store with directory := directory })

/-- Writes the records of an encoded node, enters it into the directory and counts its
relationships. A node without relationships is entered without a record. -/
def commit (store : Store) (compressor : Compressor) (part : Partition) (node degree : Nat)
    (encoded : EncodedNode) : Except Failure Nat × Store :=
  if degree = 0 then
    match store.enter part node ⟨0, .zero, .zero⟩ with
    | (.error failure, store) => (.error failure, store)
    | (.ok (), store) => (.ok 0, store)
  else
    match store.generation? compressor.generation with
    | none => (.error (.fault .outOfBounds), store)
    | some generation =>
        let allocator := compressor.allocatorOf (store.config.layoutRule.layout degree)
        let properties := if store.config.channelCount = 0 then none else some encoded.properties
        match generation.insert allocator encoded.adjacency properties with
        | (.error failure, generation) =>
            (.error failure, store.setGeneration compressor.generation generation)
        | (.ok (adjacency, property), generation) =>
            let store := store.setGeneration compressor.generation generation
            match store.enter part node ⟨degree.toUInt32, adjacency, property⟩ with
            | (.error failure, store) => (.error failure, store)
            | (.ok (), store) =>
                let generation :=
                  { generation with
                    relationships := generation.relationships + degree.toUInt64 }
                (.ok encoded.adjacency.length,
                  store.setGeneration compressor.generation generation)

/-- Compresses the first `degree` relationships of a node with the compressor of a number. What is
refused before anything is written leaves the targets and the store as they are, the buffers
included. -/
def compress (store : Store) (number : Nat) (part : Partition) (node : Nat)
    (targets : List UInt64) (channels : List (List Binary64)) (degree : Nat) : Compression :=
  match store.openCompressor? number with
  | none => ⟨.error (.fault .outOfBounds), targets, store⟩
  | some compressor =>
      match compressor.encode store.config part node targets channels degree with
      | .error failure => ⟨.error failure, targets, store⟩
      | .ok (encoded, compressor) =>
          let (outcome, store) :=
            (store.putBack number compressor).commit compressor.toCompressor part node degree
              encoded
          ⟨outcome, encoded.gaps ++ targets.drop degree, store⟩

/-! ## Freezing -/

/-- The lists of a store whose compressors are all closed. -/
def freeze (store : Store) : Except Failure Lists := do
  let adjacency ← store.current.adjacency.freeze.1
  let properties ← store.current.properties.freeze.1
  pure
    { rule := store.config.layoutRule
      relationshipCount := store.current.relationships
      directory := store.directory
      adjacency := adjacency
      properties :=
        if store.config.channelCount = 0 then none
        else some ⟨properties, store.config.channelCount⟩ }

end Store

/-! ## Interleaved compressors -/

/-- One action on a store. A compression goes through one of the partitions that the directory has
at the time. -/
inductive StoreAction where
  | createCompressor
  | compress (compressor : Nat) (part : PartitionChoice) (node : Nat) (targets : List UInt64)
      (channels : List (List Binary64)) (degree : Nat)
  | close (compressor : Nat)
  | reset (nodeCount : Nat)
  deriving DecidableEq, Repr

/-- The answer to an action on a store. -/
inductive StoreAnswer where
  | created (compressor : Nat)
  | compressed (outcome : Except Failure Nat) (targets : List UInt64)
  | closed
  | reset (outcome : Except Failure Unit)

namespace Store

/-- One action. -/
def step (store : Store) : StoreAction → StoreAnswer × Store
  | .createCompressor => (.created store.compressors.length, store.createCompressor)
  | .compress number choice node targets channels degree =>
      match store.directory.part choice with
      | .error fault => (.compressed (.error fault) targets, store)
      | .ok part =>
          let compression := store.compress number part node targets channels degree
          (.compressed compression.outcome compression.targets, compression.store)
  | .close number => (.closed, store.close number)
  | .reset nodeCount =>
      match store.reset nodeCount with
      | .error failure => (.reset (.error failure), store)
      | .ok store => (.reset (.ok ()), store)

/-- A sequence of actions and the answers to them. -/
def run (store : Store) : List StoreAction → List StoreAnswer × Store
  | [] => ([], store)
  | action :: rest =>
      let (answer, store) := store.step action
      let (answers, store) := store.run rest
      (answer :: answers, store)

theorem run_cons (store : Store) (action : StoreAction) (rest : List StoreAction) :
    store.run (action :: rest) =
      ((store.step action).1 :: ((store.step action).2.run rest).1,
        ((store.step action).2.run rest).2) :=
  rfl

end Store

end CompactAdjacency
