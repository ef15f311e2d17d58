import CompactAdjacency.Storage.Address

/-!
# Directories

A directory says for every node how many relationships it has and where its records are. It is
written through partitions, ranges of consecutive nodes that may be given to different workers: a
node outside of a partition is refused and changes nothing. The three columns of a directory have
one length when it is made here, but not when it was read from a blob, and a write to a node that a
column lacks faults there, after the columns before it have been written.
-/

namespace CompactAdjacency

/-- The degree and the record addresses of every node. -/
structure Directory where
  degrees : Array UInt32
  adjacency : Array Address
  properties : Array Address
  deriving DecidableEq, Repr, Inhabited

/-- What a directory holds for one node. -/
structure DirectoryEntry where
  degree : UInt32
  adjacency : Address
  properties : Address
  deriving DecidableEq, Repr, Inhabited

/-- The nodes from `start` up to `stop`, `stop` not included. -/
structure Partition where
  start : Nat
  stop : Nat
  deriving DecidableEq, Repr, Inhabited

namespace Partition

/-- The number of nodes. -/
def size (part : Partition) : Nat := part.stop - part.start

/-- The position of a node in its partition, or a refusal of a node outside of it. -/
def locate (part : Partition) (node : Nat) : Except Failure Nat :=
  if part.start ≤ node ∧ node < part.stop then .ok (node - part.start)
  else .error (.nodeOutOfPartition node part.start part.stop)

end Partition

/-- A choice of one of the partitions of a directory: all nodes, or one of those that `count`
workers share. -/
inductive PartitionChoice where
  | whole
  | share (count index : Nat)
  deriving DecidableEq, Repr

namespace Directory

/-- The number of bytes of one node's entry. -/
def entrySize : Nat := 4 + 2 * 8

/-- A directory of nodes without relationships; refused if a column of it is too large. -/
def ofNodeCount (nodeCount : Nat) : Except Failure Directory :=
  if 4 * nodeCount ≥ allocationLimit then .error (.capacityExhausted (4 * nodeCount))
  else if 8 * nodeCount ≥ allocationLimit then .error (.capacityExhausted (8 * nodeCount))
  else .ok
    { degrees := Array.replicate nodeCount 0
      adjacency := Array.replicate nodeCount .zero
      properties := Array.replicate nodeCount .zero }

/-- The number of nodes. -/
def nodeCount (directory : Directory) : Nat := directory.degrees.size

/-- The number of relationships of a node, zero for nodes out of range. -/
def degree (directory : Directory) (node : Nat) : Nat :=
  (directory.degrees[node]?.getD 0).toNat

/-- The entry of an address column at a node. -/
def lookup (column : Array Address) (node : Nat) : Except Fault Address :=
  match column[node]? with
  | some address => .ok address
  | none => .error .outOfBounds

/-- The number of relationships of all nodes, counted in 64 bits. -/
def relationshipCount (directory : Directory) : Nat :=
  (directory.degrees.foldl (fun total degree => total + degree.toUInt64) (0 : UInt64)).toNat

/-- Whether the three columns cover the same nodes. -/
def isAligned (directory : Directory) : Bool :=
  directory.adjacency.size = directory.degrees.size &&
    directory.properties.size = directory.degrees.size

/-- The number of bytes of the three columns. -/
def byteSize (directory : Directory) : Nat := directory.nodeCount * entrySize

/-! ## Partitions -/

/-- The partition of all nodes. -/
def whole (directory : Directory) : Partition := ⟨0, directory.nodeCount⟩

/-- The number of nodes in each of at most `count` partitions, the last one apart. -/
def partitionSize (directory : Directory) (count : Nat) : Nat :=
  max 1 ((directory.nodeCount + max count 1 - 1) / max count 1)

/-- At most `count` partitions of one size, the last one apart, that cover every node. Columns of
different lengths are covered as far as the shortest one. -/
def partitions (directory : Directory) (count : Nat) : List Partition :=
  let size := directory.partitionSize count
  let chunks (length : Nat) : Nat := (length + size - 1) / size
  let number := min (chunks directory.nodeCount)
    (min (chunks directory.adjacency.size) (chunks directory.properties.size))
  (List.range number).map fun index =>
    ⟨index * size, min ((index + 1) * size) directory.nodeCount⟩

/-- The partition of a choice. -/
def part (directory : Directory) : PartitionChoice → Except Fault Partition
  | .whole => .ok directory.whole
  | .share count index =>
      match (directory.partitions count)[index]? with
      | some part => .ok part
      | none => .error .outOfBounds

/-! ## Writing -/

/-- Writes the entry of a node through a partition. -/
def set (directory : Directory) (part : Partition) (node : Nat) (entry : DirectoryEntry) :
    Except Failure Unit × Directory :=
  match part.locate node with
  | .error failure => (.error failure, directory)
  | .ok _ =>
      let directory :=
        { directory with degrees := directory.degrees.setIfInBounds node entry.degree }
      if directory.adjacency.size ≤ node then (.error (.fault .outOfBounds), directory)
      else
        let directory :=
          { directory with adjacency := directory.adjacency.setIfInBounds node entry.adjacency }
        if directory.properties.size ≤ node then (.error (.fault .outOfBounds), directory)
        else
          (.ok (),
            { directory with
              properties := directory.properties.setIfInBounds node entry.properties })

/-- The degree of a node, read through a partition. -/
def degreeIn (directory : Directory) (part : Partition) (node : Nat) : Except Failure Nat :=
  (part.locate node).map fun _ => directory.degree node

end Directory

end CompactAdjacency
