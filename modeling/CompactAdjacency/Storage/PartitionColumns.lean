import CompactAdjacency.Storage.Directory

/-!
# Directories cut into partitions

Workers that share the nodes of a directory each hold a piece of every one of its columns. The
columns are cut into chunks of one size, the last one apart, and the chunks of one number make up
the columns of a partition. A node is written at its position in the chunks of its partition, and
the chunks put together again are the directory.
-/

namespace CompactAdjacency

/-- The columns of a directory as far as a partition holds them, `start` being its first node. -/
structure PartitionColumns where
  start : Nat
  degrees : List UInt32
  adjacency : List Address
  properties : List Address
  deriving DecidableEq, Repr

/-- A write of the entry of a node through the partition of an index. -/
structure PartitionWrite where
  index : Nat
  node : Nat
  entry : DirectoryEntry
  deriving DecidableEq, Repr

namespace PartitionColumns

/-- The nodes of a partition. -/
def range (columns : PartitionColumns) : Partition :=
  ⟨columns.start, columns.start + columns.degrees.length⟩

/-- Writes the entry of a node in all three columns. -/
def set (columns : PartitionColumns) (node : Nat) (entry : DirectoryEntry) :
    Except Failure Unit × PartitionColumns :=
  match columns.range.locate node with
  | .error failure => (.error failure, columns)
  | .ok index =>
      let columns := { columns with degrees := columns.degrees.set index entry.degree }
      if columns.adjacency.length ≤ index then (.error (.fault .outOfBounds), columns)
      else
        let columns := { columns with adjacency := columns.adjacency.set index entry.adjacency }
        if columns.properties.length ≤ index then (.error (.fault .outOfBounds), columns)
        else
          (.ok (), { columns with properties := columns.properties.set index entry.properties })

/-- Writes through one of several partitions. -/
def write (parts : List PartitionColumns) (write : PartitionWrite) :
    Except Failure Unit × List PartitionColumns :=
  match parts[write.index]? with
  | none => (.error (.fault .outOfBounds), parts)
  | some columns =>
      let (outcome, columns) := columns.set write.node write.entry
      (outcome, parts.set write.index columns)

/-- Writes one after another, whatever comes of those before. -/
def writeAll (parts : List PartitionColumns) :
    List PartitionWrite → List (Except Failure Unit) × List PartitionColumns
  | [] => ([], parts)
  | next :: writes =>
      let (outcome, parts) := write parts next
      let (outcomes, parts) := writeAll parts writes
      (outcome :: outcomes, parts)

/-- The columns of several partitions put together. -/
def join (parts : List PartitionColumns) : Directory where
  degrees := (parts.flatMap degrees).toArray
  adjacency := (parts.flatMap adjacency).toArray
  properties := (parts.flatMap properties).toArray

end PartitionColumns

namespace Directory

/-- The chunks of one size that a column is cut into, the last one apart. -/
def chunks {α : Type} (size : Nat) (column : List α) : List (List α) :=
  (List.range ((column.length + size - 1) / size)).map fun index =>
    (column.drop (index * size)).take size

/-- At most `count` partitions with the chunks of all three columns, as far as every column has
them. -/
def cut (directory : Directory) (count : Nat) : List PartitionColumns :=
  let size := directory.partitionSize count
  (((chunks size directory.degrees.toList).zip
      (chunks size directory.adjacency.toList)).zip
    (chunks size directory.properties.toList)).mapIdx
      fun index ((degrees, adjacency), properties) =>
        ⟨index * size, degrees, adjacency, properties⟩

/-- Writes the entries of nodes one after another through the partition of all nodes. -/
def setAll (directory : Directory) :
    List PartitionWrite → List (Except Failure Unit) × Directory
  | [] => ([], directory)
  | next :: writes =>
      let (outcome, directory) := directory.set directory.whole next.node next.entry
      let (outcomes, directory) := directory.setAll writes
      (outcome :: outcomes, directory)

end Directory

end CompactAdjacency
