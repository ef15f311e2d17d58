import CompactAdjacency.Lists
import CompactAdjacency.Record.Extent

/-!
# Blobs

A blob is a whole structure as one byte string: numbers of fixed width, least significant byte
first, and lists led by their length. `Blob.write` writes one and `Blob.read` reads one off the
front of a byte string, so that bytes after it do not matter. What was read is not trusted before
`Blob.problem?` has compared the declared numbers with each other and walked every record that the
directory points to.
-/

namespace CompactAdjacency

/-- What a blob declares. -/
structure Blob where
  rule : LayoutRule
  relationshipCount : UInt64
  channelCount : UInt64
  directory : Directory
  adjacency : Arena
  properties : Option Arena
  deriving DecidableEq, Repr

/-! ## Writing -/

/-- The number that stands for a strategy. -/
def Strategy.tag : Strategy → Nat
  | .packed => 0
  | .varint => 1
  | .mixed => 2

/-- The strategy that a number stands for. -/
def Strategy.ofTag? : Nat → Option Strategy
  | 0 => some .packed
  | 1 => some .varint
  | 2 => some .mixed
  | _ => none

namespace Blob

/-- A list led by its length. -/
def writeList {α : Type} (write : α → Bytes) (items : List α) : Bytes :=
  littleEndian 8 items.length ++ items.flatMap write

/-- The pages of an arena. -/
def writeArena (arena : Arena) : Bytes :=
  writeList (fun page => littleEndian 8 page.length ++ page) arena.pages

/-- The three columns of a directory. -/
def writeDirectory (directory : Directory) : Bytes :=
  let writeAddress (address : Address) : Bytes := littleEndian 8 address.toWord.toNat
  writeList (fun degree => littleEndian 4 degree.toNat) directory.degrees.toList ++
    writeList writeAddress directory.adjacency.toList ++
    writeList writeAddress directory.properties.toList

/-- The bytes of a blob. -/
def write (blob : Blob) : Bytes :=
  littleEndian 4 blob.rule.strategy.tag ++
    littleEndian 8 blob.rule.threshold.toNat ++
    littleEndian 8 blob.relationshipCount.toNat ++
    littleEndian 8 blob.channelCount.toNat ++
    writeDirectory blob.directory ++
    writeArena blob.adjacency ++
    match blob.properties with
    | none => littleEndian 1 0
    | some arena => littleEndian 1 1 ++ writeArena arena

/-! ## Reading -/

/-- What reads a value off the front of a byte string, which has to be long enough. -/
abbrev Reader (α : Type) := Bytes → Except BlobCause (α × Bytes)

/-- Reads a number of `width` bytes. -/
def readNumber (width : Nat) : Reader Nat := fun bytes =>
  match cut? width bytes with
  | none => .error .unexpectedEnd
  | some (front, rest) => .ok (ofLittleEndian front, rest)

/-- Reads `count` values. -/
def readMany {α : Type} (read : Reader α) : Nat → Reader (List α)
  | 0, bytes => .ok ([], bytes)
  | count + 1, bytes => do
      let (item, bytes) ← read bytes
      let (items, bytes) ← readMany read count bytes
      pure (item :: items, bytes)

/-- Reads a list led by its length. -/
def readList {α : Type} (read : Reader α) : Reader (List α) := fun bytes => do
  let (count, bytes) ← readNumber 8 bytes
  readMany read count bytes

/-- Reads a page. -/
def readPage : Reader Bytes := fun bytes => do
  let (length, bytes) ← readNumber 8 bytes
  match cut? length bytes with
  | none => .error .unexpectedEnd
  | some (page, rest) => .ok (page, rest)

/-- Reads an arena. -/
def readArena : Reader Arena := fun bytes => do
  let (pages, bytes) ← readList readPage bytes
  pure (⟨pages⟩, bytes)

/-- Reads an address. -/
def readAddress : Reader Address := fun bytes => do
  let (word, bytes) ← readNumber 8 bytes
  pure (.ofWord word.toUInt64, bytes)

/-- Reads a degree. -/
def readDegree : Reader UInt32 := fun bytes => do
  let (degree, bytes) ← readNumber 4 bytes
  pure (degree.toUInt32, bytes)

/-- Reads the three columns of a directory. -/
def readDirectory : Reader Directory := fun bytes => do
  let (degrees, bytes) ← readList readDegree bytes
  let (adjacency, bytes) ← readList readAddress bytes
  let (properties, bytes) ← readList readAddress bytes
  pure (⟨degrees.toArray, adjacency.toArray, properties.toArray⟩, bytes)

/-- Reads a layout rule. -/
def readRule : Reader LayoutRule := fun bytes => do
  let (tag, bytes) ← readNumber 4 bytes
  match Strategy.ofTag? tag with
  | none => .error (.unknownStrategy tag)
  | some strategy => do
      let (threshold, bytes) ← readNumber 8 bytes
      pure (⟨strategy, threshold.toUInt64⟩, bytes)

/-- Reads the property arena, if there is one. -/
def readProperties : Reader (Option Arena) := fun bytes => do
  let (tag, bytes) ← readNumber 1 bytes
  match tag with
  | 0 => pure (none, bytes)
  | 1 => do
      let (arena, bytes) ← readArena bytes
      pure (some arena, bytes)
  | _ => .error (.unknownOption tag)

/-- Reads a blob. -/
def read : Reader Blob := fun bytes => do
  let (rule, bytes) ← readRule bytes
  let (relationshipCount, bytes) ← readNumber 8 bytes
  let (channelCount, bytes) ← readNumber 8 bytes
  let (directory, bytes) ← readDirectory bytes
  let (adjacency, bytes) ← readArena bytes
  let (properties, bytes) ← readProperties bytes
  pure
    ({ rule := rule
       relationshipCount := relationshipCount.toUInt64
       channelCount := channelCount.toUInt64
       directory := directory
       adjacency := adjacency
       properties := properties }, bytes)

/-! ## Checking -/

/-- Whether the address column of a directory leads a node to bytes that pass a test. -/
def leadsTo (arena : Arena) (column : Array Address) (node : Nat) (test : Bytes → Bool) : Bool :=
  match column[node]?.bind arena.bytesAt? with
  | none => false
  | some bytes => test bytes

/-- Whether the neighbor record of a node lies inside its page. -/
def adjacencyFits (blob : Blob) (node : Nat) : Bool :=
  let degree := blob.directory.degree node
  let headerLength := (blob.rule.layout degree).headerLength degree
  leadsTo blob.adjacency blob.directory.adjacency node fun bytes =>
    (Record.extent? bytes headerLength degree).isSome

/-- Whether the property record of a node lies inside its page of an arena. -/
def propertiesFit (blob : Blob) (arena : Arena) (node : Nat) : Bool :=
  let degree := blob.directory.degree node
  leadsTo arena blob.directory.properties node fun bytes =>
    match blob.rule.layout degree with
    | .packed =>
        (Record.extents? bytes (Layout.packed.headerLength degree) degree
          blob.channelCount.toNat).isSome
    | .varint => blob.channelCount.toNat * (degree * Binary64.byteCount) ≤ bytes.length

/-- What is wrong with the records of a node, if anything. -/
def nodeProblem? (blob : Blob) (node : Nat) : Option BlobCause :=
  if blob.directory.degree node = 0 then none
  else if !blob.adjacencyFits node then some (.adjacencyOverrun node)
  else
    match blob.properties with
    | none => none
    | some arena => if blob.propertiesFit arena node then none else some (.propertyOverrun node)

/-- What is wrong with a blob, if anything: declared numbers that contradict each other, or the
first record that overruns its page. -/
def problem? (blob : Blob) : Option BlobCause :=
  if blob.properties.isSome ≠ (blob.channelCount > 0) then
    some (.channelsDisagree blob.channelCount.toNat blob.properties.isSome)
  else if !blob.directory.isAligned then some .arraysDiffer
  else if blob.directory.relationshipCount ≠ blob.relationshipCount.toNat then
    some (.relationshipsDisagree blob.relationshipCount.toNat blob.directory.relationshipCount)
  else (List.range blob.directory.nodeCount).findSome? blob.nodeProblem?

/-! ## Blobs and structures -/

/-- What the blob of a structure declares. -/
def ofLists (lists : Lists) : Blob :=
  { rule := lists.rule
    relationshipCount := lists.relationshipCount
    channelCount := (lists.properties.map Properties.channelCount).getD 0
    directory := lists.directory
    adjacency := lists.adjacency
    properties := lists.properties.map Properties.arena }

/-- The structure that a blob declares. -/
def toLists (blob : Blob) : Lists :=
  { rule := blob.rule
    relationshipCount := blob.relationshipCount
    directory := blob.directory
    adjacency := blob.adjacency
    properties := blob.properties.map fun arena => ⟨arena, blob.channelCount⟩ }

end Blob

namespace Lists

/-- The blob of a structure. -/
def toBytes (lists : Lists) : Bytes := (Blob.ofLists lists).write

/-- The structure whose blob is at the front of a byte string. -/
def ofBytes (bytes : Bytes) : Except Failure Lists :=
  match Blob.read bytes with
  | .error cause => .error (.blob cause)
  | .ok (blob, _) =>
      match blob.problem? with
      | some cause => .error (.blob cause)
      | none => .ok blob.toLists

end Lists

end CompactAdjacency
