import CompactAdjacency.Build
import CompactAdjacency.Text.Blank
import CompactAdjacency.Text.Integer
import CompactAdjacency.Value.DecimalReading

/-!
# Graphs in text

A graph is written line by line: a node, and after it its successors, each in a field of its own
between tabs. A successor may carry a weight after a colon. Lines come in any order and a node may
have several of them; blank lines and blank fields mean nothing.

`Graph.read` reads texts one after another into one graph and refuses the first piece of the first
line that is not as it should be. A graph keeps its lines, so that the arcs of a node are those on
its lines, in the order of the text. `Graph.toSource` hands them to a build.
-/

namespace CompactAdjacency

/-! ## Graphs -/

/-- A successor of a node, with its weight if it carries one. -/
structure Arc where
  target : UInt64
  weight : Option Binary64
  deriving DecidableEq, Repr, Inhabited

/-- A graph as it was read. -/
structure Graph where
  /-- One more than the largest node that was named, zero if none was. -/
  nodeCount : Nat
  /-- The nodes of the lines and the arcs on them, in the order of the text. -/
  lines : List (Nat × List Arc)
  deriving DecidableEq, Repr, Inhabited

namespace Graph

/-- A graph without nodes. -/
def empty : Graph := ⟨0, []⟩

/-- The arcs of a node, in the order of the text. -/
def arcs (graph : Graph) (node : Nat) : List Arc :=
  (graph.lines.filter fun line => line.1 = node).flatMap Prod.snd

/-- The number of arcs. -/
def arcCount (graph : Graph) : Nat := (graph.lines.flatMap Prod.snd).length

/-- The successors of a node, in the order of the text. -/
def successors (graph : Graph) (node : Nat) : List UInt64 := (graph.arcs node).map Arc.target

/-- The successors of a node, ascending. -/
def sortedSuccessors (graph : Graph) (node : Nat) : List UInt64 :=
  (graph.successors node).mergeSort fun left right => left ≤ right

/-- Whether some arc carries a weight. -/
def isWeighted (graph : Graph) : Bool :=
  graph.lines.any fun line => line.2.any fun arc => arc.weight.isSome

/-- The weights of the arcs of a node, if the graph is weighted. An arc without a weight weighs
one. -/
def weights? (graph : Graph) (node : Nat) : Option (List Binary64) :=
  if graph.isWeighted then some ((graph.arcs node).map fun arc => arc.weight.getD .one) else none

/-- The number of property channels of a graph: one for its weights. -/
def channelCount (graph : Graph) : UInt64 := if graph.isWeighted then 1 else 0

/-! ## Reading -/

/-- The numbers that are read as successors. -/
inductive IdType where
  | unsigned (bits : Nat)
  | signed (bits : Nat)
  deriving DecidableEq, Repr

/-- The number that a text denotes, if it is of a type. -/
def IdType.read? : IdType → List Char → Option Int
  | .unsigned bits, text => (Text.unsigned? ((1 <<< bits) - 1) text).map Int.ofNat
  | .signed bits, text =>
      let half := Int.ofNat (1 <<< (bits - 1))
      Text.signed? (-half) (half - 1) text

/-- Reads a piece of a line, blanks at its ends apart, or refuses it as it stands. -/
def readPiece {α : Type} (read : List Char → Option α) (number : Nat) (piece : List Char) :
    Except Failure α :=
  match read (Text.trim piece) with
  | some value => .ok value
  | none => .error (.malformedToken number (String.ofList piece))

/-- Reads the field of a successor on the line of a number. A negative successor is refused with its
whole field. -/
def readArc (ids : IdType) (number : Nat) (field : List Char) : Except Failure Arc := do
  let (id, weight) ←
    match Text.splitOnce ':' field with
    | some (before, after) => do
        let id ← readPiece ids.read? number before
        let weight ← readPiece Binary64.ofText? number after
        pure (id, some weight)
    | none => do
        let id ← readPiece ids.read? number field
        pure (id, none)
  if id < 0 then .error (.malformedToken number (String.ofList field))
  else pure ⟨id.toNat.toUInt64, weight⟩

/-- Reads a line that is not blank. -/
def readLine (ids : IdType) (number : Nat) (line : List Char) :
    Except Failure (Nat × List Arc) :=
  match Text.splitOn '\t' line with
  | [] => .error (.malformedToken number "")
  | first :: fields => do
      let node ← readPiece (Text.unsigned? (UInt64.size - 1)) number first
      let arcs ← (fields.filter fun field => !(Text.trim field).isEmpty).mapM (readArc ids number)
      pure (node, arcs)

/-- Adds a line to a graph. There are lists for all nodes up to the largest one with a line, and
more lists than memory can hold are a fault. -/
def addLine (graph : Graph) (node : Nat) (arcs : List Arc) : Except Failure Graph :=
  if (node + 1) * listSize ≥ allocationLimit then .error (.fault .outOfBounds)
  else
    .ok
      { nodeCount :=
          arcs.foldl (fun count arc => max count (arc.target.toNat + 1))
            (max graph.nodeCount (node + 1))
        lines := graph.lines ++ [(node, arcs)] }

/-- Adds the lines of a text, numbered from one, to a graph. -/
def addText (ids : IdType) (graph : Graph) (text : List Char) : Except Failure Graph :=
  ((Text.lines text).zipIdx 1).foldlM
    (fun graph (line, number) =>
      if (Text.trim line).isEmpty then .ok graph
      else do
        let (node, arcs) ← readLine ids number line
        graph.addLine node arcs)
    graph

/-- Adds the lines of a file to a graph. -/
def addFile (ids : IdType) (graph : Graph) (content : Except FileCause Bytes) :
    Except Failure Graph :=
  match content with
  | .error cause => .error (.file cause)
  | .ok bytes =>
      match String.fromUTF8? ⟨bytes.toArray⟩ with
      | none => .error (.file .notUnicode)
      | some text => addText ids graph text.toList

/-- A graph that was read, unless memory cannot hold a position for each of its nodes. -/
def finish (graph : Graph) : Except Failure Graph :=
  if (graph.nodeCount + 1) * 8 ≥ allocationLimit then .error (.fault .outOfBounds) else .ok graph

/-! ## Building -/

/-- The relationships of a graph, with their weights in a channel. -/
def toSource (graph : Graph) : Source where
  nodeCount := graph.nodeCount
  channelCount := graph.channelCount
  fill node batch :=
    .ok
      { targets := batch.targets ++ graph.successors node
        channels :=
          match graph.weights? node, batch.channels with
          | some weights, channel :: channels => (channel ++ weights) :: channels
          | _, channels => channels }

end Graph

end CompactAdjacency
