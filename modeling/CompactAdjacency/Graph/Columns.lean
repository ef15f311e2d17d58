import CompactAdjacency.Graph

/-!
# Graphs in rows and columns

While a graph is read, each node up to the largest one with a line has a row, and what its lines say
is put at the end of it. A graph that was read has its arcs in one column for their targets and, if
it is weighted, another one for their weights. The arcs of a node are those between its offset and
that of the next node.
-/

namespace CompactAdjacency

/-- A graph while it is read. -/
structure GraphRows where
  /-- One more than the largest node that was named, zero if none was. -/
  nodeCount : Nat
  arcCount : Nat
  /-- The arcs of each node up to the largest one with a line. -/
  rows : List (List Arc)
  deriving DecidableEq, Repr

/-- A graph that was read. -/
structure GraphColumns where
  nodeCount : Nat
  arcCount : Nat
  targets : List UInt64
  /-- A weight for each target, if the graph is weighted. -/
  weights : Option (List Binary64)
  /-- Where the arcs of each node start, and after the last node where they end. -/
  offsets : List Nat
  deriving DecidableEq, Repr

namespace GraphColumns

/-! ## The arcs of a node -/

/-- The part of a column between the offset of a node and that of the next one. -/
def slice {α : Type} (columns : GraphColumns) (column : List α) (node : Nat) :
    Except Failure (List α) :=
  match columns.offsets[node]?, columns.offsets[node + 1]? with
  | some start, some stop =>
      if start ≤ stop ∧ stop ≤ column.length then .ok ((column.drop start).take (stop - start))
      else .error (.fault .outOfBounds)
  | _, _ => .error (.fault .outOfBounds)

/-- The successors of a node, none if there is no such node. -/
def successors (columns : GraphColumns) (node : Nat) : Except Failure (List UInt64) :=
  if columns.nodeCount ≤ node then .ok [] else columns.slice columns.targets node

/-- The weights of the successors of a node, if the graph is weighted. -/
def weights? (columns : GraphColumns) (node : Nat) : Except Failure (Option (List Binary64)) :=
  match columns.weights with
  | none => .ok none
  | some weights =>
      if columns.nodeCount ≤ node then .ok (some [])
      else (columns.slice weights node).map some

/-- Puts the arcs of the next node at the end of the columns. -/
def putRow (columns : GraphColumns) (row : List Arc) : GraphColumns :=
  let targets := columns.targets ++ row.map Arc.target
  { columns with
    targets
    weights := columns.weights.map (· ++ row.map fun arc => arc.weight.getD .one)
    offsets := columns.offsets ++ [targets.length] }

end GraphColumns

namespace GraphRows

/-! ## Reading and building -/

/-- A graph without nodes. -/
def empty : GraphRows := ⟨0, 0, []⟩

/-- Rows for all nodes up to a node. More rows than memory can hold are a fault. -/
def grow (rows : List (List Arc)) (node : Nat) : Except Failure (List (List Arc)) :=
  if node < rows.length then .ok rows
  else if (node + 1) * listSize ≥ allocationLimit then .error (.fault .outOfBounds)
  else .ok (rows ++ List.replicate (node + 1 - rows.length) [])

/-- Puts the arcs of a line at the end of the row of its node. -/
def addLine (graph : GraphRows) (node : Nat) (arcs : List Arc) : Except Failure GraphRows := do
  let rows ← grow graph.rows node
  match rows[node]? with
  | none => .error (.fault .outOfBounds)
  | some row =>
      .ok
        { nodeCount :=
            max (arcs.foldl (fun count arc => max count (arc.target.toNat + 1)) graph.nodeCount)
              (node + 1)
          arcCount := graph.arcCount + arcs.length
          rows := rows.set node (row ++ arcs) }

/-- Adds the lines of a text, numbered from one, to a graph. -/
def addText (ids : Graph.IdType) (graph : GraphRows) (text : List Char) :
    Except Failure GraphRows :=
  ((Text.lines text).zipIdx 1).foldlM
    (fun graph (line, number) =>
      if (Text.trim line).isEmpty then .ok graph
      else do
        let (node, arcs) ← Graph.readLine ids number line
        graph.addLine node arcs)
    graph

/-- Puts the rows of all nodes into columns. A graph with a weight is weighted, and more offsets
than memory can hold are a fault. -/
def build (graph : GraphRows) : Except Failure GraphColumns :=
  if (graph.nodeCount + 1) * 8 ≥ allocationLimit then .error (.fault .outOfBounds)
  else
    let weighted := graph.rows.any fun row => row.any fun arc => arc.weight.isSome
    .ok ((List.range graph.nodeCount).foldl
      (fun columns node => columns.putRow (graph.rows[node]?.getD []))
      ⟨graph.nodeCount, graph.arcCount, [], if weighted then some [] else none, [0]⟩)

end GraphRows

end CompactAdjacency
