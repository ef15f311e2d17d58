import Mathlib
import CompactAdjacency.Graph.Columns
import CompactAdjacency.Proofs.Graph.Grammar

/-!
# What rows and columns hold

The rows of a graph that is read hold the arcs of its lines, `addText_rows`, and the columns that
are made of the rows hold them one node after another, `build_rows`. The offset of a node is the
number of arcs of the nodes before it, so that the part of a column between it and the next one is
within the column, and has what the lines of the node say, `successors_columns` and
`weights?_columns`.
-/

namespace CompactAdjacency

/-! ## The least number above some numbers -/

/-- The least number above all of some numbers. -/
def leastAbove : List Nat → Nat
  | [] => 0
  | number :: numbers => max (number + 1) (leastAbove numbers)

theorem leastAbove_le_iff {numbers : List Nat} {bound : Nat} :
    leastAbove numbers ≤ bound ↔ ∀ number ∈ numbers, number < bound := by
  induction numbers with
  | nil => simp [leastAbove]
  | cons number numbers ih =>
      rw [leastAbove, Nat.max_le, ih, List.forall_mem_cons, Nat.succ_le_iff]

theorem isLeast_leastAbove (numbers : List Nat) :
    IsLeast {bound | ∀ number ∈ numbers, number < bound} (leastAbove numbers) :=
  ⟨leastAbove_le_iff.mp le_rfl, fun _ hbound => leastAbove_le_iff.mpr hbound⟩

theorem leastAbove_append (numbers others : List Nat) :
    leastAbove (numbers ++ others) = max (leastAbove numbers) (leastAbove others) := by
  induction numbers with
  | nil => simp [leastAbove]
  | cons number numbers ih => rw [List.cons_append, leastAbove, leastAbove, ih, Nat.max_assoc]

/-- It depends on nothing but which numbers there are. -/
theorem leastAbove_congr {numbers others : List Nat}
    (h : ∀ number, number ∈ numbers ↔ number ∈ others) :
    leastAbove numbers = leastAbove others := by
  refine (isLeast_leastAbove numbers).unique ?_
  simp only [h]
  exact isLeast_leastAbove others

/-- Counting on from a count comes to the larger of both. -/
theorem foldl_max_eq {α : Type} (number : α → Nat) (items : List α) (count : Nat) :
    items.foldl (fun count item => max count (number item + 1)) count =
      max count (leastAbove (items.map number)) := by
  induction items generalizing count with
  | nil => simp [leastAbove]
  | cons item items ih => rw [List.foldl_cons, ih, List.map_cons, leastAbove, Nat.max_assoc]

namespace Graph

variable {graph other after : Graph} {node : Nat} {arcs : List Arc}

/-! ## The nodes of a graph -/

/-- The nodes that the lines of a graph name, as their own or as successors. -/
def named (graph : Graph) : List Nat :=
  graph.lines.flatMap fun line => line.1 :: line.2.map fun arc => arc.target.toNat

/-- A graph has all nodes up to the largest one that is named. -/
def Counted (graph : Graph) : Prop := graph.nodeCount = leastAbove graph.named

theorem Counted.addLine (h : graph.Counted) (hadd : graph.addLine node arcs = .ok after) :
    after.Counted := by
  obtain ⟨-, rfl⟩ := addLine_eq_ok_iff.mp hadd
  unfold Counted at h ⊢
  simp only [named, List.flatMap_append, List.flatMap_singleton, leastAbove_append, leastAbove]
  rw [foldl_max_eq, h, named, Nat.max_assoc]

/-- A graph that was read has all nodes up to the largest one that its text names. -/
theorem counted_of_addText {ids : IdType} {text : List Char}
    (hread : addText ids .empty text = .ok graph) : graph.Counted := by
  have hempty : empty.Counted := rfl
  refine foldlM_preserves ?_ hempty hread
  rintro before ⟨line, number⟩ after hbefore hline
  dsimp only at hline
  split at hline
  case isTrue hblank =>
    obtain rfl := Except.ok.inj hline
    exact hbefore
  case isFalse hwritten =>
    obtain ⟨⟨node, arcs⟩, -, hadd⟩ := bind_eq_ok_iff.mp hline
    exact hbefore.addLine hadd

/-- Every node that is named is a node of the graph. -/
theorem Counted.lt_of_named (h : graph.Counted) (hnode : node ∈ graph.named) :
    node < graph.nodeCount := by
  rw [h]
  exact (isLeast_leastAbove _).1 node hnode

/-- Every line is of a node of the graph. -/
theorem Counted.lt_of_mem (h : graph.Counted) {line : Nat × List Arc} (hline : line ∈ graph.lines) :
    line.1 < graph.nodeCount :=
  h.lt_of_named (List.mem_flatMap.mpr ⟨line, hline, List.mem_cons_self⟩)

/-! ## The arcs of a node -/

theorem mem_arcs_iff {arc : Arc} :
    arc ∈ graph.arcs node ↔ ∃ line ∈ graph.lines, line.1 = node ∧ arc ∈ line.2 := by
  simp [arcs, and_assoc]

theorem arcs_addLine (count : Nat) (line : Nat × List Arc) (node : Nat) :
    Graph.arcs ⟨count, graph.lines ++ [line]⟩ node =
      graph.arcs node ++ if line.1 = node then line.2 else [] := by
  unfold Graph.arcs
  rw [List.filter_append, List.flatMap_append, List.filter_singleton]
  by_cases hnode : line.1 = node <;> simp [hnode]

/-- One more than the largest node with a line. -/
def rowCount (graph : Graph) : Nat := leastAbove (graph.lines.map Prod.fst)

theorem arcs_eq_nil (h : graph.rowCount ≤ node) : graph.arcs node = [] := by
  rw [List.eq_nil_iff_forall_not_mem]
  intro arc harc
  obtain ⟨line, hline, rfl, -⟩ := mem_arcs_iff.mp harc
  exact absurd (leastAbove_le_iff.mp le_rfl line.1 (List.mem_map_of_mem hline)) (Nat.not_lt.mpr h)

/-- There are no more rows than nodes. -/
theorem Counted.rowCount_le (h : graph.Counted) : graph.rowCount ≤ graph.nodeCount := by
  refine leastAbove_le_iff.mpr fun node hnode => ?_
  obtain ⟨line, hline, rfl⟩ := List.mem_map.mp hnode
  exact h.lt_of_mem hline

/-! ## Rows -/

/-- A graph with a row for each node up to the largest one with a line. -/
def rows (graph : Graph) : GraphRows :=
  ⟨graph.nodeCount, graph.arcCount, (List.range graph.rowCount).map graph.arcs⟩

/-- Memory has room for the rows of a graph. -/
def FitsRows (graph : Graph) : Prop := graph.rowCount * listSize < allocationLimit

theorem fitsRows_empty : empty.FitsRows := by
  have hlimit : 0 < allocationLimit := Nat.lt_of_lt_of_le (by decide) size_le_allocationLimit
  simpa [FitsRows, rowCount, empty, leastAbove] using hlimit

theorem rowCount_addLine (count : Nat) (line : Nat × List Arc) :
    rowCount ⟨count, graph.lines ++ [line]⟩ = max graph.rowCount (line.1 + 1) := by
  simp [rowCount, leastAbove_append, leastAbove]

theorem FitsRows.addLine (h : graph.FitsRows) (hadd : graph.addLine node arcs = .ok after) :
    after.FitsRows := by
  obtain ⟨hfits, rfl⟩ := addLine_eq_ok_iff.mp hadd
  unfold FitsRows at h ⊢
  rw [rowCount_addLine]
  rcases Nat.le_total graph.rowCount (node + 1) with hle | hle
  · rwa [Nat.max_eq_right hle]
  · rwa [Nat.max_eq_left hle]

/-- Empty rows are put behind those there are until there is one for a node. -/
theorem grow_rows (h : graph.FitsRows) (node : Nat) :
    GraphRows.grow graph.rows.rows node =
      if (node + 1) * listSize ≥ allocationLimit then .error (.fault .outOfBounds)
      else .ok ((List.range (max graph.rowCount (node + 1))).map graph.arcs) := by
  have hlength : graph.rows.rows.length = graph.rowCount := by simp [rows]
  unfold FitsRows at h
  rw [GraphRows.grow, hlength]
  by_cases hinside : node < graph.rowCount
  · have hfits : ¬ (node + 1) * listSize ≥ allocationLimit :=
      Nat.not_le.mpr ((Nat.mul_le_mul_right _ hinside).trans_lt h)
    rw [if_pos hinside, if_neg hfits, Nat.max_eq_left hinside]
    rfl
  · have hmore : max graph.rowCount (node + 1) =
        graph.rowCount + (node + 1 - graph.rowCount) := by omega
    have hempty : (List.range (node + 1 - graph.rowCount)).map
        (fun index => graph.arcs (graph.rowCount + index)) =
          List.replicate (node + 1 - graph.rowCount) [] := by
      rw [List.eq_replicate_iff]
      refine ⟨by simp, ?_⟩
      intro row hrow
      obtain ⟨index, -, rfl⟩ := List.mem_map.mp hrow
      exact arcs_eq_nil (Nat.le_add_right _ _)
    rw [if_neg hinside, hmore, List.range_add, List.map_append, List.map_map]
    rw [← hempty]
    rfl

/-- The arcs of a line are put at the end of the row of its node. -/
theorem set_rows (count number node : Nat) (arcs : List Arc) :
    ((List.range number).map graph.arcs).set node (graph.arcs node ++ arcs) =
      (List.range number).map (Graph.arcs ⟨count, graph.lines ++ [(node, arcs)]⟩) := by
  apply List.ext_getElem
  · simp
  · intro index hindex hindex'
    rw [List.getElem_set, List.getElem_map, List.getElem_map, List.getElem_range, arcs_addLine]
    by_cases hsame : node = index
    · simp [hsame]
    · simp [hsame]

/-- A line is put into the row of its node. -/
theorem addLine_rows (h : graph.FitsRows) (node : Nat) (arcs : List Arc) :
    graph.rows.addLine node arcs = (graph.addLine node arcs).map rows := by
  rw [GraphRows.addLine, grow_rows h, Graph.addLine]
  by_cases hfull : (node + 1) * listSize ≥ allocationLimit
  · rw [if_pos hfull, if_pos hfull]
    rfl
  · have hnode : node < max graph.rowCount (node + 1) :=
      (Nat.lt_succ_self node).trans_le (Nat.le_max_right _ _)
    have hrow : ((List.range (max graph.rowCount (node + 1))).map graph.arcs)[node]? =
        some (graph.arcs node) := by
      rw [List.getElem?_map, List.getElem?_range hnode, Option.map_some]
    have hcount : max (arcs.foldl (fun count arc => max count (arc.target.toNat + 1))
        graph.nodeCount) (node + 1) =
          arcs.foldl (fun count arc => max count (arc.target.toNat + 1))
            (max graph.nodeCount (node + 1)) := by
      rw [foldl_max_eq, foldl_max_eq]
      omega
    rw [if_neg hfull, if_neg hfull]
    simp only [bind, Except.bind, Except.map, hrow, rows, rowCount_addLine, hcount]
    rw [set_rows (arcs.foldl (fun count arc => max count (arc.target.toNat + 1))
      (max graph.nodeCount (node + 1)))]
    simp [arcCount]

/-- A text is put into rows as it is read. -/
theorem addText_rows (h : graph.FitsRows) (ids : IdType) (text : List Char) :
    GraphRows.addText ids graph.rows text = (addText ids graph text).map rows := by
  unfold GraphRows.addText addText
  generalize (Text.lines text).zipIdx 1 = numbereds
  induction numbereds generalizing graph with
  | nil => rfl
  | cons numbered numbereds ih =>
      rw [List.foldlM_cons, List.foldlM_cons]
      dsimp only
      split
      case isTrue hblank => exact ih h
      case isFalse hwritten =>
        cases readLine ids numbered.2 numbered.1 with
        | error failure => rfl
        | ok said =>
            simp only [bind, Except.bind, addLine_rows h]
            cases hadd : graph.addLine said.1 said.2 with
            | error failure => rfl
            | ok after => exact ih (h.addLine hadd)

/-! ## Columns -/

/-- The arcs of all nodes before a node, one node after another. -/
def arcsBefore (graph : Graph) (node : Nat) : List Arc := (List.range node).flatMap graph.arcs

theorem arcsBefore_succ (graph : Graph) (node : Nat) :
    graph.arcsBefore (node + 1) = graph.arcsBefore node ++ graph.arcs node := by
  rw [arcsBefore, List.range_succ, List.flatMap_append, List.flatMap_singleton, arcsBefore]

/-- The columns of a graph when the arcs of the nodes before a node are in them. -/
def columnsTo (graph : Graph) (node : Nat) : GraphColumns where
  nodeCount := graph.nodeCount
  arcCount := graph.arcCount
  targets := (graph.arcsBefore node).map Arc.target
  weights :=
    if graph.isWeighted then some ((graph.arcsBefore node).map fun arc => arc.weight.getD .one)
    else none
  offsets := (List.range (node + 1)).map fun node => (graph.arcsBefore node).length

/-- The columns of a graph. -/
def columns (graph : Graph) : GraphColumns := graph.columnsTo graph.nodeCount

theorem columnsTo_succ (graph : Graph) (node : Nat) :
    graph.columnsTo (node + 1) = (graph.columnsTo node).putRow (graph.arcs node) := by
  simp only [columnsTo, GraphColumns.putRow, GraphColumns.mk.injEq, arcsBefore_succ,
    List.map_append, true_and]
  refine ⟨?_, ?_⟩
  · split <;> rfl
  · rw [List.range_succ, List.map_append, List.map_singleton, arcsBefore_succ, List.length_append,
      List.length_append, List.length_map, List.length_map]

theorem getElem?_rows (graph : Graph) (node : Nat) :
    graph.rows.rows[node]?.getD [] = graph.arcs node := by
  by_cases hnode : node < graph.rowCount
  · rw [rows, List.getElem?_map, List.getElem?_range hnode, Option.map_some, Option.getD_some]
  · have hbehind : graph.rows.rows.length ≤ node := by simpa [rows] using hnode
    rw [List.getElem?_eq_none hbehind, Option.getD_none, arcs_eq_nil (Nat.not_lt.mp hnode)]

/-- Some row has a weight exactly if some line does. -/
theorem any_rows (graph : Graph) :
    (graph.rows.rows.any fun row => row.any fun arc => arc.weight.isSome) = graph.isWeighted := by
  rw [Bool.eq_iff_iff]
  simp only [isWeighted, rows, List.any_eq_true, List.mem_map, List.mem_range]
  constructor
  · rintro ⟨-, ⟨node, -, rfl⟩, arc, harc, hweight⟩
    obtain ⟨line, hline, -, hmem⟩ := mem_arcs_iff.mp harc
    exact ⟨line, hline, arc, hmem, hweight⟩
  · rintro ⟨line, hline, arc, harc, hweight⟩
    refine ⟨_, ⟨line.1, ?_, rfl⟩, arc, mem_arcs_iff.mpr ⟨line, hline, rfl, harc⟩, hweight⟩
    exact leastAbove_le_iff.mp le_rfl line.1 (List.mem_map_of_mem hline)

/-- The rows of a graph are put into its columns, if memory has room for the offsets. -/
theorem build_rows (graph : Graph) : graph.rows.build = graph.finish.map columns := by
  have hloop : ∀ node, (List.range node).foldl
      (fun columns node => columns.putRow (graph.rows.rows[node]?.getD [])) (graph.columnsTo 0) =
        graph.columnsTo node := by
    intro node
    induction node with
    | zero => rfl
    | succ node ih =>
        rw [List.range_succ, List.foldl_append, ih, List.foldl_cons, List.foldl_nil,
          getElem?_rows, columnsTo_succ]
  have hstart : graph.columnsTo 0 = ⟨graph.nodeCount, graph.arcCount, [],
      if graph.isWeighted then some [] else none, [0]⟩ := rfl
  rw [GraphRows.build, any_rows, finish, show graph.rows.nodeCount = graph.nodeCount from rfl]
  split
  case isTrue hfull => rfl
  case isFalse hroom => exact congrArg Except.ok (hstart ▸ hloop graph.nodeCount)

/-! ## The parts of a column -/

/-- The arcs of a node are in the columns behind those of the nodes before it. -/
theorem exists_arcsBefore_eq (graph : Graph) {node count : Nat} (hnode : node < count) :
    ∃ rest, graph.arcsBefore count = graph.arcsBefore node ++ (graph.arcs node ++ rest) := by
  induction hnode with
  | refl => exact ⟨[], by rw [arcsBefore_succ, List.append_nil]⟩
  | step _ ih =>
      obtain ⟨rest, hrest⟩ := ih
      exact ⟨_, by rw [arcsBefore_succ, hrest, List.append_assoc, List.append_assoc]⟩

/-- The part of a column for a node is within the column, and is what the column has for its
arcs. -/
theorem slice_columns {α : Type} (value : Arc → α) (hnode : node < graph.nodeCount) :
    graph.columns.slice ((graph.arcsBefore graph.nodeCount).map value) node =
      .ok ((graph.arcs node).map value) := by
  obtain ⟨rest, harcs⟩ := graph.exists_arcsBefore_eq hnode
  have hoffset : ∀ node < graph.nodeCount + 1,
      graph.columns.offsets[node]? = some (graph.arcsBefore node).length := by
    intro node hnode
    rw [columns, columnsTo, List.getElem?_map, List.getElem?_range hnode, Option.map_some]
  have hstop : (graph.arcsBefore (node + 1)).length =
      (graph.arcsBefore node).length + (graph.arcs node).length := by
    rw [arcsBefore_succ, List.length_append]
  have hwithin : (graph.arcsBefore node).length ≤
        (graph.arcsBefore node).length + (graph.arcs node).length ∧
      (graph.arcsBefore node).length + (graph.arcs node).length ≤
        ((graph.arcsBefore graph.nodeCount).map value).length := by
    rw [harcs]
    simp
  rw [GraphColumns.slice, hoffset node (Nat.lt_succ_of_lt hnode),
    hoffset (node + 1) (Nat.succ_lt_succ hnode), hstop]
  dsimp only
  rw [if_pos hwithin, Nat.add_sub_cancel_left, harcs, List.map_append, List.map_append,
    List.drop_left' (List.length_map _), List.take_left' (List.length_map _)]

theorem successors_columns (h : graph.Counted) (node : Nat) :
    graph.columns.successors node = .ok (graph.successors node) := by
  unfold GraphColumns.successors
  split
  case isTrue houtside =>
    rw [Graph.successors, arcs_eq_nil (h.rowCount_le.trans houtside)]
    rfl
  case isFalse hinside => exact slice_columns Arc.target (Nat.not_le.mp hinside)

theorem weights?_columns (h : graph.Counted) (node : Nat) :
    graph.columns.weights? node = .ok (graph.weights? node) := by
  have hcolumn : graph.columns.weights = if graph.isWeighted then
      some ((graph.arcsBefore graph.nodeCount).map fun arc => arc.weight.getD .one) else none := rfl
  rw [GraphColumns.weights?, hcolumn, Graph.weights?]
  by_cases hweighted : graph.isWeighted = true
  · rw [if_pos hweighted, if_pos hweighted]
    dsimp only
    split
    case isTrue houtside =>
      rw [arcs_eq_nil (h.rowCount_le.trans houtside)]
      rfl
    case isFalse hinside =>
      rw [slice_columns (fun arc => arc.weight.getD .one) (Nat.not_le.mp hinside)]
      rfl
  · rw [if_neg hweighted, if_neg hweighted]

/-- Each line counts for its node and for no other. -/
theorem sum_length_arcs {lines : List (Nat × List Arc)} {count : Nat}
    (h : ∀ line ∈ lines, line.1 < count) :
    ((List.range count).map fun node => (Graph.arcs ⟨count, lines⟩ node).length).sum =
      (lines.flatMap Prod.snd).length := by
  induction lines with
  | nil => simp [Graph.arcs]
  | cons line lines ih =>
      obtain ⟨hnode, hnodes⟩ := List.forall_mem_cons.mp h
      have hsplit : ∀ node, (Graph.arcs ⟨count, line :: lines⟩ node).length =
          (if line.1 = node then line.2.length else 0) +
            (Graph.arcs ⟨count, lines⟩ node).length := by
        intro node
        by_cases hsame : line.1 = node <;> simp [Graph.arcs, hsame]
      have hline : ((List.range count).map fun node =>
          if line.1 = node then line.2.length else 0).sum = line.2.length :=
        (Finset.sum_ite_eq (Finset.range count) line.1 fun _ => line.2.length).trans
          (if_pos (Finset.mem_range.mpr hnode))
      simp only [hsplit, List.sum_map_add, hline, ih hnodes, List.flatMap_cons, List.length_append]

/-- All nodes together have as many arcs as there are. -/
theorem sum_length_successors (h : graph.Counted) :
    ((List.range graph.nodeCount).map fun node => (graph.successors node).length).sum =
      graph.arcCount := by
  simp only [successors, List.length_map]
  exact sum_length_arcs fun line => h.lt_of_mem

end Graph

end CompactAdjacency
