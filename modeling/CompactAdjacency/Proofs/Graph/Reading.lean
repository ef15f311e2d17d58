import Mathlib
import CompactAdjacency.Proofs.Graph.Columns

/-!
# Graphs as they are read

A text is read exactly if it keeps to the grammar and memory has room for a row for each node up to
the largest one with a line, and the columns of the graph then hold what its lines denote:
`Graph.addText_iff_grammar`. Since they depend on nothing but the lines of each node, lines of
different nodes may come in any order, `Graph.rows_of_reordered`.
-/

namespace CompactAdjacency

/-- The columns of a graph hold what its lines say. -/
structure GraphColumns.Holds (columns : GraphColumns) (graph : Graph) : Prop where
  nodeCount : columns.nodeCount = graph.nodeCount
  isLeast : IsLeast {count | ∀ node ∈ graph.named, node < count} columns.nodeCount
  arcCount : columns.arcCount = graph.arcCount
  total : columns.arcCount =
    ((List.range columns.nodeCount).map fun node => (graph.successors node).length).sum
  successors : ∀ node, columns.successors node = .ok (graph.successors node)
  outside : ∀ node, columns.nodeCount ≤ node → graph.successors node = []
  isWeighted : columns.weights.isSome = graph.isWeighted
  weighted : columns.weights.isSome = true ↔
    ∃ line ∈ graph.lines, ∃ arc ∈ line.2, arc.weight ≠ none
  weights : ∀ node, columns.weights? node = .ok (graph.weights? node)

namespace Graph

open Text

variable {graph other : Graph}

theorem isSome_weights (graph : Graph) : graph.columns.weights.isSome = graph.isWeighted := by
  rw [columns, columnsTo]
  cases graph.isWeighted <;> rfl

/-- The columns of a graph whose nodes are counted hold what its lines say. -/
theorem holds_columns (h : graph.Counted) : graph.columns.Holds graph where
  nodeCount := rfl
  isLeast := by
    rw [show graph.columns.nodeCount = leastAbove graph.named from h]
    exact isLeast_leastAbove _
  arcCount := rfl
  total := (sum_length_successors h).symm
  successors := successors_columns h
  outside := by
    intro node hnode
    rw [Graph.successors, arcs_eq_nil (h.rowCount_le.trans hnode), List.map_nil]
  isWeighted := isSome_weights graph
  weighted := by
    rw [isSome_weights]
    simp [isWeighted, Option.isSome_iff_ne_none]
  weights := weights?_columns h

/-! ## The order of lines -/

/-- A graph has its rows by the lines of each node. -/
theorem rows_congr (h : graph.Counted) (hother : other.Counted)
    (hlines : ∀ node, (other.lines.filter fun line => line.1 = node) =
      graph.lines.filter fun line => line.1 = node) : other.rows = graph.rows := by
  have harcs : other.arcs = graph.arcs := by
    funext node
    rw [Graph.arcs, hlines, Graph.arcs]
  have hmem : ∀ line, line ∈ other.lines ↔ line ∈ graph.lines := by
    intro line
    have hnode : ∀ lines : List (Nat × List Arc),
        line ∈ lines ↔ line ∈ lines.filter fun other => other.1 = line.1 := by
      intro lines
      simp
    rw [hnode other.lines, hlines, ← hnode]
  have hnodes : other.nodeCount = graph.nodeCount := by
    rw [hother, h]
    refine leastAbove_congr fun node => ?_
    simp only [named, List.mem_flatMap, hmem]
  have hrows : other.rowCount = graph.rowCount := by
    refine leastAbove_congr fun node => ?_
    simp only [List.mem_map, hmem]
  have hcount : other.arcCount = graph.arcCount := by
    rw [← sum_length_successors h, ← sum_length_successors hother, hnodes]
    simp only [Graph.successors, harcs]
  rw [rows, hnodes, hcount, hrows, harcs, rows]

/-- The first field of a line denotes a node. -/
def names (node : Nat) (line : List Char) : Bool :=
  (splitOn '\t' line).head?.any fun first => unsigned? (UInt64.size - 1) (trim first) == some node

theorem DenotesLine.names_iff {line : List Char} {said : Nat × List Arc}
    (h : DenotesLine line said) (node : Nat) : names node line = true ↔ said.1 = node := by
  cases h with
  | mk hfields hnode hword harcs =>
      have hread := unsigned?_eq_some_iff.mpr ⟨hnode, Nat.le_sub_one_of_lt hword⟩
      rw [names, hfields, List.head?_cons, Option.any_some, hread]
      simp

/-- The lines of a node denote what is said of the node. -/
theorem filter_names {texts : List (List Char)} {said : List (Nat × List Arc)}
    (h : List.Forall₂ DenotesLine texts said) (node : Nat) :
    List.Forall₂ DenotesLine (texts.filter (names node))
      (said.filter fun line => line.1 = node) := by
  induction h with
  | nil => exact .nil
  | cons hline _ ih =>
      have hiff := hline.names_iff node
      rw [List.filter_cons, List.filter_cons]
      split
      case isTrue hnames =>
        rw [if_pos (decide_eq_true (hiff.mp hnames))]
        exact .cons hline ih
      case isFalse hother =>
        rw [if_neg fun hnode => hother (hiff.mpr (of_decide_eq_true hnode))]
        exact ih

/-- Lines in another order are read as the same rows, as long as those of each node keep theirs. -/
theorem rows_of_reordered {text reordered : List Char}
    (hread : addText (.unsigned 64) .empty text = .ok graph)
    (hperm : (written (Text.lines reordered)).Perm (written (Text.lines text)))
    (horder : ∀ node, (written (Text.lines reordered)).filter (names node) =
      (written (Text.lines text)).filter (names node)) :
    ∃ other, addText (.unsigned 64) .empty reordered = .ok other ∧ other.rows = graph.rows := by
  have haccepts : ∀ line ∈ Text.lines reordered, Accepts line := by
    intro line hline
    by_cases hblank : line.all isBlank = true
    · exact .inl hblank
    · have hmem : line ∈ written (Text.lines reordered) :=
        List.mem_filter.mpr ⟨hline, by simpa using hblank⟩
      exact exists_addText_iff.mp ⟨graph, hread⟩ line
        (List.mem_of_mem_filter (hperm.mem_iff.mp hmem))
  obtain ⟨other, hother⟩ := exists_addText_iff.mpr haccepts
  refine ⟨other, hother, rows_congr (counted_of_addText hread) (counted_of_addText hother) ?_⟩
  intro node
  have hsaid := filter_names (forall₂_lines_of_addText hread) node
  have hsaid' := filter_names (forall₂_lines_of_addText hother) node
  rw [horder] at hsaid'
  exact List.right_unique_forall₂' (fun _ _ _ h h' => h.unique h') hsaid' hsaid

/-! ## Reading and building -/

theorem finish_eq_ok_iff :
    graph.finish = .ok other ↔ (graph.nodeCount + 1) * 8 < allocationLimit ∧ other = graph := by
  unfold finish
  split
  case isTrue hfull => simp [Nat.not_lt.mpr hfull]
  case isFalse hroom => simp [Nat.not_le.mp hroom, eq_comm]

/-- A line denotes a node and its arcs exactly if its pieces are numbers of their kinds, and a text
is read exactly if each of its lines is blank or denotes a node that memory has room for. Otherwise
the first line that is neither decides: the text is refused with the number of the line and its
first piece that is no number of its kind, or faults if there is no such piece. A text is put into
rows as it is read, and the lines of the graph are what those of the text denote that are not blank.
If memory has room for the offsets, and only then, the rows are put into columns, which hold what
the lines say. A text with its lines in another order, in which those of each node keep theirs, is
read as well and makes the same columns. -/
theorem addText_iff_grammar (text : List Char) :
    (∀ line, (∃ said, DenotesLine line said) ↔ ∀ piece ∈ linePieces line, piece.IsSound) ∧
      ((∃ graph, addText (.unsigned 64) .empty text = .ok graph) ↔
        ∀ line ∈ Text.lines text, Accepts line) ∧
      (∀ failure, addText (.unsigned 64) .empty text = .error failure ↔ Refuses text failure) ∧
      GraphRows.addText (.unsigned 64) .empty text =
        (addText (.unsigned 64) .empty text).map rows ∧
      ∀ graph, addText (.unsigned 64) .empty text = .ok graph →
        List.Forall₂ DenotesLine (written (Text.lines text)) graph.lines ∧
        ((∃ columns, graph.rows.build = .ok columns) ↔
          (graph.nodeCount + 1) * 8 < allocationLimit) ∧
        (∀ columns, graph.rows.build = .ok columns →
          graph.finish = .ok graph ∧ columns.Holds graph) ∧
        ∀ reordered, (written (Text.lines reordered)).Perm (written (Text.lines text)) →
          (∀ node, (written (Text.lines reordered)).filter (names node) =
            (written (Text.lines text)).filter (names node)) →
          ∃ other, addText (.unsigned 64) .empty reordered = .ok other ∧
            other.rows.build = graph.rows.build := by
  refine ⟨fun _ => exists_denotesLine_iff, exists_addText_iff, fun _ => addText_eq_error_iff,
    addText_rows fitsRows_empty _ text, ?_⟩
  intro graph hread
  refine ⟨forall₂_lines_of_addText hread, ?_, ?_, ?_⟩
  · simp only [build_rows, map_eq_ok_iff, finish_eq_ok_iff]
    exact ⟨fun ⟨_, _, ⟨hroom, _⟩, _⟩ => hroom, fun hroom => ⟨_, graph, ⟨hroom, rfl⟩, rfl⟩⟩
  · intro columns hbuild
    rw [build_rows, map_eq_ok_iff] at hbuild
    obtain ⟨finished, hfinish, rfl⟩ := hbuild
    obtain rfl := (finish_eq_ok_iff.mp hfinish).2
    exact ⟨hfinish, holds_columns (counted_of_addText hread)⟩
  · intro reordered hperm horder
    obtain ⟨other, hother, hrows⟩ := rows_of_reordered hread hperm horder
    exact ⟨other, hother, by rw [hrows]⟩

/-- Two lines of node 1 with another line between them, blank lines and fields, and a weight. -/
def mixedText : List Char := "1\t2:0.5\t0\n\n0\t1\t\n1\t 1\r\n".toList

/-- The same lines with those of node 1 behind the other one. -/
def sortedText : List Char := "0\t1\t\n1\t2:0.5\t0\n1\t 1\n".toList

/-- The graph of the text. -/
def mixedGraph : Graph :=
  ⟨3, [(1, [⟨2, some ⟨0x3fe0000000000000⟩⟩, ⟨0, none⟩]), (0, [⟨1, none⟩]), (1, [⟨1, none⟩])]⟩

/-- Both texts make the same columns. -/
theorem addText_iff_grammar_mixedText :
    addText (.unsigned 64) .empty mixedText = .ok mixedGraph ∧
      mixedGraph.columns = ⟨3, 4, [1, 2, 0, 1],
        some [.one, ⟨0x3fe0000000000000⟩, .one, .one], [0, 1, 4, 4]⟩ ∧
      ∃ other, addText (.unsigned 64) .empty sortedText = .ok other ∧
        other.rows.build = .ok mixedGraph.columns := by
  have hread : addText (.unsigned 64) .empty mixedText = .ok mixedGraph := by cbv
  obtain ⟨-, -, -, -, hgraph⟩ := addText_iff_grammar mixedText
  obtain ⟨-, -, -, hreordered⟩ := hgraph mixedGraph hread
  have hmixed : written (Text.lines mixedText) =
      ["1\t2:0.5\t0".toList, "0\t1\t".toList, "1\t 1".toList] := by cbv
  have hsorted : written (Text.lines sortedText) =
      ["0\t1\t".toList, "1\t2:0.5\t0".toList, "1\t 1".toList] := by cbv
  specialize hreordered sortedText
  rw [hmixed, hsorted] at hreordered
  obtain ⟨other, hother, hbuild⟩ := hreordered (List.Perm.swap _ _ _) (by
    intro node
    rcases node with _ | _ | node
    · cbv
    · cbv
    · rfl)
  refine ⟨hread, by cbv, other, hother, ?_⟩
  rw [hbuild, build_rows]
  rfl

/-- A node without successors whose rows are more than memory can hold. -/
def hugeNode : List Char := "9223372036854775807\n".toList

/-- A text that keeps to the grammar is refused all the same, although there is a number above the
node. -/
theorem addText_refuses_hugeNode :
    (∀ line ∈ Text.lines hugeNode, ∃ node, DenotesLine line (node, []) ∧ node + 1 < UInt64.size) ∧
      addText (.unsigned 64) .empty hugeNode = .error (.fault .outOfBounds) := by
  have hlines : Text.lines hugeNode = ["9223372036854775807".toList] := by cbv
  have hread : readLine (.unsigned 64) 1 "9223372036854775807".toList =
      .ok (9223372036854775807, []) := by cbv
  refine ⟨?_, ?_⟩
  · intro line hline
    rw [hlines, List.mem_singleton] at hline
    exact ⟨9223372036854775807, hline ▸ readLine_eq_ok_iff.mp hread, by decide⟩
  · -- no memory holds as many rows
    have hfull : ¬ FitsRow 9223372036854775807 :=
      Nat.not_lt.mpr (allocationLimit_le_size.trans (by decide))
    have hfilled : (Text.trim "9223372036854775807".toList).isEmpty = false := by cbv
    have hadd : addLine .empty 9223372036854775807 [] = .error (.fault .outOfBounds) :=
      addLine_eq_error_iff.mpr ⟨hfull, rfl⟩
    have hrefused : addNumbered .empty ("9223372036854775807".toList, 1) =
        .error (.fault .outOfBounds) := by
      rw [addNumbered, hfilled, if_neg Bool.false_ne_true, hread]
      exact hadd
    rw [addText_eq, hlines]
    exact congrArg (· >>= pure) hrefused

end Graph

end CompactAdjacency
