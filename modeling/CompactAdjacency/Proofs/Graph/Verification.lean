import Mathlib
import CompactAdjacency.CommandLine.Command
import CompactAdjacency.Proofs.Blob.RoundTrip
import CompactAdjacency.Proofs.Build.Reports
import CompactAdjacency.Proofs.Build.Values
import CompactAdjacency.Proofs.Graph.Columns

/-!
# The verification of a graph

Two ways lead from a text to the neighbors of a node. The graph sorts the successors that were read,
and a build fills a batch with them, prepares it, compresses it, and decodes what it stored. The
verification compares the two, and `Graph.mismatches_eq_zero_iff` says what it means that it finds
nothing: every node has the neighbors that the graph expects. It covers every node that the text
names, `Graph.spans_of_addText`. Since the batch that a graph fills has the expected neighbors as
its reference, `Graph.expected_eq`, it finds nothing in any structure that was built from the graph,
nor in what is read back from its blob, `Graph.build_verifies`.
-/

namespace CompactAdjacency

namespace Graph

variable {graph : Graph}

/-! ## The nodes of a graph -/

/-- Every node that is named, on a line of its own or as a successor, is a node of the graph. -/
def Spans (graph : Graph) : Prop :=
  ∀ line ∈ graph.lines, line.1 < graph.nodeCount ∧
    ∀ arc ∈ line.2, arc.target.toNat < graph.nodeCount

/-- A graph that was read from a text has every node that the text names. -/
theorem spans_of_addText {ids : IdType} {text : List Char}
    (hread : Graph.addText ids .empty text = .ok graph) : graph.Spans := by
  have hcounted := counted_of_addText hread
  intro line hline
  refine ⟨hcounted.lt_of_mem hline, fun arc harc => hcounted.lt_of_named ?_⟩
  exact List.mem_flatMap.mpr ⟨line, hline, List.mem_cons_of_mem _ (List.mem_map_of_mem harc)⟩

/-! ## What the verification compares -/

/-- A structure has the neighbors of a node that a graph expects. -/
def Agrees (graph : Graph) (aggregation : Aggregation) (lists : Lists) (node : Nat) : Prop :=
  lists.degree node = (graph.expected aggregation node).length ∧
    lists.neighbors node = .ok (graph.expected aggregation node)

/-- The verification finds nothing exactly if the neighbors of every node can be read and are those
that the graph expects. -/
theorem mismatches_eq_zero_iff {lists : Lists} {aggregation : Aggregation} :
    graph.mismatches lists aggregation = .ok 0 ↔
      ∀ node < graph.nodeCount, graph.Agrees aggregation lists node := by
  simp only [← List.mem_range]
  refine foldlM_count_eq_iff ?_ ?_ _ 0
  · intro count node next hstep
    dsimp only at hstep
    split at hstep
    case isTrue hdegree =>
      obtain rfl := pure_eq_ok_iff.mp hstep
      exact Nat.le_succ count
    case isFalse hdegree =>
      obtain ⟨neighbors, -, hcounted⟩ := bind_eq_ok_iff.mp hstep
      rw [pure_eq_ok_iff] at hcounted
      split at hcounted
      case isTrue hsame => exact hcounted.le
      case isFalse hother => exact (Nat.le_succ count).trans hcounted.le
  · intro count node
    dsimp only [Agrees]
    split
    case isTrue hdegree => simp [pure_eq_ok_iff, hdegree]
    case isFalse hdegree =>
      rw [bind_eq_ok_iff, not_not.mp hdegree, eq_self, true_and]
      constructor
      · rintro ⟨neighbors, hneighbors, hcounted⟩
        rw [pure_eq_ok_iff] at hcounted
        split at hcounted
        case isTrue hsame => rw [hneighbors, hsame]
        case isFalse hother => omega
      · intro hneighbors
        exact ⟨_, hneighbors, by rw [if_pos rfl]; rfl⟩

/-! ## What a build makes of a graph -/

/-- The relationships of a node as the graph hands them to a build. -/
def batch (graph : Graph) (node : Nat) : Batch :=
  ⟨graph.successors node, (graph.weights? node).toList⟩

/-- A graph fills one batch per node, with a weight for each successor if there are weights. -/
theorem toSource_fills (hdegrees : ∀ node, (graph.successors node).length < UInt32.size) :
    graph.toSource.Fills graph.batch := by
  refine ⟨?_, ?_, ?_, fun node _ => hdegrees node⟩
  · intro node hnode
    cases hweighted : graph.isWeighted with
    | false => simp [toSource, batch, weights?, channelCount, Batch.empty, hweighted]
    | true => simp [toSource, batch, weights?, channelCount, Batch.empty, hweighted]
  · intro node hnode
    cases hweighted : graph.isWeighted with
    | false => simp [toSource, batch, weights?, channelCount, hweighted]
    | true => simp [toSource, batch, weights?, channelCount, hweighted]
  · intro node hnode values hvalues
    rw [batch, Option.mem_toList, weights?, Option.ite_none_right_eq_some] at hvalues
    obtain rfl := Option.some.inj hvalues.2
    simp only [batch, successors, List.length_map]

/-- The expected neighbors of a node are those of the reference of its batch. -/
theorem expected_eq (graph : Graph) (aggregation : Aggregation) (channels : List Aggregation)
    (node : Nat) :
    graph.expected aggregation node =
      ((graph.batch node).reference aggregation channels).targets := by
  have hsorted : graph.sortedSuccessors node = (graph.successors node).mergeSort := rfl
  unfold expected Batch.reference
  split
  case isTrue hkeep => rw [hkeep, hsorted]; rfl
  case isFalse hcollapse =>
    split
    case h_1 hkeep => exact absurd hkeep hcollapse
    case h_2 => rw [hsorted]; exact Batch.filterMap_head?_cut _

/-- The verification of a graph finds nothing in a structure, nor in what is read back from its
blob. -/
structure Verifies (graph : Graph) (aggregation : Aggregation) (lists : Lists) : Prop where
  built : graph.mismatches lists aggregation = .ok 0
  restored : ∃ restored, Lists.ofBytes lists.toBytes = .ok restored ∧
    graph.mismatches restored aggregation = .ok 0

/-- It finds nothing in the result of a build, under any schedule of the workers. -/
theorem verifies_of_result (hdegrees : ∀ node, (graph.successors node).length < UInt32.size)
    {config : Config} {build : Build} {events : List BuildEvent} {result : BuildResult}
    (hstart : Build.start config graph.toSource = .ok build)
    (hresult : (build.run graph.toSource events).result? = some (.ok result)) :
    graph.Verifies config.aggregation result.lists := by
  have hbuilt : graph.mismatches result.lists config.aggregation = .ok 0 := by
    refine mismatches_eq_zero_iff.mpr fun node hnode => ?_
    have hread := (toSource_fills hdegrees).readsBack_of_result hstart hresult node hnode
    rw [Agrees, expected_eq graph config.aggregation config.channelAggregations]
    exact ⟨hread.degree, hread.neighbors⟩
  have hrestored := Build.ofBytes_of_result hstart hresult []
  rw [List.append_nil] at hrestored
  exact ⟨hbuilt, result.lists, hrestored, hbuilt⟩

/-- For every text that is read as a graph, and every configuration that fits the graph and can be
followed, a build starts, and ends with a result after every complete schedule in which no memory is
refused; and the verification, which covers every node that the text names, finds nothing in any
result, whatever the schedule, nor in what is read back from its blob. -/
theorem build_verifies {text : List Char} {config : Config}
    (hread : Graph.addText (.unsigned 64) .empty text = .ok graph)
    (hfinish : graph.finish = .ok graph)
    (hdegrees : ∀ node, (graph.successors node).length < UInt32.size)
    (hcount : config.channelCount = 0 ∨ config.channelCount = graph.channelCount)
    (hconfig : (config.withChannels graph.channelCount).check = .ok ()) :
    graph.Spans ∧ ∃ build, Build.start config graph.toSource = .ok build ∧
      (∀ events, build.Complete events → ¬ (build.run graph.toSource events).OutOfMemory →
        ∃ result, (build.run graph.toSource events).result? = some (.ok result)) ∧
      (∀ events result, (build.run graph.toSource events).result? = some (.ok result) →
        graph.Verifies config.aggregation result.lists) ∧
      ∀ termination result, graph.toSource.build config termination = .ok result →
        graph.Verifies config.aggregation result.lists := by
  have hroom : graph.toSource.FitsMemory := by
    unfold finish at hfinish
    split at hfinish
    case isTrue hlarge => simp at hfinish
    case isFalse hsmall =>
      refine ⟨?_, fun _ => ?_⟩
      · show 8 * graph.nodeCount < allocationLimit
        omega
      · have hlists : graph.channelCount.toNat * listSize < UInt32.size := by
          unfold channelCount
          split
          case isTrue hweighted => decide
          case isFalse hunweighted => decide
        exact hlists.trans_le size_le_allocationLimit
  obtain ⟨build, hstart⟩ := Build.exists_start hcount hconfig hroom
  have hverifies : ∀ events result,
      (build.run graph.toSource events).result? = some (.ok result) →
      graph.Verifies config.aggregation result.lists :=
    fun events result hresult => verifies_of_result hdegrees hstart hresult
  refine ⟨spans_of_addText hread, build, hstart, ?_, hverifies, ?_⟩
  · intro events hcomplete hmemory
    exact Build.result_of_complete (toSource_fills hdegrees) hstart hcomplete hmemory
  · intro termination result hbuild
    rw [Build.build_eq_run hstart] at hbuild
    cases hresult : (build.run graph.toSource (build.schedule termination)).result? with
    | none => simp [hresult] at hbuild
    | some outcome =>
        rw [hresult, Option.getD_some] at hbuild
        exact hverifies _ result (hbuild ▸ hresult)

/-- Two lines of one node, with a loop and a repeated successor, a blank line, and a node that is
only a successor. -/
def repeatedText : List Char := "3\t1\t3:2.5\t1:0.5\n\n1\n3\t0\n".toList

/-- The graph of the text. -/
def repeatedGraph : Graph :=
  ⟨4, [(3, [⟨1, none⟩, ⟨3, some ⟨0x4004000000000000⟩⟩, ⟨1, some ⟨0x3fe0000000000000⟩⟩]), (1, []),
    (3, [⟨0, none⟩])]⟩

/-- Two workers that keep the first of parallel relationships. -/
def keepFirst : Config := { Config.default 2 with aggregation := .single }

theorem repeatedText_reads :
    Graph.addText (.unsigned 64) .empty repeatedText = .ok repeatedGraph := by
  cbv

/-- No node has more successors than there are arcs. -/
theorem length_successors_le (graph : Graph) (node : Nat) :
    (graph.successors node).length ≤ graph.arcCount := by
  have hsublist : (graph.lines.filter fun line => line.1 = node).Sublist graph.lines :=
    List.filter_sublist
  rw [successors, List.length_map]
  exact (hsublist.flatMap Prod.snd).length_le

/-- Both workers finish. -/
theorem repeatedGraph_outcomes :
    ((Build.start keepFirst repeatedGraph.toSource).map fun build =>
      (build.run repeatedGraph.toSource (build.sequential none)).workers.map Worker.outcome) =
        .ok [some (.ok ()), some (.ok ())] := by
  cbv

/-- The command finds no mismatch in the graph of the text, whose repeated successor collapses. -/
theorem build_verifies_repeatedText :
    repeatedGraph.expected .single 3 = [0, 1, 3] ∧
      ∃ result, repeatedGraph.toSource.build keepFirst .never = .ok result ∧
        repeatedGraph.Verifies .single result.lists := by
  have hconfig : (keepFirst.withChannels repeatedGraph.channelCount).check = .ok () := rfl
  have harcs : repeatedGraph.arcCount < UInt32.size := by decide
  obtain ⟨-, build, hstart, hcomplete, -, hverifies⟩ := build_verifies repeatedText_reads rfl
    (fun node => (repeatedGraph.length_successors_le node).trans_lt harcs) (.inl rfl) hconfig
  have houtcomes := repeatedGraph_outcomes
  rw [hstart] at houtcomes
  have hlist : (build.run repeatedGraph.toSource (build.sequential none)).workers.map
      Worker.outcome = [some (.ok ()), some (.ok ())] := Except.ok.inj houtcomes
  obtain ⟨result, hresult⟩ := hcomplete _ (Build.complete_sequential build) (by
    rintro ⟨worker, hworker, capacity, hcapacity⟩
    have hmem := List.mem_map_of_mem (f := Worker.outcome) hworker
    rw [hlist, hcapacity] at hmem
    simp at hmem)
  have hbuild : repeatedGraph.toSource.build keepFirst .never = .ok result := by
    rw [Build.build_eq_run hstart, show build.schedule .never = build.sequential none from rfl,
      hresult, Option.getD_some]
  exact ⟨by cbv, result, hbuild, hverifies .never result hbuild⟩

end Graph

end CompactAdjacency
