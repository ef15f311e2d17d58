import Mathlib
import CompactAdjacency.Store
import CompactAdjacency.Proofs.Outcomes
import CompactAdjacency.Proofs.Record.Buffers
import CompactAdjacency.Proofs.Record.Channels

/-!
# What is accepted and what is written

A node is encoded if it lies in its partition, if there are enough targets and values for its
degree, and if its targets ascend. `ofTargets_eq_ok_iff` is the exact condition and the exact
result. A compressor encodes nodes in buffers that hold what it has encoded before, and that plays
no part in what it encodes: `OpenCompressor.encode_cases`.
-/

namespace CompactAdjacency

/-- A partition gives a position to its own nodes. -/
theorem Partition.locate_eq_ok_iff {part : Partition} {node index : Nat} :
    part.locate node = .ok index ↔
      (part.start ≤ node ∧ node < part.stop) ∧ node - part.start = index := by
  unfold locate
  split
  case isTrue hinside => simp [hinside]
  case isFalse houtside => simp [houtside]

namespace EncodedNode

/-- No channel is short if every channel has as many values as there are relationships. -/
theorem shortChannel_eq_none_iff {degree : Nat} {channels : List (List Binary64)} :
    shortChannel degree channels = none ↔ ∀ values ∈ channels, degree ≤ values.length := by
  simp only [shortChannel, Option.map_eq_none_iff, List.find?_eq_none, decide_eq_true_eq, not_lt]
  constructor
  · intro h values hvalues
    obtain ⟨index, hindex, rfl⟩ := List.mem_iff_getElem.mp hvalues
    exact h (channels[index], index) (List.mem_zipIdx_iff_getElem?.mpr (by simp [hindex]))
  · rintro h ⟨values, index⟩ hvalues
    exact h values (List.fst_mem_of_mem_zipIdx hvalues)

/-- What can be encoded: a node of the partition, targets and values for its degree, and as many
channels as the store has. -/
structure Acceptable (channelCount : Nat) (part : Partition) (node : Nat) (targets : List UInt64)
    (channels : List (List Binary64)) (degree : Nat) : Prop where
  inside : part.start ≤ node ∧ node < part.stop
  enoughTargets : degree ≤ targets.length
  countable : degree < UInt32.size
  allChannels : channels.length = channelCount
  enoughValues : ∀ values ∈ channels, degree ≤ values.length

/-- The check accepts exactly what can be encoded. -/
theorem check_eq_ok_iff {channelCount : Nat} {part : Partition} {node : Nat}
    {targets : List UInt64} {channels : List (List Binary64)} {degree : Nat} :
    check channelCount part node targets channels degree = .ok () ↔
      Acceptable channelCount part node targets channels degree := by
  simp only [check, bind_eq_ok_iff, Partition.locate_eq_ok_iff]
  constructor
  · rintro ⟨index, ⟨hnode, -⟩, h⟩
    split at h
    case isTrue hdegree => simp at h
    case isFalse hdegree =>
      split at h
      case isTrue hchannels => simp at h
      case isFalse hchannels =>
        split at h
        case h_1 channel length hshort => simp at h
        case h_2 hshort =>
          rw [not_or, not_lt, ge_iff_le, not_le] at hdegree
          exact ⟨hnode, hdegree.1, hdegree.2, not_not.mp hchannels,
            shortChannel_eq_none_iff.mp hshort⟩
  · intro h
    refine ⟨node - part.start, ⟨h.inside, rfl⟩, ?_⟩
    rw [if_neg (by rw [not_or, not_lt, ge_iff_le, not_le]; exact ⟨h.enoughTargets, h.countable⟩),
      if_neg (not_not.mpr h.allChannels), shortChannel_eq_none_iff.mpr h.enoughValues]

/-- A node is encoded exactly if it can be and its targets ascend, and its records are those of its
first `degree` relationships. -/
theorem ofTargets_eq_ok_iff {config : Config} {part : Partition} {node : Nat}
    {targets : List UInt64} {channels : List (List Binary64)} {degree : Nat}
    {encoded : EncodedNode} :
    ofTargets config part node targets channels degree = .ok encoded ↔
      Acceptable config.channelCount.toNat part node targets channels degree ∧
        Gaps.firstDescent (targets.take degree) = none ∧
        encoded =
          { gaps := Gaps.gaps (targets.take degree)
            adjacency := Record.encode (config.layoutRule.layout degree)
              (Gaps.gaps (targets.take degree))
            properties := Record.encodeChannels (config.layoutRule.layout degree) degree
              channels } := by
  simp only [ofTargets, bind_eq_ok_iff, pure_eq_ok_iff]
  constructor
  · rintro ⟨⟨⟩, hcheck, gaps, hgaps, rfl⟩
    unfold Gaps.encode at hgaps
    split at hgaps
    case h_1 position hdescent => simp at hgaps
    case h_2 hascent =>
      obtain rfl := Except.ok.inj hgaps
      exact ⟨check_eq_ok_iff.mp hcheck, hascent, rfl⟩
  · rintro ⟨haccept, hascent, rfl⟩
    exact ⟨(), check_eq_ok_iff.mpr haccept, _, by simp only [Gaps.encode, hascent], rfl⟩

/-- The gaps of a list stand for the list. -/
theorem resolved_gaps (targets : List UInt64) :
    Record.resolved true (Gaps.gaps targets) = targets := by
  simp only [Record.resolved, if_true, Gaps.gaps, Gaps.sumsFrom_gapsFrom]

/-- There is a gap for each target. -/
theorem length_gaps (targets : List UInt64) : (Gaps.gaps targets).length = targets.length := by
  have hlength := congrArg List.length (resolved_gaps targets)
  rwa [Record.length_resolved] at hlength

end EncodedNode

namespace OpenCompressor

/-- A compressor writes to the same arenas whatever its buffers hold. -/
theorem toCompressor_withBuffers (compressor : OpenCompressor) (layout : Layout)
    (buffers : Record.Buffers) :
    (compressor.withBuffers layout buffers).toCompressor = compressor.toCompressor := by
  cases layout <;> rfl

/-- A compressor refuses and encodes what is refused and encoded without any buffers, and keeps its
place in the arenas. -/
theorem encode_cases (compressor : OpenCompressor) (config : Config) (part : Partition)
    (node : Nat) (targets : List UInt64) (channels : List (List Binary64)) (degree : Nat) :
    (∃ failure,
      EncodedNode.ofTargets config part node targets channels degree = .error failure ∧
      compressor.encode config part node targets channels degree = .error failure) ∨
    ∃ encoded after,
      EncodedNode.ofTargets config part node targets channels degree = .ok encoded ∧
      compressor.encode config part node targets channels degree = .ok (encoded, after) ∧
      after.toCompressor = compressor.toCompressor := by
  unfold encode EncodedNode.ofTargets
  cases hcheck : EncodedNode.check config.channelCount.toNat part node targets channels degree with
  | error failure => exact .inl ⟨failure, rfl, rfl⟩
  | ok checked =>
      cases hgaps : Gaps.encode node (targets.take degree) with
      | error failure => exact .inl ⟨failure, rfl, rfl⟩
      | ok gaps =>
          have hvalues := (EncodedNode.check_eq_ok_iff.mp hcheck).enoughValues
          generalize config.layoutRule.layout degree = layout
          obtain ⟨scratch, hrefill⟩ := (compressor.buffers layout).refill?_eq layout gaps hvalues
          simp only [hrefill, bind, Except.bind, Except.mapError, pure, Except.pure]
          exact .inr ⟨_, _, rfl, rfl, toCompressor_withBuffers _ _ _⟩

end OpenCompressor

end CompactAdjacency
