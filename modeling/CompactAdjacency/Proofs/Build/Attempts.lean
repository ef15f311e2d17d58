import Mathlib
import CompactAdjacency.Build
import CompactAdjacency.Proofs.Batch.Reference
import CompactAdjacency.Proofs.Store.Compression
import CompactAdjacency.Proofs.Store.Resets

/-!
# What a worker makes of a node

Whether a node of a source can be compressed, and to what, depends on the source and the
configuration alone, `Source.accepted`. What a worker does with its next node is told by it,
`compressNext_spec`: unless the termination flag stops it or memory is refused, the worker fails
with the refusal of the node or leaves the node with the batch it was prepared to.
-/

namespace CompactAdjacency

/-! ## Prepared batches -/

namespace Batch

/-- All of the relationships are the first ones. -/
theorem firsts_of_rectangular {batch : Batch} (h : batch.Rectangular) :
    firsts batch.targets.length batch.targets batch.channels = batch := by
  have hchannels : batch.channels.map (fun values => values.take batch.targets.length) =
      batch.channels := by
    conv_rhs => rw [← List.map_id batch.channels]
    refine List.map_congr_left ?_
    intro values hvalues
    exact List.take_of_length_le (h values hvalues).le
  rw [firsts, hchannels, List.take_length]

end Batch

/-! ## Accepted nodes -/

namespace Source

/-- The batch of a node, prepared. -/
def prepared (source : Source) (config : Config) (node : Nat) : Except Failure Batch := do
  let batch ← source.fill node (.empty source.channelCount.toNat)
  batch.prepare node config.aggregation config.channelAggregations

/-- The batch that a node of a partition is compressed from, or why it is refused. -/
def accepted (source : Source) (config : Config) (part : Partition) (node : Nat) :
    Except Failure Batch := do
  let batch ← source.prepared config node
  let _ ← EncodedNode.ofTargets config part node batch.targets batch.channels batch.targets.length
  pure batch

/-- A node is accepted if its prepared batch can be encoded. -/
theorem accepted_eq_ok_iff {source : Source} {config : Config} {part : Partition} {node : Nat}
    {batch : Batch} :
    source.accepted config part node = .ok batch ↔
      source.prepared config node = .ok batch ∧
        ∃ encoded, EncodedNode.ofTargets config part node batch.targets batch.channels
          batch.targets.length = .ok encoded := by
  simp only [accepted, bind_eq_ok_iff, pure_eq_ok_iff]
  constructor
  · rintro ⟨prepared, hprepared, encoded, hencoded, rfl⟩
    exact ⟨hprepared, encoded, hencoded⟩
  · rintro ⟨hprepared, encoded, hencoded⟩
    exact ⟨batch, hprepared, encoded, hencoded, rfl⟩

/-- The batch of a node does not depend on the partition that it is accepted in. -/
theorem accepted_unique {source : Source} {config : Config} {part other : Partition} {node : Nat}
    {batch batch' : Batch} (h : source.accepted config part node = .ok batch)
    (h' : source.accepted config other node = .ok batch') : batch = batch' :=
  Except.ok.inj ((accepted_eq_ok_iff.mp h).1.symm.trans (accepted_eq_ok_iff.mp h').1)

/-- What was prepared was filled before. -/
theorem fill_ne_error {source : Source} {config : Config} {node : Nat} {batch : Batch}
    (h : source.prepared config node = .ok batch) (failure : Failure) :
    source.fill node (.empty source.channelCount.toNat) ≠ .error failure := by
  obtain ⟨filled, hfilled, -⟩ := bind_eq_ok_iff.mp h
  simp [hfilled]

/-- The channels of a prepared batch have one value per target. -/
theorem prepared_rectangular {source : Source} {config : Config} {node : Nat} {batch : Batch}
    (h : source.prepared config node = .ok batch) : batch.Rectangular := by
  simp only [prepared, bind_eq_ok_iff, Batch.prepare_eq_ok_iff] at h
  obtain ⟨filled, -, hrectangular, rfl⟩ := h
  exact Batch.reference_rectangular hrectangular _ _

end Source

/-! ## Attempts -/

namespace Build

variable {build : Build} {source : Source} {config : Config}

/-- Why a worker fails on a node: the termination flag, the node itself, or memory. -/
inductive Stopped (flag : Bool) (source : Source) (config : Config) (part : Partition)
    (node : Nat) (failure : Failure) : Prop where
  | terminated (hflag : flag = true) (h : failure = .terminated)
  | refused (h : source.accepted config part node = .error failure)
  | exhausted (capacity : Nat) (h : failure = .capacityExhausted capacity)

/-- What an attempt on a node leaves, by its outcome. -/
structure Attempted (build : Build) (source : Source) (config : Config)
    (contents : Nat → Batch) (part : Partition) (node : Nat) (outcome : Except Failure Unit)
    (after : Store) : Prop where
  shape : build.store.SameShape after
  ok : outcome = .ok () → ∃ batch, source.accepted config part node = .ok batch ∧
    after.Sound 0 (Function.update contents node batch)
  error : ∀ failure, outcome = .error failure → after.Sound 0 contents ∧
    Stopped build.terminated source config part node failure

/-- Compressing a prepared batch with an open compressor. -/
theorem attempted_of_prepared {contents : Nat → Batch} {number node : Nat} {part : Partition}
    {batch : Batch} (hprepared : source.prepared config node = .ok batch)
    (hstore : build.store.config = config) (hsound : build.store.Sound 0 contents)
    (hcompressor : build.store.compressor? number ≠ none)
    (hpart : part.stop ≤ build.store.nodeCount)
    (hnumbers : (build.store.compress number part node batch.targets batch.channels
      batch.targets.length).outcome ≠ .error (.capacityExhausted config.pageSize.toNat)) :
    build.Attempted source config contents part node
      ((build.store.compress number part node batch.targets batch.channels
        batch.targets.length).outcome.map fun _ => ())
      (build.store.compress number part node batch.targets batch.channels
        batch.targets.length).store := by
  rw [← hstore] at hnumbers
  obtain ⟨hcompressed, hcause⟩ :=
    Store.compress_spec hsound (Nat.zero_le number) hpart node _ _ _ hnumbers
  rw [Batch.firsts_of_rectangular (Source.prepared_rectangular hprepared)] at hcompressed
  refine ⟨hcompressed.shape, ?_, ?_⟩
  · intro hok
    obtain ⟨length, hlength, -⟩ := map_eq_ok_iff.mp hok
    obtain ⟨-, encoded, -, -, hencoded, -⟩ := Store.exists_encoded_of_compress hlength
    rw [hstore] at hencoded
    exact ⟨batch, Source.accepted_eq_ok_iff.mpr ⟨hprepared, encoded, hencoded⟩,
      hcompressed.ok length hlength⟩
  · intro failure hfailure
    have hfailed := map_eq_error_iff.mp hfailure
    refine ⟨hcompressed.error failure hfailed, ?_⟩
    rcases hcause failure hfailed with hclosed | hrefused | ⟨capacity, hcapacity⟩
    · exact absurd hclosed hcompressor
    · rw [hstore] at hrefused
      refine .refused ?_
      simp only [Source.accepted, hprepared, hrefused, bind, Except.bind]
    · exact .exhausted capacity hcapacity

/-- An attempt on the next node of a worker whose compressor is open. The page numbers must not be
used up, though the source may say that they are. -/
theorem compressNext_spec {contents : Nat → Batch} (worker : Worker)
    (hconfig : build.config = config) (hstore : build.store.config = config)
    (hsound : build.store.Sound 0 contents)
    (hcompressor : build.store.compressor? worker.compressor ≠ none)
    (hpart : worker.part.stop ≤ build.store.nodeCount)
    (hnumbers : ∀ batch, source.prepared config worker.next = .ok batch →
      (build.compressNext source worker).1 ≠ .error (.capacityExhausted config.pageSize.toNat)) :
    build.Attempted source config contents worker.part worker.next
      (build.compressNext source worker).1 (build.compressNext source worker).2 := by
  have hprepare : build.prepare source worker.next = source.prepared config worker.next := by
    rw [Build.prepare, hconfig, Source.prepared]
  unfold compressNext at hnumbers ⊢
  split
  case isTrue hflag =>
    refine ⟨.refl build.store, by simp, ?_⟩
    intro failure hfailure
    exact ⟨hsound, .terminated hflag (Except.error.inj hfailure).symm⟩
  case isFalse hflag =>
    rw [if_neg hflag] at hnumbers
    rw [hprepare] at hnumbers ⊢
    cases hprepared : source.prepared config worker.next with
    | error failure =>
        refine ⟨.refl build.store, by simp, ?_⟩
        intro failure' hfailure
        refine ⟨hsound, .refused ?_⟩
        rw [← Except.error.inj hfailure, Source.accepted, hprepared]
        rfl
    | ok batch =>
        rw [hprepared] at hnumbers
        exact attempted_of_prepared hprepared hstore hsound hcompressor hpart fun hpages =>
          hnumbers batch rfl (map_eq_error_iff.mpr hpages)

end Build

end CompactAdjacency
