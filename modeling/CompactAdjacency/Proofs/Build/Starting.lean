import Mathlib
import CompactAdjacency.Proofs.Build.Coherence

/-!
# Starting a build

A build starts if the configuration names no other number of channels than the source and can be
followed, and if the directory and a batch fit into memory; `start_eq_ok_iff` is the exact
condition. Then the invariant holds with no node taken, and the partitions of the workers cover the
nodes, `coherent_of_start`.
-/

namespace CompactAdjacency

/-- A configuration with another number of channels. -/
def Config.withChannels (config : Config) (channelCount : UInt64) : Config :=
  { config with channelCount := channelCount }

/-! ## Creating many compressors -/

namespace Store

variable {store : Store} {founded : Nat} {contents : Nat → Batch}

/-- What is left after creating a number of compressors: nothing but the compressors and the arenas
has changed, and no compressor is closed. -/
structure Opens (store after : Store) (count : Nat) : Prop where
  config : after.config = store.config
  directory : after.directory = store.directory
  length : after.compressors.length = store.compressors.length + count
  opened : ∀ compressor ∈ after.compressors, compressor ≠ none

/-- Compressors created one after another are all open. -/
theorem foldl_createCompressor {α : Type} (h : store.Sound founded contents)
    (hopen : ∀ compressor ∈ store.compressors, compressor ≠ none) (items : List α) :
    (items.foldl (fun store _ => store.createCompressor) store).Sound founded contents ∧
      store.Opens (items.foldl (fun store _ => store.createCompressor) store) items.length := by
  induction items generalizing store with
  | nil => exact ⟨h, rfl, rfl, rfl, hopen⟩
  | cons item items ih =>
      have hopen' : ∀ compressor ∈ store.createCompressor.compressors, compressor ≠ none := by
        intro compressor hmem
        rcases List.mem_append.mp hmem with hold | hnew
        · exact hopen compressor hold
        · rw [List.mem_singleton.mp hnew]
          exact Option.some_ne_none _
      obtain ⟨hsound, hopens⟩ := ih (sound_createCompressor h) hopen'
      refine ⟨hsound, hopens.config, hopens.directory, ?_, hopens.opened⟩
      have hlength : store.createCompressor.compressors.length = store.compressors.length + 1 :=
        List.length_append
      have hrest := hopens.length
      rw [List.foldl_cons, List.length_cons]
      omega

/-- Every compressor is found while none is closed. -/
theorem Opens.compressor?_ne_none {after : Store} {count number : Nat}
    (h : store.Opens after count) (hnumber : number < after.compressors.length) :
    after.compressor? number ≠ none := by
  rw [compressor?, openCompressor?, List.getElem?_eq_getElem hnumber, Option.join_some, ne_eq,
    Option.map_eq_none_iff]
  exact h.opened _ (List.getElem_mem hnumber)

end Store

namespace Build

variable {source : Source} {config : Config} {build : Build}

/-- The state a build starts in, for a store without compressors. -/
def initial (config : Config) (store : Store) : Build :=
  { config := config
    store := (store.directory.partitions config.workers.toNat).foldl
      (fun store _ => store.createCompressor) store
    workers := (store.directory.partitions config.workers.toNat).mapIdx fun number part =>
      ⟨number, part, part.start, none⟩
    terminated := false
    progress := [] }

/-- The configuration of a build may leave the number of channels open. -/
theorem configure_eq_ok_iff {configured : Config} :
    configure config source = .ok configured ↔
      (config.channelCount = 0 ∨ config.channelCount = source.channelCount) ∧
        config.withChannels source.channelCount = configured := by
  unfold configure
  split
  case isTrue hother =>
    rw [← not_or] at hother
    simp [hother]
  case isFalse hfits =>
    rw [← not_or, not_not] at hfits
    simp [hfits, Config.withChannels]

/-- When a build starts, and in which state. -/
theorem start_eq_ok_iff :
    start config source = .ok build ↔
      (config.channelCount = 0 ∨ config.channelCount = source.channelCount) ∧
        checkBatch source = .ok () ∧
        ∃ store, Store.create (config.withChannels source.channelCount)
            source.nodeCount = .ok store ∧
          initial (config.withChannels source.channelCount) store = build := by
  simp only [start, bind_eq_ok_iff, pure_eq_ok_iff, configure_eq_ok_iff]
  constructor
  · rintro ⟨config', ⟨hcount, rfl⟩, store, hstore, ⟨⟩, hbatch, rfl⟩
    exact ⟨hcount, hbatch, store, hstore, rfl⟩
  · rintro ⟨hcount, hbatch, store, hstore, rfl⟩
    exact ⟨_, ⟨hcount, rfl⟩, store, hstore, (), hbatch, rfl⟩

/-- Every worker starts at work, at the first node of its partition. -/
theorem fresh_of_start (h : start config source = .ok build) :
    ∀ worker ∈ build.workers, worker.outcome = none ∧ worker.next = worker.part.start := by
  obtain ⟨-, -, store, -, rfl⟩ := start_eq_ok_iff.mp h
  intro worker hworker
  obtain ⟨number, hnumber, rfl⟩ := List.mem_mapIdx.mp hworker
  exact ⟨rfl, rfl⟩

/-- The invariant holds of the workers of a new store, with no node taken. -/
theorem coherent_initial {store : Store}
    (hcreate : Store.create config source.nodeCount = .ok store) :
    Coherent source config (store.directory.partitions config.workers.toNat)
        (fun _ => .empty config.channelCount.toNat) (initial config store) ∧
      Partition.Cover (store.directory.partitions config.workers.toNat) source.nodeCount := by
  obtain ⟨hconfig, hnodeCount, hsound⟩ := (Store.Started.created hcreate).sound
  have hnone : store.compressors = [] := by
    obtain ⟨-, directory, -, rfl⟩ := Store.create_eq_ok_iff.mp hcreate
    rfl
  rw [hnone, List.length_nil] at hsound
  obtain ⟨hsound', hopens⟩ := Store.foldl_createCompressor hsound (by simp [hnone])
    (store.directory.partitions config.workers.toNat)
  have hcover := Directory.cover_partitions hsound.aligned config.workers.toNat
  rw [show store.directory.nodeCount = source.nodeCount from hnodeCount] at hcover
  have hparts : (initial config store).workers.map Worker.part =
      store.directory.partitions config.workers.toNat :=
    List.ext_getElem (by simp [initial]) (by simp [initial])
  have hlength : (initial config store).store.compressors.length =
      (store.directory.partitions config.workers.toNat).length := by
    refine hopens.length.trans ?_
    rw [hnone, List.length_nil, Nat.zero_add]
  refine ⟨⟨rfl, hopens.config.trans hconfig, ?_, hsound', hparts, ?_, ?_⟩, hcover⟩
  · exact (congrArg Directory.nodeCount hopens.directory).trans hnodeCount
  · exact hlength.trans List.length_mapIdx.symm
  · intro number worker hworker
    obtain ⟨part, hpart, rfl⟩ : ∃ part,
        (store.directory.partitions config.workers.toNat)[number]? = some part ∧
          ⟨number, part, part.start, none⟩ = worker := by
      simpa only [initial, List.getElem?_mapIdx, Option.map_eq_some_iff] using hworker
    refine .working part part.start ?_ (Nat.le_refl _)
      (hcover.nonempty part (List.mem_of_getElem? hpart)) ?_
    · exact hopens.compressor?_ne_none
        ((List.getElem?_eq_some_iff.mp hpart).1.trans_eq hlength.symm)
    · intro node hstart hstop
      exact absurd hstart (Nat.not_le.mpr hstop)

/-- The invariant holds when a build starts. -/
theorem coherent_of_start (h : start config source = .ok build) :
    Coherent source (config.withChannels source.channelCount) (build.workers.map Worker.part)
        (fun _ => .empty source.channelCount.toNat) build ∧
      Partition.Cover (build.workers.map Worker.part) source.nodeCount ∧
      build.terminated = false := by
  obtain ⟨-, -, store, hcreate, rfl⟩ := start_eq_ok_iff.mp h
  obtain ⟨hcoherent, hcover⟩ := coherent_initial hcreate
  rw [hcoherent.shares]
  exact ⟨hcoherent, hcover, rfl⟩

end Build

end CompactAdjacency
