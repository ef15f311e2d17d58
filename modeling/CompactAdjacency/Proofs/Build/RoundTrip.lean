import Mathlib
import CompactAdjacency.Proofs.Build.Schedules
import CompactAdjacency.Proofs.Build.Starting
import CompactAdjacency.Proofs.Store.Freezing

/-!
# A build reads back its source

The end of the line from batches to cursors. A source whose batches have one value per target in
every channel is compressed without a failure, whatever the strategy, the page size, the
aggregations, the number of workers and their schedule, and for every node the result reads back the
reference of its batch. Every boundary, between blocks, pages, layouts and partitions, lies inside
of `Sound` and `Coherent`, so that what is left here is that all workers finish.
-/

namespace CompactAdjacency

/-! ## Sources -/

/-- A source that fills the batch of every node with given relationships: one value per target in as
many channels as it says, and fewer targets than a degree can count. -/
structure Source.Fills (source : Source) (batches : Nat → Batch) : Prop where
  filled : ∀ node < source.nodeCount,
    source.fill node (.empty source.channelCount.toNat) = .ok (batches node)
  channels : ∀ node < source.nodeCount,
    (batches node).channels.length = source.channelCount.toNat
  rectangular : ∀ node < source.nodeCount, (batches node).Rectangular
  countable : ∀ node < source.nodeCount, (batches node).targets.length < UInt32.size

/-- A source whose directory and batches fit into memory. -/
structure Source.FitsMemory (source : Source) : Prop where
  entries : 8 * source.nodeCount < allocationLimit
  batches : source.nodeCount ≠ 0 → source.channelCount.toNat * listSize < allocationLimit

/-- The references of the batches of a source are read back from lists. -/
def Source.ReadsReference (source : Source) (config : Config) (batches : Nat → Batch)
    (lists : Lists) : Prop :=
  ∀ node < source.nodeCount, lists.ReadsBack node
    ((batches node).reference config.aggregation config.channelAggregations)

namespace Build

variable {source : Source} {config : Config} {parts : List Partition} {contents : Nat → Batch}
variable {batches : Nat → Batch} {build : Build}

/-- The references of given relationships are accepted. -/
theorem accepted_of_fills (h : source.Fills batches)
    (hcount : config.channelCount = source.channelCount) {part : Partition} {node : Nat}
    (hnode : node < source.nodeCount) (hstart : part.start ≤ node) (hstop : node < part.stop) :
    source.accepted config part node =
      .ok ((batches node).reference config.aggregation config.channelAggregations) := by
  have hrectangular := h.rectangular node hnode
  have hreference := Batch.reference_rectangular hrectangular config.aggregation
    config.channelAggregations
  refine Source.accepted_eq_ok_iff.mpr ⟨?_, _, EncodedNode.ofTargets_eq_ok_iff.mpr ⟨?_, ?_, rfl⟩⟩
  · simp only [Source.prepared, h.filled node hnode, bind, Except.bind]
    exact Batch.prepare_eq_reference hrectangular node _ _
  · refine ⟨⟨hstart, hstop⟩, Nat.le_refl _, ?_, ?_,
      fun values hvalues => (hreference values hvalues).ge⟩
    · exact (Batch.length_reference_le _ _ _).trans_lt (h.countable node hnode)
    · rw [Batch.length_channels_reference, h.channels node hnode, hcount]
  · rw [List.take_length]
    exact Gaps.descentFrom_eq_none_iff.mpr (Batch.reference_ascending _ _ _)

/-! ## Finishing -/

/-- A schedule that leaves the flag down and gives every worker a step for each of its nodes. -/
structure Complete (build : Build) (events : List BuildEvent) : Prop where
  calm : BuildEvent.terminate ∉ events
  enough : ∀ number worker, build.workers[number]? = some worker →
    worker.part.size ≤ events.count (BuildEvent.advance number)

/-- The result of a build whose workers have all finished is its frozen store. -/
theorem result?_of_finished (hfinished : ∀ worker ∈ build.workers, worker.outcome = some (.ok ()))
    {lists : Lists} (hfreeze : build.store.freeze = .ok lists) :
    build.result? = some (.ok ⟨lists, build.progress⟩) := by
  have hfailure : build.failure? = none := by
    rw [failure?, List.findSome?_eq_none_iff]
    intro worker hworker
    rw [hfinished worker hworker]
  have hdone : build.isDone = true := by
    rw [isDone, List.all_eq_true]
    intro worker hworker
    rw [hfinished worker hworker, Option.isSome_some]
  rw [result?, hfailure, hdone, hfreeze]
  rfl

/-- The compressors of workers that have finished are closed, and there are no others. -/
theorem Coherent.compressor?_eq_none (h : Coherent source config parts contents build)
    (hfinished : ∀ worker ∈ build.workers, worker.outcome = some (.ok ())) (number : Nat) :
    build.store.compressor? number = none := by
  cases hfound : build.workers[number]? with
  | none =>
      have hlength := List.getElem?_eq_none_iff.mp hfound
      exact Store.compressor?_of_length_le (h.compressors ▸ hlength)
  | some worker =>
      have houtcome := hfinished worker (List.mem_of_getElem? hfound)
      cases h.workers number worker hfound with
      | working part next hopen hstart hstop htaken => simp at houtcome
      | finished part hclosed htaken => exact hclosed
      | failed part node failure hclosed hstart hstop htaken hstopped => exact hclosed

/-- A build whose workers have all finished has a result, and every node reads back what it was
accepted as. -/
theorem Coherent.exists_result (h : Coherent source config parts contents build)
    (hcover : Partition.Cover parts source.nodeCount)
    (hfinished : ∀ worker ∈ build.workers, worker.outcome = some (.ok ())) :
    ∃ result, build.result? = some (.ok result) ∧ ∀ node < source.nodeCount,
      (∃ part, source.accepted config part node = .ok (contents node)) ∧
        result.lists.ReadsBack node (contents node) := by
  obtain ⟨lists, hfreeze⟩ :=
    h.sound.exists_freeze fun number _ => h.compressor?_eq_none hfinished number
  refine ⟨_, result?_of_finished hfinished hfreeze, ?_⟩
  intro node hnode
  obtain ⟨part, hpart, hstart, hstop⟩ := hcover.complete node hnode
  rw [← h.shares, List.mem_map] at hpart
  obtain ⟨worker, hworker, rfl⟩ := hpart
  obtain ⟨number, hnumber⟩ := List.mem_iff_getElem?.mp hworker
  have houtcome := hfinished worker hworker
  refine ⟨⟨worker.part, ?_⟩, (h.sound.holdsBatch_of_freeze hfreeze node).readsBack⟩
  cases h.workers number worker hnumber with
  | working part next hopen hstart' hstop' htaken => simp at houtcome
  | finished part hclosed htaken => exact htaken node hstart hstop
  | failed part node' failure hclosed hstart' hstop' htaken hstopped => simp at houtcome

/-- After a complete schedule every worker has ended: one still at work would have come past its
partition. -/
theorem ended_of_complete (h : Coherent source config parts contents build)
    (hcover : Partition.Cover parts source.nodeCount) {events : List BuildEvent}
    (hcomplete : build.Complete events) {contents' : Nat → Batch}
    (h' : Coherent source config parts contents' (build.run source events)) :
    ∀ worker ∈ (build.run source events).workers, worker.outcome ≠ none := by
  intro after hafter
  obtain ⟨number, hnumber⟩ := List.mem_iff_getElem?.mp hafter
  have hshare : (build.workers.map Worker.part)[number]? = some after.part := by
    rw [h.shares, ← h'.shares, List.getElem?_map, hnumber, Option.map_some]
  rw [List.getElem?_map, Option.map_eq_some_iff] at hshare
  obtain ⟨worker, hworker, hpart⟩ := hshare
  obtain ⟨after', hafter', -, hnext⟩ := run_worker hworker source events
  obtain rfl := Option.some.inj (hnumber.symm.trans hafter')
  have hsteps := hcomplete.enough number worker hworker
  have hstart := (h.workers number worker hworker).start_le_next
    (hcover.nonempty _ (h.part_mem hworker))
  cases h'.workers number after hnumber with
  | working part next hopen hstart' hstop htaken =>
      have hcame : next = worker.next + events.count (BuildEvent.advance number) := hnext rfl
      have hsame : worker.part = part := hpart
      rw [hsame, Partition.size] at hsteps
      rw [hsame] at hstart
      omega
  | finished part hclosed htaken => simp
  | failed part node failure hclosed hstart' hstop htaken hstopped => simp

/-- After a complete schedule every worker has finished, if no node is refused and no worker was
refused memory. -/
theorem finished_of_complete (h : Coherent source config parts contents build)
    (hcover : Partition.Cover parts source.nodeCount) (hflag : build.terminated = false)
    (haccepted : ∀ part ∈ parts, ∀ node, part.start ≤ node → node < part.stop →
      ∃ batch, source.accepted config part node = .ok batch)
    {events : List BuildEvent} (hcomplete : build.Complete events)
    (hmemory : ¬ (build.run source events).OutOfMemory) :
    ∀ worker ∈ (build.run source events).workers, worker.outcome = some (.ok ()) := by
  obtain ⟨contents', h'⟩ := h.run hcover events hmemory
  intro after hafter
  have hended := ended_of_complete h hcover hcomplete h' after hafter
  obtain ⟨number, hnumber⟩ := List.mem_iff_getElem?.mp hafter
  have hmem := h'.part_mem hnumber
  cases h'.workers number after hnumber with
  | working part next hopen hstart hstop htaken => exact absurd rfl hended
  | finished part hclosed htaken => rfl
  | failed part node failure hclosed hstart hstop htaken hstopped =>
      exfalso
      cases hstopped with
      | terminated hraised hfailure =>
          rw [run_terminated events hcomplete.calm source, hflag] at hraised
          exact Bool.false_ne_true hraised
      | refused hrefused =>
          obtain ⟨batch, hbatch⟩ := haccepted part hmem node hstart hstop
          rw [hbatch] at hrefused
          simp at hrefused
      | exhausted capacity hcapacity =>
          exact hmemory ⟨_, hafter, capacity, by rw [hcapacity]⟩

/-! ## Workers one after the other -/

/-- Without a moment at which the flag is raised a worker has one step for each of its nodes. -/
theorem partEvents_none (number : Nat) (part : Partition) :
    partEvents number none part = List.replicate part.size (BuildEvent.advance number) := by
  simp only [partEvents, reduceCtorEq, if_false]
  rw [← List.map_eq_flatMap, List.map_const', List.length_range']

/-- When the workers act one after the other, each has a step for each of its nodes. -/
theorem complete_sequential (build : Build) : build.Complete (build.sequential none) := by
  refine ⟨?_, ?_⟩
  · rw [sequential, List.mem_flatten]
    rintro ⟨events, hevents, hmem⟩
    obtain ⟨number, hnumber, rfl⟩ := List.mem_mapIdx.mp hevents
    rw [partEvents_none] at hmem
    exact BuildEvent.noConfusion (List.eq_of_mem_replicate hmem)
  · intro number worker hworker
    have hmem : partEvents number none worker.part ∈
        build.workers.mapIdx fun number worker => partEvents number none worker.part := by
      obtain ⟨hlt, hget⟩ := List.getElem?_eq_some_iff.mp hworker
      exact List.mem_mapIdx.mpr ⟨number, hlt, by rw [hget]⟩
    have hcount := (List.sublist_flatten_of_mem hmem).count_le (BuildEvent.advance number)
    rwa [partEvents_none, List.count_replicate_self] at hcount

/-! ## The round trip -/

/-- A build starts if its configuration fits its source and memory holds what it begins with. -/
theorem exists_start
    (hcount : config.channelCount = 0 ∨ config.channelCount = source.channelCount)
    (hconfig : (config.withChannels source.channelCount).check = .ok ())
    (hroom : source.FitsMemory) : ∃ build, start config source = .ok build := by
  have hbatch : checkBatch source = .ok () := by
    rw [checkBatch, if_neg]
    rintro ⟨hnodes, hlarge⟩
    exact Nat.not_le.mpr (hroom.batches hnodes) hlarge
  have hentries := hroom.entries
  obtain ⟨directory, hdirectory⟩ :
      ∃ directory, Directory.ofNodeCount source.nodeCount = .ok directory := by
    rw [Directory.ofNodeCount, if_neg (by omega), if_neg (by omega)]
    exact ⟨_, rfl⟩
  exact ⟨_, start_eq_ok_iff.mpr ⟨hcount, hbatch, _,
    Store.create_eq_ok_iff.mpr ⟨hconfig, directory, hdirectory, rfl⟩, rfl⟩⟩

end Build

/-- Parallel relationships out of order, none, and one to the greatest target. -/
def threeBatches : Nat → Batch
  | 0 => ⟨[9, 5, 9], [[⟨1⟩, ⟨2⟩, ⟨3⟩]]⟩
  | 1 => ⟨[], [[]]⟩
  | _ => ⟨[18446744073709551615], [[⟨4⟩]]⟩

/-- A source of three nodes with one property channel. -/
def threeNodes : Source :=
  { nodeCount := 3
    channelCount := 1
    fill := fun node batch =>
      match node with
      | 0 => .ok (((batch.push 9 [⟨1⟩]).push 5 [⟨2⟩]).push 9 [⟨3⟩])
      | 1 => .ok batch
      | _ => .ok (batch.push 18446744073709551615 [⟨4⟩]) }

/-- Two workers that keep the greatest value of parallel relationships. -/
def keepGreatest : Config := { Config.default 2 with aggregation := .max }

theorem threeNodes_fills : threeNodes.Fills threeBatches := by
  refine ⟨by decide +kernel, by decide +kernel, ?_, by decide +kernel⟩
  show ∀ node < 3, ∀ values ∈ (threeBatches node).channels,
    values.length = (threeBatches node).targets.length
  decide +kernel

end CompactAdjacency
