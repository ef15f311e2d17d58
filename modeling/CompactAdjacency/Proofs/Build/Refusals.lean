import Mathlib
import CompactAdjacency.Proofs.Build.Termination
import CompactAdjacency.Proofs.Store.Refusals

/-!
# What a build fails with

A source may fail at a node, or fill its batch with channels of wrong lengths or with a wrong number
of them: `Source.Refuses` says with what the node is refused then, and `refusal?` computes it. Each
worker stops at the first node of its partition that is refused, and partitions ascend, so that the
failure of the lowest worker is that of the lowest node, `Coherent.failure?_eq_findSome?`. A build
whose workers all had their steps is decided by the source, `decides_of_complete`.
-/

namespace CompactAdjacency

/-! ## Batches -/

namespace Batch

/-- A batch that cannot be prepared has a channel of another length. -/
theorem prepare_not_internal {batch : Batch} {node : Nat} {topology : Aggregation}
    {channels : List Aggregation} {failure : Failure}
    (h : batch.prepare node topology channels = .error failure) : ¬ failure.Internal := by
  cases hmismatch : mismatch batch.targets.length batch.channels with
  | some named =>
      rw [prepare_of_mismatch hmismatch] at h
      obtain rfl := Except.error.inj h
      exact id
  | none =>
      rw [prepare_eq_reference (mismatch_eq_none_iff.mp hmismatch)] at h
      simp at h

end Batch

/-! ## Nodes -/

namespace Source

variable {source : Source} {config : Config} {part : Partition} {node : Nat} {failure : Failure}

/-- No batch has more targets than a degree can count. -/
def Countable (source : Source) : Prop :=
  ∀ node < source.nodeCount, ∀ batch,
    source.fill node (.empty source.channelCount.toNat) = .ok batch →
      batch.targets.length < UInt32.size

/-- Why a node is refused: the source fails, or the first channel that has not one value for each
target, or the number of channels where all have. -/
inductive Refuses (source : Source) (node : Nat) : Failure → Prop
  | unfilled (failure : Failure)
      (hfill : source.fill node (.empty source.channelCount.toNat) = .error failure) :
      Refuses source node failure
  | channelLength (batch : Batch) (front back : List (List Binary64)) (values : List Binary64)
      (hfill : source.fill node (.empty source.channelCount.toNat) = .ok batch)
      (hchannels : batch.channels = front ++ values :: back)
      (hfront : ∀ earlier ∈ front, earlier.length = batch.targets.length)
      (hvalues : values.length ≠ batch.targets.length) :
      Refuses source node
        (.channelLength node front.length values.length batch.targets.length)
  | channelCount (batch : Batch)
      (hfill : source.fill node (.empty source.channelCount.toNat) = .ok batch)
      (hlengths : ∀ values ∈ batch.channels, values.length = batch.targets.length)
      (hcount : batch.channels.length ≠ source.channelCount.toNat) :
      Refuses source node (.channelCount source.channelCount.toNat batch.channels.length)

/-- What a node is refused with, if it is. -/
def refusal? (source : Source) (node : Nat) : Option Failure :=
  match source.fill node (.empty source.channelCount.toNat) with
  | .error failure => some failure
  | .ok batch =>
      match Batch.mismatch batch.targets.length batch.channels with
      | some (channel, length) =>
          some (.channelLength node channel length batch.targets.length)
      | none =>
          if batch.channels.length = source.channelCount.toNat then none
          else some (.channelCount source.channelCount.toNat batch.channels.length)

theorem refusal?_eq_some_iff :
    source.refusal? node = some failure ↔ source.Refuses node failure := by
  constructor
  · intro h
    unfold refusal? at h
    split at h
    case h_1 failure' hfill =>
      obtain rfl := Option.some.inj h
      exact .unfilled failure' hfill
    case h_2 batch hfill =>
      split at h
      case h_1 channel length hmismatch =>
        obtain rfl := Option.some.inj h
        obtain ⟨front, values, back, hchannels, hfront, hvalues, rfl, rfl⟩ :=
          Batch.exists_of_mismatch hmismatch
        exact .channelLength batch front back values hfill hchannels hfront hvalues
      case h_2 hlengths =>
        split at h
        case isTrue hcount => simp at h
        case isFalse hcount =>
          obtain rfl := Option.some.inj h
          exact .channelCount batch hfill (Batch.mismatch_eq_none_iff.mp hlengths) hcount
  · intro h
    cases h with
    | unfilled failure hfill => simp only [refusal?, hfill]
    | channelLength batch front back values hfill hchannels hfront hvalues =>
        simp only [refusal?, hfill, hchannels, Batch.mismatch_append hfront hvalues]
    | channelCount batch hfill hlengths hcount =>
        simp only [refusal?, hfill, Batch.mismatch_eq_none_iff.mpr hlengths, if_neg hcount]

/-- What a batch is prepared to is ready to be encoded. -/
theorem ready_of_prepared (hcountable : source.Countable) (hnode : node < source.nodeCount)
    {batch : Batch} (h : source.prepared config node = .ok batch) : batch.Ready := by
  have hrectangular := prepared_rectangular h
  simp only [prepared, bind_eq_ok_iff, Batch.prepare_eq_ok_iff] at h
  obtain ⟨filled, hfill, -, rfl⟩ := h
  exact ⟨Batch.reference_ascending _ _ _,
    (Batch.length_reference_le _ _ _).trans_lt (hcountable node hnode filled hfill), hrectangular⟩

/-- A node is not accepted in its partition exactly if it is refused. -/
theorem accepted_eq_error_iff (hcountable : source.Countable)
    (hcount : config.channelCount = source.channelCount) (hnode : node < source.nodeCount)
    (hinside : part.start ≤ node ∧ node < part.stop) :
    source.accepted config part node = .error failure ↔ source.refusal? node = some failure := by
  cases hfill : source.fill node (.empty source.channelCount.toNat) with
  | error failure' => simp [accepted, prepared, refusal?, hfill, bind, Except.bind]
  | ok batch =>
      cases hmismatch : Batch.mismatch batch.targets.length batch.channels with
      | some named =>
          simp [accepted, prepared, refusal?, hfill, hmismatch, Batch.prepare_of_mismatch hmismatch,
            bind, Except.bind]
      | none =>
          have hrectangular := Batch.mismatch_eq_none_iff.mp hmismatch
          have hprepared : source.prepared config node =
              .ok (batch.reference config.aggregation config.channelAggregations) := by
            simp only [prepared, hfill, bind, Except.bind]
            exact Batch.prepare_eq_reference hrectangular node _ _
          have hready := ready_of_prepared hcountable hnode hprepared
          have hchannels := Batch.length_channels_reference batch config.aggregation
            config.channelAggregations
          by_cases hequal : batch.channels.length = source.channelCount.toNat
          · obtain ⟨encoded, hencoded⟩ := EncodedNode.exists_ofTargets_of_ready config hready
              hinside (by rw [hchannels, hequal, hcount])
            simp [accepted, hprepared, hencoded, refusal?, hfill, hmismatch, hequal, bind,
              Except.bind, pure, Except.pure]
          · have hrefused := EncodedNode.ofTargets_error_of_ready config hready hinside
              (by rw [hchannels, hcount]; exact hequal)
            rw [hchannels, hcount] at hrefused
            simp [accepted, hprepared, hrefused, refusal?, hfill, hmismatch, hequal, bind,
              Except.bind]

/-- A node that is accepted is not refused. -/
theorem refusal?_eq_none_of_accepted (hcountable : source.Countable)
    (hcount : config.channelCount = source.channelCount) (hnode : node < source.nodeCount)
    (hinside : part.start ≤ node ∧ node < part.stop) {batch : Batch}
    (h : source.accepted config part node = .ok batch) : source.refusal? node = none := by
  rw [Option.eq_none_iff_forall_ne_some]
  intro failure hrefused
  rw [(accepted_eq_error_iff hcountable hcount hnode hinside).mpr hrefused] at h
  simp at h

end Source

/-! ## Workers -/

/-- The first find in several lists is that in the first list with one. -/
theorem findSome?_flatMap {α β γ : Type} {find : α → Option γ} {list : α → List β}
    {test : β → Option γ} {items : List α}
    (h : ∀ item ∈ items, find item = (list item).findSome? test) :
    items.findSome? find = (items.flatMap list).findSome? test := by
  induction items with
  | nil => rfl
  | cons item rest ih =>
      rw [List.findSome?_cons, List.flatMap_cons, List.findSome?_append, h item (by simp),
        ih fun other hother => h other (List.mem_cons_of_mem _ hother)]
      cases (list item).findSome? test with
      | none => rfl
      | some found => rfl

/-- The first find in a range. -/
theorem findSome?_range' {β : Type} {test : Nat → Option β} {start size node : Nat} {found : β}
    (hstart : start ≤ node) (hstop : node < start + size)
    (hearlier : ∀ other, start ≤ other → other < node → test other = none)
    (hfound : test node = some found) : (List.range' start size).findSome? test = some found := by
  obtain ⟨before, rfl⟩ := Nat.exists_eq_add_of_le hstart
  obtain ⟨after, rfl⟩ : ∃ after, size = before + (after + 1) := ⟨size - before - 1, by omega⟩
  refine List.findSome?_eq_some_iff.mpr ⟨List.range' start before, start + before,
    List.range' (start + before + 1) after, ?_, hfound, ?_⟩
  · rw [← List.range'_append_1, List.range'_succ]
  · intro other hother
    obtain ⟨hfirst, hlast⟩ := List.mem_range'_1.mp hother
    exact hearlier other hfirst hlast

/-- How a worker failed, if it did. -/
def Worker.failure? (worker : Worker) : Option Failure :=
  match worker.outcome with
  | some (.error failure) => some failure
  | _ => none

namespace Build

variable {source : Source} {config : Config} {parts : List Partition} {contents : Nat → Batch}
variable {build : Build} {number : Nat}

/-- A worker that has ended, neither stopped by the flag nor refused memory, failed with the first
refusal in its partition. -/
theorem Coherent.worker_failure? (h : Coherent source config parts contents build)
    (hcover : Partition.Cover parts source.nodeCount) (hcountable : source.Countable)
    (hcount : config.channelCount = source.channelCount) (hflag : build.terminated = false)
    (hmemory : ¬ build.Exhausted source) {worker : Worker}
    (hworker : build.workers[number]? = some worker) (hended : worker.outcome ≠ none) :
    worker.failure? = worker.part.nodes.findSome? source.refusal? := by
  have hinside := hcover.inside worker.part (h.part_mem hworker)
  cases h.workers number worker hworker with
  | working part next hopen hstart hstop htaken => exact absurd rfl hended
  | finished part hclosed htaken =>
      symm
      rw [Worker.failure?, List.findSome?_eq_none_iff]
      intro node hnode
      obtain ⟨hstart, hstop⟩ := Partition.mem_nodes_iff.mp hnode
      exact Source.refusal?_eq_none_of_accepted hcountable hcount (hstop.trans_le hinside)
        ⟨hstart, hstop⟩ (htaken node hstart hstop)
  | failed part node failure hclosed hstart hstop htaken hstopped =>
      have hnode : node < source.nodeCount := hstop.trans_le hinside
      have hrefused : source.refusal? node = some failure := by
        cases hstopped with
        | terminated hraised hfailure =>
            rw [hflag] at hraised
            exact absurd hraised Bool.false_ne_true
        | refused hrefused =>
            exact (Source.accepted_eq_error_iff hcountable hcount hnode ⟨hstart, hstop⟩).mp hrefused
        | exhausted capacity hcapacity =>
            -- where memory was not refused, it is the source that says so
            subst hcapacity
            refine Source.refusal?_eq_some_iff.mpr (.unfilled _ ?_)
            by_contra hfill
            exact hmemory ⟨_, List.mem_of_getElem? hworker, capacity, rfl, hfill⟩
      symm
      refine findSome?_range' hstart ?_ ?_ hrefused
      · show node < part.start + (part.stop - part.start)
        omega
      · intro other hother hearlier
        exact Source.refusal?_eq_none_of_accepted hcountable hcount (hearlier.trans hnode)
          ⟨hother, hearlier.trans hstop⟩ (htaken other hother hearlier)

/-- Where all workers have ended this way, a build failed with the first refusal of all nodes. -/
theorem Coherent.failure?_eq_findSome? (h : Coherent source config parts contents build)
    (hcover : Partition.Cover parts source.nodeCount) (hcountable : source.Countable)
    (hcount : config.channelCount = source.channelCount) (hflag : build.terminated = false)
    (hmemory : ¬ build.Exhausted source)
    (hnodes : parts.flatMap Partition.nodes = List.range source.nodeCount)
    (hended : ∀ worker ∈ build.workers, worker.outcome ≠ none) :
    build.failure? = (List.range source.nodeCount).findSome? source.refusal? := by
  have heach : ∀ worker ∈ build.workers,
      worker.failure? = worker.part.nodes.findSome? source.refusal? := by
    intro worker hworker
    obtain ⟨number, hnumber⟩ := List.mem_iff_getElem?.mp hworker
    exact h.worker_failure? hcover hcountable hcount hflag hmemory hnumber (hended worker hworker)
  calc build.failure?
    _ = build.workers.findSome? Worker.failure? := rfl
    _ = (build.workers.flatMap fun worker => worker.part.nodes).findSome? source.refusal? :=
        findSome?_flatMap heach
    _ = (List.range source.nodeCount).findSome? source.refusal? := by
        rw [← hnodes, ← h.shares, List.flatMap_map]

end Build

/-! ## Outcomes -/

/-- What the outcome of a build has to be: the refusal of the first node that is refused, and lists
where no node is. -/
structure Source.Decides (source : Source) (outcome : Except Failure BuildResult) : Prop where
  refused : ∀ node < source.nodeCount, ∀ failure, source.Refuses node failure →
    (∀ earlier < node, ∀ other, ¬ source.Refuses earlier other) → outcome = .error failure
  built : (∀ node < source.nodeCount, ∀ failure, ¬ source.Refuses node failure) →
    ∃ result, outcome = .ok result

namespace Build

variable {source : Source} {config : Config} {build : Build}

/-- The result of a build whose workers have all ended is decided by its failure. -/
theorem decides_of_failure? {outcome : Except Failure BuildResult}
    (hfailed : ∀ failure, build.failure? = some failure → outcome = .error failure)
    (hbuilt : build.failure? = none → ∃ result, outcome = .ok result)
    (hfirst : build.failure? = (List.range source.nodeCount).findSome? source.refusal?) :
    source.Decides outcome := by
  refine ⟨?_, ?_⟩
  · intro node hnode failure hrefused hearlier
    refine hfailed failure (hfirst.trans ?_)
    rw [List.range_eq_range']
    refine findSome?_range' (Nat.zero_le node) (by omega) ?_
      (Source.refusal?_eq_some_iff.mpr hrefused)
    intro other _ hother
    rw [Option.eq_none_iff_forall_ne_some]
    intro failure' hrefused'
    exact hearlier other hother failure' (Source.refusal?_eq_some_iff.mp hrefused')
  · intro hall
    refine hbuilt (hfirst.trans ?_)
    rw [List.findSome?_eq_none_iff]
    intro node hnode
    rw [Option.eq_none_iff_forall_ne_some]
    intro failure hrefused
    exact hall node (List.mem_range.mp hnode) failure (Source.refusal?_eq_some_iff.mp hrefused)

/-- After a complete schedule in which the store was not refused memory the outcome is decided by
the source. -/
theorem decides_of_complete (hstart : start config source = .ok build)
    (hcountable : source.Countable) {events : List BuildEvent} (hcomplete : build.Complete events)
    (hmemory : ¬ (build.run source events).Exhausted source) :
    ∃ outcome, (build.run source events).result? = some outcome ∧ source.Decides outcome := by
  obtain ⟨hcoherent, hcover, hflag⟩ := coherent_of_start hstart
  obtain ⟨-, hnodes, -⟩ := tallied_of_start hstart
  obtain ⟨contents, hfinal⟩ := hcoherent.run_of_not_exhausted hcover events hmemory
  have hended := ended_of_complete hcoherent hcover hcomplete hfinal
  have hdone : (build.run source events).isDone = true := by
    rw [isDone, List.all_eq_true]
    exact fun worker hworker => Option.isSome_iff_ne_none.mpr (hended worker hworker)
  have hdown : (build.run source events).terminated = false := by
    rw [run_terminated events hcomplete.calm source, hflag]
  have hfirst := hfinal.failure?_eq_findSome? hcover hcountable rfl hdown hmemory hnodes hended
  obtain ⟨outcome, houtcome⟩ := exists_outcome hdone
  refine ⟨outcome, houtcome, decides_of_failure? ?_ ?_ hfirst⟩
  · intro failure hfailure
    simp only [result?, hfailure, Option.some.injEq] at houtcome
    exact houtcome.symm
  · intro hnone
    have hfinished := finished_of_done hnone hdone
    obtain ⟨result, hresult, -⟩ := hfinal.exists_result hcover hfinished
    exact ⟨result, Option.some.inj (houtcome.symm.trans hresult)⟩

end Build

end CompactAdjacency
