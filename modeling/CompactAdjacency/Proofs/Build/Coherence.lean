import Mathlib
import CompactAdjacency.Proofs.Build.Attempts
import CompactAdjacency.Proofs.Storage.Partitions

/-!
# What holds in every state of a build

A worker is either at work, and has compressed the nodes before its next one, or has come to the end
of its partition, or has failed at a node; `WorkerCoherent` is this case distinction, and `Coherent`
adds that the store is sound. The contents of the store are those of the compressed nodes, so that
it plays no part which worker compressed a node and when. `Coherent.step` is about one step of any
worker, and `Coherent.run` about any schedule.
-/

namespace CompactAdjacency.Build

variable {source : Source} {config : Config} {parts : List Partition} {contents : Nat → Batch}
variable {build : Build} {number : Nat}

/-! ## The invariant -/

/-- The nodes of a partition up to `stop` are held as their accepted batches. -/
def Taken (source : Source) (config : Config) (contents : Nat → Batch) (part : Partition)
    (stop : Nat) : Prop :=
  ∀ node, part.start ≤ node → node < stop →
    source.accepted config part node = .ok (contents node)

/-- What is known of a worker, by how it ended. -/
inductive WorkerCoherent (build : Build) (source : Source) (config : Config)
    (contents : Nat → Batch) (number : Nat) : Worker → Prop where
  | working (part : Partition) (next : Nat) (hopen : build.store.compressor? number ≠ none)
      (hstart : part.start ≤ next) (hstop : next < part.stop)
      (htaken : Taken source config contents part next) :
      WorkerCoherent build source config contents number ⟨number, part, next, none⟩
  | finished (part : Partition) (hclosed : build.store.compressor? number = none)
      (htaken : Taken source config contents part part.stop) :
      WorkerCoherent build source config contents number ⟨number, part, part.stop, some (.ok ())⟩
  | failed (part : Partition) (node : Nat) (failure : Failure)
      (hclosed : build.store.compressor? number = none)
      (hstart : part.start ≤ node) (hstop : node < part.stop)
      (htaken : Taken source config contents part node)
      (hstopped : Stopped build.terminated source config part node failure) :
      WorkerCoherent build source config contents number
        ⟨number, part, node + 1, some (.error failure)⟩

/-- The invariant of a build. -/
structure Coherent (source : Source) (config : Config) (parts : List Partition)
    (contents : Nat → Batch) (build : Build) : Prop where
  buildConfig : build.config = config
  storeConfig : build.store.config = config
  nodeCount : build.store.nodeCount = source.nodeCount
  sound : build.store.Sound 0 contents
  shares : build.workers.map Worker.part = parts
  compressors : build.store.compressors.length = build.workers.length
  workers : ∀ number worker, build.workers[number]? = some worker →
    build.WorkerCoherent source config contents number worker

/-- A worker has one of the partitions. -/
theorem Coherent.part_mem (h : Coherent source config parts contents build) {worker : Worker}
    (hworker : build.workers[number]? = some worker) : worker.part ∈ parts :=
  h.shares ▸ List.mem_map_of_mem (List.mem_of_getElem? hworker)

/-- A node that is compressed stays compressed when another one is, or the same one again. -/
theorem Taken.update {part other : Partition} {stop node : Nat} {batch : Batch}
    (h : Taken source config contents part stop)
    (haccepted : source.accepted config other node = .ok batch) :
    Taken source config (Function.update contents node batch) part stop := by
  intro node' hstart hstop
  have htaken := h node' hstart hstop
  by_cases heq : node' = node
  · subst heq
    rwa [Function.update_self, ← Source.accepted_unique htaken haccepted]
  · rwa [Function.update_of_ne heq]

/-- Taking the next node of a partition. -/
theorem Taken.succ {part : Partition} {node : Nat} {batch : Batch}
    (h : Taken source config contents part node)
    (haccepted : source.accepted config part node = .ok batch) :
    Taken source config (Function.update contents node batch) part (node + 1) := by
  intro node' hstart hstop
  rcases Nat.lt_succ_iff_lt_or_eq.mp hstop with hlt | rfl
  · exact h.update haccepted node' hstart hlt
  · rwa [Function.update_self]

/-- What is known of a worker depends on its own compressor, on the flag, and on the nodes taken. -/
theorem WorkerCoherent.mono {worker : Worker} {contents' : Nat → Batch} {after : Build}
    (h : build.WorkerCoherent source config contents number worker)
    (hcompressor : after.store.compressor? number = build.store.compressor? number)
    (hflag : build.terminated = true → after.terminated = true)
    (htaken : ∀ part stop, Taken source config contents part stop →
      Taken source config contents' part stop) :
    after.WorkerCoherent source config contents' number worker := by
  cases h with
  | working part next hopen hstart hstop htaken' =>
      exact .working part next (hcompressor ▸ hopen) hstart hstop (htaken _ _ htaken')
  | finished part hclosed htaken' =>
      exact .finished part (hcompressor ▸ hclosed) (htaken _ _ htaken')
  | failed part node failure hclosed hstart hstop htaken' hstopped =>
      refine .failed part node failure (hcompressor ▸ hclosed) hstart hstop (htaken _ _ htaken') ?_
      cases hstopped with
      | terminated hraised hfailure => exact .terminated (hflag hraised) hfailure
      | refused hrefused => exact .refused hrefused
      | exhausted capacity hcapacity => exact .exhausted capacity hcapacity

/-- A worker is not before its partition. -/
theorem WorkerCoherent.start_le_next {worker : Worker}
    (h : build.WorkerCoherent source config contents number worker)
    (hnonempty : worker.part.start < worker.part.stop) : worker.part.start ≤ worker.next := by
  cases h with
  | working part next hopen hstart hstop htaken => exact hstart
  | finished part hclosed htaken => exact hnonempty.le
  | failed part node failure hclosed hstart hstop htaken hstopped => exact Nat.le_succ_of_le hstart

/-- Raising the flag preserves the invariant. -/
theorem Coherent.terminate (h : Coherent source config parts contents build) :
    Coherent source config parts contents { build with terminated := true } :=
  ⟨h.buildConfig, h.storeConfig, h.nodeCount, h.sound, h.shares, h.compressors,
    fun number worker hworker =>
      (h.workers number worker hworker).mono rfl (fun _ => rfl) fun _ _ => id⟩

/-- Replacing one worker preserves the invariant if the other ones see no change. -/
theorem Coherent.replace (h : Coherent source config parts contents build)
    {worker after : Worker} (hworker : build.workers[number]? = some worker)
    (hpart : after.part = worker.part) {store : Store} {contents' : Nat → Batch}
    {progress : List Nat} (hconfig : store.config = config)
    (hnodeCount : store.nodeCount = source.nodeCount)
    (hlength : store.compressors.length = build.store.compressors.length)
    (hcompressors : ∀ other ≠ number, store.compressor? other = build.store.compressor? other)
    (hsound : store.Sound 0 contents')
    (htaken : ∀ part stop, Taken source config contents part stop →
      Taken source config contents' part stop)
    (hafter : WorkerCoherent { build with store := store } source config contents' number after) :
    Coherent source config parts contents'
      { build with
        store := store, workers := build.workers.set number after, progress := progress } := by
  refine ⟨h.buildConfig, hconfig, hnodeCount, hsound, ?_, ?_, ?_⟩
  · have hshare : (build.workers.map Worker.part)[number]? = some worker.part := by
      rw [List.getElem?_map, hworker, Option.map_some]
    obtain ⟨hlt, hget⟩ := List.getElem?_eq_some_iff.mp hshare
    rw [List.map_set, hpart, ← hget, List.set_getElem_self, h.shares]
  · rw [hlength, h.compressors, List.length_set]
  · intro other worker' hother
    by_cases heq : other = number
    · subst heq
      rw [List.getElem?_set_self (List.getElem?_eq_some_iff.mp hworker).1] at hother
      obtain rfl := Option.some.inj hother
      exact hafter.mono rfl id fun _ _ => id
    · rw [List.getElem?_set_ne (Ne.symm heq)] at hother
      exact (h.workers other worker' hother).mono (hcompressors other heq) id htaken

/-- Ending a worker, which closes its compressor, preserves the invariant. -/
theorem Coherent.finish (h : Coherent source config parts contents build)
    {worker after : Worker} (hworker : build.workers[number]? = some worker)
    (hpart : after.part = worker.part) {store : Store} {contents' : Nat → Batch}
    {progress : List Nat} (hshape : build.store.SameShape store) (hsound : store.Sound 0 contents')
    (htaken : ∀ part stop, Taken source config contents part stop →
      Taken source config contents' part stop)
    (hafter : (store.close number).compressor? number = none →
      WorkerCoherent { build with store := store.close number } source config contents' number
        after) :
    Coherent source config parts contents'
      { build with
        store := store.close number
        workers := build.workers.set number after
        progress := progress } := by
  obtain ⟨hconfig, hdirectory, hcompressors⟩ := Store.close_shape store number
  refine h.replace hworker hpart (hconfig.trans (hshape.config.trans h.storeConfig)) ?_ ?_ ?_
    (Store.sound_close hsound number) htaken (hafter ?_)
  · exact (congrArg Directory.nodeCount hdirectory).trans (hshape.nodeCount.trans h.nodeCount)
  · rw [hcompressors, List.length_set, hshape.length]
  · intro other hother
    rw [Store.compressor?_close, if_neg hother, hshape.compressor?]
  · rw [Store.compressor?_close, if_pos rfl]

/-! ## Steps -/

/-- A worker that does not exist or has ended does nothing. -/
theorem advance_of_ended (source : Source)
    (h : ∀ worker, build.workers[number]? = some worker → worker.outcome ≠ none) :
    build.advance source number = build := by
  unfold advance
  split
  case h_1 => rfl
  case h_2 => rfl
  case h_3 worker hended hworker =>
    obtain ⟨compressor, part, next, outcome⟩ := worker
    cases outcome with
    | none => exact absurd rfl (h _ hworker)
    | some outcome => exact absurd rfl (hended compressor part next outcome)

section Working

variable {compressor next : Nat} {part : Partition} {store : Store}

/-- A worker without a next node ends. -/
theorem advance_of_past (source : Source)
    (hworker : build.workers[number]? = some ⟨compressor, part, next, none⟩)
    (hnext : part.stop ≤ next) :
    build.advance source number =
      { build with
        store := build.store.close compressor
        workers := build.workers.set number ⟨compressor, part, next, some (.ok ())⟩
        progress := build.progress ++ [part.size] } := by
  simp only [advance, hworker, if_pos hnext, Build.finish]

/-- A worker that fails on its next node ends. -/
theorem advance_of_failure {failure : Failure}
    (hworker : build.workers[number]? = some ⟨compressor, part, next, none⟩)
    (hnext : next < part.stop)
    (hattempt : build.compressNext source ⟨compressor, part, next, none⟩ =
      (.error failure, store)) :
    build.advance source number =
      { build with
        store := store.close compressor
        workers := build.workers.set number
          ⟨compressor, part, next + 1, some (.error failure)⟩ } := by
  simp only [advance, hworker, if_neg (Nat.not_le.mpr hnext), hattempt, Build.finish]

/-- A worker that compresses the last node of its partition ends. -/
theorem advance_of_last
    (hworker : build.workers[number]? = some ⟨compressor, part, next, none⟩)
    (hnext : next + 1 = part.stop)
    (hattempt : build.compressNext source ⟨compressor, part, next, none⟩ = (.ok (), store)) :
    build.advance source number =
      { build with
        store := store.close compressor
        workers := build.workers.set number ⟨compressor, part, part.stop, some (.ok ())⟩
        progress := build.progress ++ [part.size] } := by
  simp only [advance, hworker, if_neg (Nat.not_le.mpr (Nat.lt_of_succ_le hnext.le)), hattempt,
    hnext, if_pos (Nat.le_refl part.stop), Build.finish]

/-- A worker that compresses another node goes on. -/
theorem advance_of_more
    (hworker : build.workers[number]? = some ⟨compressor, part, next, none⟩)
    (hnext : next + 1 < part.stop)
    (hattempt : build.compressNext source ⟨compressor, part, next, none⟩ = (.ok (), store)) :
    build.advance source number =
      { build with
        store := store
        workers := build.workers.set number ⟨compressor, part, next + 1, none⟩ } := by
  simp only [advance, hworker, if_neg (Nat.not_le.mpr (Nat.lt_of_succ_lt hnext)), hattempt,
    if_neg (Nat.not_le.mpr hnext)]

end Working

/-- A build in which a worker was refused memory. -/
def OutOfMemory (build : Build) : Prop :=
  ∃ worker ∈ build.workers, ∃ capacity,
    worker.outcome = some (.error (.capacityExhausted capacity))

/-- A build in which a worker was refused memory for the node it failed at, and not by the
source. -/
def Exhausted (build : Build) (source : Source) : Prop :=
  ∃ worker ∈ build.workers, ∃ capacity,
    worker.outcome = some (.error (.capacityExhausted capacity)) ∧
      source.fill (worker.next - 1) (.empty source.channelCount.toNat) ≠
        .error (.capacityExhausted capacity)

theorem Exhausted.outOfMemory (h : build.Exhausted source) : build.OutOfMemory := by
  obtain ⟨worker, hworker, capacity, hfailed, -⟩ := h
  exact ⟨worker, hworker, capacity, hfailed⟩

/-- A step of a worker at work preserves the invariant, whatever its attempt comes to. -/
theorem Coherent.advance_of_attempted (h : Coherent source config parts contents build)
    {part : Partition} {next : Nat}
    (hfound : build.workers[number]? = some ⟨number, part, next, none⟩)
    (hopen : build.store.compressor? number ≠ none) (hstart : part.start ≤ next)
    (hstop : next < part.stop) (htaken : Taken source config contents part next)
    {outcome : Except Failure Unit} {store : Store}
    (hattempt : build.compressNext source ⟨number, part, next, none⟩ = (outcome, store))
    (hattempted : build.Attempted source config contents part next outcome store) :
    ∃ contents', Coherent source config parts contents' (build.advance source number) := by
  cases outcome with
  | error failure =>
      obtain ⟨hsound, hstopped⟩ := hattempted.error failure rfl
      rw [advance_of_failure hfound hstop hattempt]
      refine ⟨contents, h.finish hfound ?_ hattempted.shape hsound (fun _ _ => id) ?_⟩
      · rfl
      · intro hclosed
        exact .failed part next failure hclosed hstart hstop htaken hstopped
  | ok done =>
      obtain ⟨batch, haccepted, hsound⟩ := hattempted.ok rfl
      refine ⟨Function.update contents next batch, ?_⟩
      rcases Nat.eq_or_lt_of_le (Nat.succ_le_of_lt hstop) with hlast | hmore
      · rw [advance_of_last hfound hlast hattempt]
        refine h.finish hfound ?_ hattempted.shape hsound (fun _ _ => (·.update haccepted)) ?_
        · rfl
        · intro hclosed
          exact .finished part hclosed (hlast ▸ htaken.succ haccepted)
      · rw [advance_of_more hfound hmore hattempt]
        refine h.replace hfound ?_ (hattempted.shape.config.trans h.storeConfig)
          (hattempted.shape.nodeCount.trans h.nodeCount)
          hattempted.shape.length
          (fun other _ => hattempted.shape.compressor? other) hsound
          (fun _ _ => (·.update haccepted)) ?_
        · rfl
        · refine .working part (next + 1) ?_ (Nat.le_succ_of_le hstart) hmore
            (htaken.succ haccepted)
          show store.compressor? number ≠ none
          rw [hattempted.shape.compressor?]
          exact hopen

/-- A step of any worker preserves the invariant. -/
theorem Coherent.advance (h : Coherent source config parts contents build)
    (hcover : Partition.Cover parts source.nodeCount) (number : Nat)
    (hmemory : ¬ (build.advance source number).Exhausted source) :
    ∃ contents', Coherent source config parts contents' (build.advance source number) := by
  by_cases hended : ∀ worker, build.workers[number]? = some worker → worker.outcome ≠ none
  · rw [advance_of_ended source hended]
    exact ⟨contents, h⟩
  · obtain ⟨worker, hfound, hworking⟩ :
        ∃ worker, build.workers[number]? = some worker ∧ worker.outcome = none := by
      simpa using hended
    have hinside := hcover.inside worker.part (h.part_mem hfound)
    cases h.workers number worker hfound with
    | finished part hclosed htaken => simp at hworking
    | failed part node failure hclosed hstart hstop htaken hstopped => simp at hworking
    | working part next hopen hstart hstop htaken =>
        rcases hattempt : build.compressNext source ⟨number, part, next, none⟩ with
          ⟨outcome, store⟩
        have hattempted := compressNext_spec ⟨number, part, next, none⟩ h.buildConfig
          h.storeConfig h.sound hopen (hinside.trans h.nodeCount.ge) (by
            rw [hattempt]
            rintro batch hprepared rfl
            rw [advance_of_failure hfound hstop hattempt] at hmemory
            refine hmemory ⟨_, List.mem_set (List.getElem?_eq_some_iff.mp hfound).1 _, _, rfl, ?_⟩
            exact Source.fill_ne_error hprepared _)
        rw [hattempt] at hattempted
        exact h.advance_of_attempted hfound hopen hstart hstop htaken hattempt hattempted

end CompactAdjacency.Build
