import Mathlib
import CompactAdjacency.Proofs.Build.Assignments
import CompactAdjacency.Proofs.Build.RoundTrip

/-!
# Builds that may be terminated

The termination flag may be raised at any moment of a schedule. A worker that finds it raised fails,
so that a build whose workers have all finished was never stopped by it: the same schedule without
the flag ends in the same state, `calm_run`. A build has a result exactly if every node was
compressed once, and what is read back of a node is then determined by the source;
`run_result_each_node_once` puts this together, and says that a build that was stopped by nothing
but the flag reports that it was terminated.
-/

namespace CompactAdjacency.Build

variable {build : Build} {source : Source} {config : Config} {parts : List Partition}
variable {contents : Nat → Batch}

/-! ## Starting -/

/-- A build starts with nothing compressed, and its partitions list every node once. -/
theorem tallied_of_start (h : start config source = .ok build) :
    build.Tallied (build.workers.map Worker.part) [] ∧
      (build.workers.map Worker.part).flatMap Partition.nodes = List.range source.nodeCount ∧
      build.workers.length ≤ config.workers.toNat := by
  obtain ⟨hcoherent, hcover, -⟩ := coherent_of_start h
  have hfresh := fresh_of_start h
  obtain ⟨-, -, store, hcreate, rfl⟩ := start_eq_ok_iff.mp h
  obtain ⟨hconfig, hnodeCount, hsound⟩ := (Store.Started.created hcreate).sound
  have hworkers : config.workers ≠ 0 :=
    (Config.check_eq_ok_iff.mp (Store.create_eq_ok_iff.mp hcreate).1).1
  have hparts := (coherent_initial hcreate).1.shares
  refine ⟨⟨?_, rfl, ?_, ?_⟩, ?_, ?_⟩
  · intro worker hworker
    have hnonempty := hcover.nonempty worker.part (List.mem_map_of_mem hworker)
    obtain ⟨houtcome, hnext⟩ := hfresh worker hworker
    obtain ⟨compressor, part, next, outcome⟩ := worker
    obtain rfl : outcome = none := houtcome
    obtain rfl : next = part.start := hnext
    exact .working compressor part part.start (Nat.le_refl _) hnonempty
  · have hnothing : ∀ worker ∈ (initial (config.withChannels source.channelCount) store).workers,
        worker.done = [] := by
      intro worker hworker
      obtain ⟨houtcome, hnext⟩ := hfresh worker hworker
      simp [Worker.done, Worker.reached, houtcome, hnext]
    rw [List.flatMap_eq_nil_iff.mpr hnothing]
    exact .refl _
  · have hnothing : ∀ worker ∈ (initial (config.withChannels source.channelCount) store).workers,
        worker.reported = [] := by
      intro worker hworker
      rw [Worker.reported, (hfresh worker hworker).1]
    rw [List.flatMap_eq_nil_iff.mpr hnothing]
    exact .refl _
  · rw [hparts, Directory.flatMap_nodes_partitions hsound.aligned]
    exact congrArg List.range hnodeCount
  · have hlength := Directory.length_partitions_le hsound.aligned config.workers.toNat
    have hpos : 1 ≤ config.workers.toNat := by
      rw [Nat.one_le_iff_ne_zero]
      exact fun hzero => hworkers (UInt64.toNat_inj.mp hzero)
    rw [Nat.max_eq_left hpos] at hlength
    have hcount := congrArg List.length hparts
    rw [List.length_map] at hcount
    exact hcount.trans_le hlength

/-! ## Schedules without the flag -/

/-- A failure of a worker is there to stay. -/
theorem failed_run {worker : Worker} {failure : Failure} (hworker : worker ∈ build.workers)
    (hfailed : worker.outcome = some (.error failure)) (source : Source)
    (events : List BuildEvent) : worker ∈ (build.run source events).workers := by
  obtain ⟨number, hnumber⟩ := List.mem_iff_getElem?.mp hworker
  obtain ⟨after, hafter, hended, -⟩ := run_worker hnumber source events
  obtain rfl := hended (by simp [hfailed])
  exact List.mem_of_getElem? hafter

/-- While the flag is raised a worker that does not fail does nothing. -/
theorem Advances.eq_of_raised {number : Nat} {compressed : Option (Nat × Nat)} {after : Build}
    (hadvances : build.Advances source number compressed after) (hflag : build.terminated = true)
    (hsucceeds : ∀ worker ∈ after.workers, ∀ failure, worker.outcome ≠ some (.error failure)) :
    after = build ∧
      ∀ worker, build.workers[number]? = some worker → worker.outcome ≠ none := by
  cases hadvances with
  | idle hended => exact ⟨rfl, hended⟩
  | failed compressor part next failure store hworker hnext hattempt =>
      exact absurd rfl (hsucceeds _
        (List.mem_set (List.getElem?_eq_some_iff.mp hworker).1 _) failure)
  | last compressor part next store hworker hnext hattempt =>
      simp [compressNext, hflag] at hattempt
  | more compressor part next store hworker hnext hattempt =>
      simp [compressNext, hflag] at hattempt

/-- A step of a worker does the same without the flag, unless the worker fails. -/
theorem advance_calm {number : Nat} (hplaced : ∀ worker ∈ build.workers, worker.Placed)
    (hsucceeds : ∀ worker ∈ (build.advance source number).workers, ∀ failure,
      worker.outcome ≠ some (.error failure)) :
    { build.advance source number with terminated := false } =
      ({ build with terminated := false } : Build).advance source number := by
  cases hflag : build.terminated with
  | false =>
      have hsame : { build with terminated := false } = build := by rw [← hflag]
      have hflag' := (advance_workers build source number).1.trans hflag
      rw [hsame, ← hflag']
  | true =>
      obtain ⟨hsame, hended⟩ := (advances hplaced source number).eq_of_raised hflag hsucceeds
      rw [hsame, advance_of_ended source]
      exact hended

/-- A schedule after which no worker has failed does the same without the flag. -/
theorem calm_run {log : List (Nat × Nat)} (htallied : build.Tallied parts log) (source : Source)
    {events : List BuildEvent}
    (hsucceeds : ∀ worker ∈ (build.run source events).workers, ∀ failure,
      worker.outcome ≠ some (.error failure)) :
    { build.run source events with terminated := false } =
      ({ build with terminated := false } : Build).run source
        (events.filter (· ≠ .terminate)) := by
  induction events generalizing build log with
  | nil => rfl
  | cons event events ih =>
      rw [run_cons] at hsucceeds ⊢
      rw [ih (htallied.step source event) hsucceeds]
      cases event with
      | terminate => rfl
      | advance number =>
          rw [List.filter_cons_of_pos (by simp), run_cons, Build.step, Build.step]
          rw [advance_calm htallied.placed]
          intro worker hworker failure hfailed
          exact hsucceeds worker (failed_run hworker hfailed source events) failure hfailed

/-! ## Results -/

/-- Workers that have all ended, none of them in failure, have finished. -/
theorem finished_of_done (hfailure : build.failure? = none) (hdone : build.isDone = true) :
    ∀ worker ∈ build.workers, worker.outcome = some (.ok ()) := by
  intro worker hworker
  have hended := List.all_eq_true.mp hdone worker hworker
  have hsucceeds := List.findSome?_eq_none_iff.mp hfailure worker hworker
  obtain ⟨outcome, houtcome⟩ := Option.isSome_iff_exists.mp hended
  cases outcome with
  | error failure => simp [houtcome] at hsucceeds
  | ok done => exact houtcome

/-- A build that has a result has finished all of its workers. -/
theorem finished_of_result {result : BuildResult} (h : build.result? = some (.ok result)) :
    ∀ worker ∈ build.workers, worker.outcome = some (.ok ()) := by
  unfold result? at h
  split at h
  case h_1 failure hfailure => simp at h
  case h_2 hfailure =>
    split at h
    case isTrue hdone => exact finished_of_done hfailure hdone
    case isFalse hdone => simp at h

/-- The result of a build is its frozen store and its progress. -/
theorem freeze_of_result {result : BuildResult} (h : build.result? = some (.ok result)) :
    build.store.freeze = .ok result.lists ∧ result.progress = build.progress := by
  unfold result? at h
  split at h
  case h_1 failure hfailure => simp at h
  case h_2 hfailure =>
    split at h
    case isTrue hdone =>
      obtain ⟨lists, hfreeze, rfl⟩ := map_eq_ok_iff.mp (Option.some.inj h)
      exact ⟨hfreeze, rfl⟩
    case isFalse hdone => simp at h

/-- A build that ends although not all of its workers have finished ends as one that failed. -/
theorem failed_of_result {outcome : Except Failure BuildResult}
    (h : build.result? = some outcome)
    (hunfinished : ¬ ∀ worker ∈ build.workers, worker.outcome = some (.ok ())) :
    ∃ worker ∈ build.workers, ∃ failure, worker.outcome = some (.error failure) ∧
      outcome = .error failure := by
  unfold result? at h
  split at h
  case h_1 failure hfailure =>
    obtain rfl := Option.some.inj h
    obtain ⟨worker, hworker, hfailed⟩ := List.exists_of_findSome?_eq_some hfailure
    refine ⟨worker, hworker, failure, ?_, rfl⟩
    split at hfailed
    case h_1 failure' houtcome =>
      obtain rfl := Option.some.inj hfailed
      exact houtcome
    case h_2 => simp at hfailed
  case h_2 hfailure =>
    split at h
    case isTrue hdone => exact absurd (finished_of_done hfailure hdone) hunfinished
    case isFalse hdone => simp at h

/-- A build whose workers have all ended has an outcome. -/
theorem exists_outcome (hdone : build.isDone = true) :
    ∃ outcome, build.result? = some outcome := by
  unfold result?
  split
  case h_1 failure hfailure => exact ⟨_, rfl⟩
  case h_2 hfailure => exact ⟨_, by rw [if_pos hdone]⟩

/-- No worker was refused memory in a build that has finished. -/
theorem not_outOfMemory_of_finished
    (hfinished : ∀ worker ∈ build.workers, worker.outcome = some (.ok ())) :
    ¬ build.OutOfMemory := by
  rintro ⟨worker, hworker, capacity, hcapacity⟩
  simp [hfinished worker hworker] at hcapacity

/-- A build that has finished all of its workers has a result, in which every node reads back what
it was prepared to. -/
theorem result_of_finished (hstart : start config source = .ok build) {events : List BuildEvent}
    (hfinished : ∀ worker ∈ (build.run source events).workers, worker.outcome = some (.ok ())) :
    ∃ result, (build.run source events).result? = some (.ok result) ∧
      ∀ node < source.nodeCount, ∃ batch,
        source.prepared (config.withChannels source.channelCount) node = .ok batch ∧
          result.lists.ReadsBack node batch := by
  obtain ⟨hcoherent, hcover, -⟩ := coherent_of_start hstart
  obtain ⟨contents, hfinal⟩ :=
    hcoherent.run hcover events (not_outOfMemory_of_finished hfinished)
  obtain ⟨result, hresult, hreads⟩ := hfinal.exists_result hcover hfinished
  refine ⟨result, hresult, ?_⟩
  intro node hnode
  obtain ⟨⟨part, haccepted⟩, hread⟩ := hreads node hnode
  exact ⟨contents node, (Source.accepted_eq_ok_iff.mp haccepted).1, hread⟩

/-- A source that fills given relationships has a result after every complete schedule, unless
memory is refused. -/
theorem result_of_complete {batches : Nat → Batch} (hsource : source.Fills batches)
    (hstart : start config source = .ok build) {events : List BuildEvent}
    (hcomplete : build.Complete events) (hmemory : ¬ (build.run source events).OutOfMemory) :
    ∃ result, (build.run source events).result? = some (.ok result) := by
  obtain ⟨hcoherent, hcover, hflag⟩ := coherent_of_start hstart
  have hfinished := finished_of_complete hcoherent hcover hflag
    (fun part hpart node hnode hstop => ⟨_, accepted_of_fills hsource rfl
      (hstop.trans_le (hcover.inside part hpart)) hnode hstop⟩) hcomplete hmemory
  obtain ⟨result, hresult, -⟩ := result_of_finished hstart hfinished
  exact ⟨result, hresult⟩

/-- What a result reads back for a node is what the node was prepared to. -/
theorem readsBack_of_result (hstart : start config source = .ok build) {events : List BuildEvent}
    {result : BuildResult} (hresult : (build.run source events).result? = some (.ok result)) :
    ∀ node < source.nodeCount, ∃ batch,
      source.prepared (config.withChannels source.channelCount) node = .ok batch ∧
        result.lists.ReadsBack node batch := by
  obtain ⟨result', hresult', hreads⟩ := result_of_finished hstart (finished_of_result hresult)
  obtain rfl := Except.ok.inj (Option.some.inj (hresult.symm.trans hresult'))
  exact hreads

/-- Any two results of a source read back the same. -/
theorem results_agree (hstart : start config source = .ok build) {events others : List BuildEvent}
    {result other : BuildResult}
    (hresult : (build.run source events).result? = some (.ok result))
    (hother : (build.run source others).result? = some (.ok other)) :
    ∀ node < source.nodeCount,
      ∃ batch, result.lists.ReadsBack node batch ∧ other.lists.ReadsBack node batch := by
  intro node hnode
  obtain ⟨batch, hbatch, hread⟩ := readsBack_of_result hstart hresult node hnode
  obtain ⟨batch', hbatch', hread'⟩ := readsBack_of_result hstart hother node hnode
  obtain rfl := Except.ok.inj (hbatch.symm.trans hbatch')
  exact ⟨batch, hread, hread'⟩

/-- The progress of a result adds up to the number of nodes. -/
theorem sum_progress_of_result (hstart : start config source = .ok build)
    {events : List BuildEvent} {result : BuildResult}
    (hresult : (build.run source events).result? = some (.ok result)) :
    result.progress.sum = source.nodeCount := by
  obtain ⟨htallied, hnodes, -⟩ := tallied_of_start hstart
  rw [(freeze_of_result hresult).2,
    (htallied.run source events).sum_progress (finished_of_result hresult), hnodes,
    List.length_range]

/-- A schedule that has a result has the same one without the flag. -/
theorem result_of_calm (hstart : start config source = .ok build) {events : List BuildEvent}
    {result : BuildResult} (hresult : (build.run source events).result? = some (.ok result)) :
    (build.run source (events.filter (· ≠ .terminate))).result? = some (.ok result) := by
  have hflag : ({ build with terminated := false } : Build) = build := by
    rw [← (coherent_of_start hstart).2.2]
  have hsucceeds : ∀ worker ∈ (build.run source events).workers, ∀ failure,
      worker.outcome ≠ some (.error failure) := by
    intro worker hworker failure hfailed
    simp [finished_of_result hresult worker hworker] at hfailed
  have hcalm := congrArg Build.result? (calm_run (tallied_of_start hstart).1 source hsucceeds)
  rw [hflag] at hcalm
  exact hcalm.symm.trans hresult

/-- Nothing but the flag stops a worker: no memory is refused, and no node that a worker has come to
is. -/
structure OnlyTerminated (build : Build) (source : Source) : Prop where
  memory : ¬ build.OutOfMemory
  accepted : ∀ worker ∈ build.workers, ∀ node, worker.part.start ≤ node → node < worker.next →
    ∃ batch, source.accepted build.config worker.part node = .ok batch

/-- A worker that nothing but the flag may have stopped was terminated, by a flag that was
raised. -/
theorem terminated_of_failed (hstart : start config source = .ok build)
    {events : List BuildEvent} (honly : (build.run source events).OnlyTerminated source)
    {worker : Worker} (hworker : worker ∈ (build.run source events).workers) {failure : Failure}
    (hfailed : worker.outcome = some (.error failure)) :
    failure = .terminated ∧ .terminate ∈ events := by
  obtain ⟨hcoherent, hcover, hflag⟩ := coherent_of_start hstart
  obtain ⟨contents, hfinal⟩ := hcoherent.run hcover events honly.memory
  obtain ⟨number, hnumber⟩ := List.mem_iff_getElem?.mp hworker
  have haccepted := honly.accepted worker hworker
  rw [hfinal.buildConfig] at haccepted
  cases hfinal.workers number worker hnumber with
  | working part next hopen hstart' hstop htaken => simp at hfailed
  | finished part hclosed htaken => simp at hfailed
  | failed part node failure' hclosed hstart' hstop htaken hstopped =>
      obtain rfl : failure' = failure := by simpa using hfailed
      cases hstopped with
      | terminated hraised hfailure =>
          -- the flag is down at the start, so that an event raised it
          refine ⟨hfailure, ?_⟩
          by_contra hcalm
          rw [run_terminated events hcalm source, hflag] at hraised
          exact Bool.false_ne_true hraised
      | refused hrefused =>
          obtain ⟨batch, hbatch⟩ := haccepted node hstart' (Nat.lt_succ_self node)
          rw [hbatch] at hrefused
          simp at hrefused
      | exhausted capacity hcapacity =>
          exact absurd ⟨_, hworker, capacity, by rw [hcapacity]⟩ honly.memory

/-- There are no more workers than configured, and a build has a result exactly if its schedule
compressed every node once. Then the progress adds up to the number of nodes, the flag has changed
nothing, and every node reads back the same as after any other schedule without the flag. Otherwise
a build that ends fails, and if nothing but the flag can have stopped it, it was terminated. -/
theorem run_result_each_node_once (hstart : start config source = .ok build)
    (events : List BuildEvent) :
    let final := build.run source events
    let each := ((build.compressions source events).map Prod.snd).Perm
      (List.range source.nodeCount)
    build.workers.length ≤ config.workers.toNat ∧
      ((∃ result, final.result? = some (.ok result)) ↔ each) ∧
      (∀ result, final.result? = some (.ok result) →
        result.progress.sum = source.nodeCount ∧
        (build.run source (events.filter (· ≠ .terminate))).result? = some (.ok result) ∧
        ∀ calm other, BuildEvent.terminate ∉ calm →
          (build.run source calm).result? = some (.ok other) → ∀ node < source.nodeCount,
            ∃ batch, result.lists.ReadsBack node batch ∧ other.lists.ReadsBack node batch) ∧
      (∀ outcome, final.result? = some outcome → ¬ each → ∃ failure, outcome = .error failure ∧
        (final.OnlyTerminated source → failure = .terminated ∧ .terminate ∈ events)) ∧
      (final.isDone = true → ∃ outcome, final.result? = some outcome) := by
  intro final each
  obtain ⟨htallied, hnodes, hcount⟩ := tallied_of_start hstart
  have hfinal : final.Tallied (build.workers.map Worker.part) (build.compressions source events) :=
    htallied.run source events
  have heach : (∀ worker ∈ final.workers, worker.outcome = some (.ok ())) ↔ each := by
    rw [hfinal.finished_iff, hnodes]
  refine ⟨hcount, ⟨?_, ?_⟩, ?_, ?_, exists_outcome⟩
  · rintro ⟨result, hresult⟩
    exact heach.mp (finished_of_result hresult)
  · intro hall
    obtain ⟨result, hresult, -⟩ := result_of_finished hstart (heach.mpr hall)
    exact ⟨result, hresult⟩
  · intro result hresult
    exact ⟨sum_progress_of_result hstart hresult, result_of_calm hstart hresult,
      fun calm other _ hother => results_agree hstart hresult hother⟩
  · intro outcome houtcome hnot
    obtain ⟨worker, hworker, failure, hfailed, rfl⟩ :=
      failed_of_result houtcome (mt heach.mp hnot)
    exact ⟨failure, rfl, fun honly => terminated_of_failed hstart honly hworker hfailed⟩

/-- Two workers take turns, and the flag is raised when all nodes are compressed. -/
def raisedAtEnd : List BuildEvent := [.advance 0, .advance 1, .advance 0, .terminate]

/-- The flag is raised after the first node. -/
def raisedEarly : List BuildEvent := [.advance 0, .terminate, .advance 1, .advance 0]

/-- Both workers find the flag raised. -/
theorem raisedEarly_workers :
    ((start keepGreatest threeNodes).map fun build =>
      ((build.run threeNodes raisedEarly).config,
        (build.run threeNodes raisedEarly).workers.map fun worker =>
          (worker.part, worker.next, worker.outcome))) =
      .ok (keepGreatest.withChannels 1,
        [(⟨0, 2⟩, 2, some (.error .terminated)), (⟨2, 3⟩, 3, some (.error .terminated))]) := by
  cbv

/-- Nothing but the flag stops them. -/
theorem raisedEarly_onlyTerminated (hstart : start keepGreatest threeNodes = .ok build) :
    (build.run threeNodes raisedEarly).OnlyTerminated threeNodes := by
  have hworkers := raisedEarly_workers
  rw [hstart] at hworkers
  obtain ⟨hconfig, hworkers⟩ := Prod.mk.inj (Except.ok.inj hworkers)
  have hstate : ∀ worker ∈ (build.run threeNodes raisedEarly).workers,
      worker.next = worker.part.stop ∧ worker.part.stop ≤ 3 ∧
        worker.outcome = some (.error .terminated) := by
    intro worker hworker
    have hmem := hworkers ▸ List.mem_map_of_mem hworker
    simp only [List.mem_cons, List.not_mem_nil, or_false, Prod.mk.injEq] at hmem
    obtain ⟨hpart, hnext, houtcome⟩ | ⟨hpart, hnext, houtcome⟩ := hmem
    · exact ⟨by rw [hnext, hpart], by rw [hpart]; decide, houtcome⟩
    · exact ⟨by rw [hnext, hpart], by rw [hpart], houtcome⟩
  refine ⟨?_, ?_⟩
  · rintro ⟨worker, hworker, capacity, hcapacity⟩
    simp [(hstate worker hworker).2.2] at hcapacity
  · intro worker hworker node hnode hnext
    obtain ⟨hlast, hinside, -⟩ := hstate worker hworker
    rw [hlast] at hnext
    rw [hconfig]
    have hcount : (keepGreatest.withChannels 1).channelCount = threeNodes.channelCount := rfl
    exact ⟨_, accepted_of_fills threeNodes_fills hcount (hnext.trans_le hinside) hnode hnext⟩

/-- A flag that is raised after the last node changes nothing, and one that is raised after the
first node terminates the build. -/
theorem run_result_each_node_once_threeNodes :
    ∃ build, start keepGreatest threeNodes = .ok build ∧
      (∃ result, (build.run threeNodes raisedAtEnd).result? = some (.ok result) ∧
        result.progress.sum = 3) ∧
      (build.run threeNodes raisedEarly).result? = some (.error .terminated) := by
  have hconfig : (keepGreatest.withChannels threeNodes.channelCount).check = .ok () := rfl
  obtain ⟨build, hstart⟩ := exists_start (.inl rfl) hconfig ⟨by decide, fun _ => by decide⟩
  have hlogs : ((start keepGreatest threeNodes).map fun build =>
      ((build.compressions threeNodes raisedAtEnd).map Prod.snd,
        (build.compressions threeNodes raisedEarly).map Prod.snd,
        (build.run threeNodes raisedEarly).isDone)) = .ok ([0, 2, 1], [0], true) := by
    cbv
  rw [hstart] at hlogs
  obtain ⟨hlate, hearly, hdone⟩ :
      (build.compressions threeNodes raisedAtEnd).map Prod.snd = [0, 2, 1] ∧
        (build.compressions threeNodes raisedEarly).map Prod.snd = [0] ∧
        (build.run threeNodes raisedEarly).isDone = true := by
    simpa [Except.map] using hlogs
  obtain ⟨-, hresult, hprogress, -, -⟩ := run_result_each_node_once hstart raisedAtEnd
  obtain ⟨-, -, -, herror, hends⟩ := run_result_each_node_once hstart raisedEarly
  rw [hlate] at hresult
  rw [hearly] at herror
  obtain ⟨result, hresult⟩ := hresult.mpr (by decide)
  obtain ⟨outcome, houtcome⟩ := hends hdone
  obtain ⟨failure, rfl, honly⟩ := herror outcome houtcome (by decide)
  obtain ⟨rfl, -⟩ := honly (raisedEarly_onlyTerminated hstart)
  exact ⟨build, hstart, ⟨result, hresult, (hprogress result hresult).1⟩, houtcome⟩

end CompactAdjacency.Build
