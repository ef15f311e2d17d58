import Mathlib
import CompactAdjacency.Proofs.Build.Refusals

/-!
# Mistakes that no build makes

What drives a store can make mistakes, `Failure.Internal`: targets that are not sorted, a degree
that is not counted, a node of another partition, a page that was not returned. A worker compresses
prepared batches in its own partition, so that it makes none of them, whatever the state of the
store, and workers that have all finished have returned their pages. A failure that tells of such a
mistake therefore comes from the source, `internal_of_result`. `Source.build_refusals` joins this
with what else a build fails with.
-/

namespace CompactAdjacency

/-- A failure that the source itself reports at a node. -/
def Source.Reports (source : Source) (failure : Failure) : Prop :=
  ∃ node < source.nodeCount, source.fill node (.empty source.channelCount.toNat) = .error failure

namespace Build

variable {source : Source} {config : Config} {build : Build}

/-! ## Steps -/

/-- A build does not start under a configuration that contradicts the source or cannot be followed,
or for want of memory. -/
theorem start_not_internal {failure : Failure} (h : start config source = .error failure) :
    ¬ failure.Internal := by
  rcases bind_eq_error_iff.mp h with hconfigure | ⟨configured, -, h⟩
  · unfold configure at hconfigure
    split at hconfigure
    case isTrue hother =>
      obtain rfl := Except.error.inj hconfigure
      exact id
    case isFalse hfits => simp at hconfigure
  rcases bind_eq_error_iff.mp h with hcreate | ⟨store, -, h⟩
  · exact Store.create_not_internal hcreate
  rcases bind_eq_error_iff.mp h with hbatch | ⟨-, -, h⟩
  · unfold checkBatch at hbatch
    split at hbatch
    case isTrue hlarge =>
      obtain rfl := Except.error.inj hbatch
      exact id
    case isFalse hsmall => simp at hbatch
  · simp [pure, Except.pure] at h

/-- A mistake that a worker complains of was reported by the source. -/
theorem compressNext_internal (hcountable : source.Countable) {worker : Worker}
    (hnode : worker.next < source.nodeCount)
    (hinside : worker.part.start ≤ worker.next ∧ worker.next < worker.part.stop)
    {failure : Failure} (h : (build.compressNext source worker).1 = .error failure)
    (hinternal : failure.Internal) :
    source.fill worker.next (.empty source.channelCount.toNat) = .error failure := by
  unfold compressNext at h
  split at h
  case isTrue hflag =>
    obtain rfl := Except.error.inj h
    exact hinternal.elim
  case isFalse hflag =>
    split at h
    case h_1 failure' hprepare =>
      obtain rfl := Except.error.inj h
      rcases bind_eq_error_iff.mp hprepare with hfill | ⟨batch, -, hrefused⟩
      · exact hfill
      · exact absurd hinternal (Batch.prepare_not_internal hrefused)
    case h_2 batch hprepare =>
      have hready : batch.Ready := Source.ready_of_prepared hcountable hnode hprepare
      have hrefused := Store.compress_internal (map_eq_error_iff.mp h) hinternal
      exact absurd hinternal (EncodedNode.not_internal_of_ready hready hinside hrefused)

/-! ## Schedules -/

/-- Every mistake that a worker has complained of was reported by the source. -/
def Explained (build : Build) (source : Source) : Prop :=
  ∀ worker ∈ build.workers, ∀ failure, worker.outcome = some (.error failure) →
    failure.Internal → source.Reports failure

/-- A worker may be replaced by one that complains of nothing but what the source reports. -/
theorem Explained.replace (h : build.Explained source) (number : Nat) (store : Store)
    (progress : List Nat) {after : Worker}
    (hafter : ∀ failure, after.outcome = some (.error failure) → failure.Internal →
      source.Reports failure) :
    ({ build with
        store := store
        workers := build.workers.set number after
        progress := progress } : Build).Explained source := by
  intro worker hworker failure hfailed
  rcases List.mem_or_eq_of_mem_set hworker with hold | rfl
  · exact h worker hold failure hfailed
  · exact hafter failure hfailed

/-- A step of a worker adds nothing but what the source reports. -/
theorem Advances.explained {number : Nat} {compressed : Option (Nat × Nat)} {after : Build}
    (hadvances : build.Advances source number compressed after)
    (hcountable : source.Countable) (hplaced : ∀ worker ∈ build.workers, worker.Placed)
    (hinside : ∀ worker ∈ build.workers, worker.part.stop ≤ source.nodeCount)
    (h : build.Explained source) : after.Explained source := by
  cases hadvances with
  | idle hended => exact h
  | failed compressor part next failure store hworker hnext hattempt =>
      have hmem := List.mem_of_getElem? hworker
      have hstart : part.start ≤ next := by
        cases hplaced _ hmem with
        | working _ _ _ hstart hstop => exact hstart
      have hnode : next < source.nodeCount := hnext.trans_le (hinside _ hmem)
      refine h.replace number _ _ ?_
      intro failure' hfailed hinternal
      obtain rfl : failure = failure' := by simpa using hfailed
      exact ⟨next, hnode, compressNext_internal hcountable hnode ⟨hstart, hnext⟩
        (congrArg Prod.fst hattempt) hinternal⟩
  | last compressor part next store hworker hnext hattempt =>
      exact h.replace number _ _ fun failure hfailed => by simp at hfailed
  | more compressor part next store hworker hnext hattempt =>
      exact h.replace number _ _ fun failure hfailed => by simp at hfailed

/-- So does a schedule. -/
theorem Explained.run {parts : List Partition} {log : List (Nat × Nat)}
    (h : build.Explained source) (hcountable : source.Countable)
    (htallied : build.Tallied parts log) (hcover : Partition.Cover parts source.nodeCount)
    (events : List BuildEvent) : (build.run source events).Explained source := by
  induction events generalizing build log with
  | nil => exact h
  | cons event events ih =>
      rw [run_cons]
      refine ih ?_ (htallied.step source event)
      cases event with
      | terminate => exact h
      | advance number =>
          refine (advances htallied.placed source number).explained hcountable htallied.placed ?_ h
          intro worker hworker
          exact hcover.inside _ (htallied.shares ▸ List.mem_map_of_mem hworker)

/-- A build that ends in a mistake ends in one that the source reported: the workers add none, and
the store of workers that have all finished can be frozen. -/
theorem internal_of_result (hstart : start config source = .ok build)
    (hcountable : source.Countable) {events : List BuildEvent} {failure : Failure}
    (h : (build.run source events).result? = some (.error failure))
    (hinternal : failure.Internal) : source.Reports failure := by
  obtain ⟨-, hcover, -⟩ := coherent_of_start hstart
  obtain ⟨htallied, -, -⟩ := tallied_of_start hstart
  have hfresh : build.Explained source := by
    intro worker hworker failure hfailed
    simp [(fresh_of_start hstart worker hworker).1] at hfailed
  by_cases hfinished : ∀ worker ∈ (build.run source events).workers,
      worker.outcome = some (.ok ())
  · obtain ⟨result, hresult, -⟩ := result_of_finished hstart hfinished
    simp [hresult] at h
  · obtain ⟨worker, hworker, failure', hfailed, hsame⟩ := failed_of_result h hfinished
    obtain rfl := Except.error.inj hsame
    exact hfresh.run hcountable htallied hcover events worker hworker failure hfailed hinternal

/-! ## Builds -/

/-- The schedule of a build with the workers one after the other, with the moment at which the flag
is raised. -/
def schedule (build : Build) (termination : Termination) : List BuildEvent :=
  (if termination = .before then [.terminate] else []) ++ build.sequential termination.node?

/-- A build is a run of this schedule. -/
theorem build_eq_run (hstart : start config source = .ok build) (termination : Termination) :
    source.build config termination =
      (build.run source (build.schedule termination)).result?.getD (.error .terminated) := by
  have hcalm : ({ build with terminated := false } : Build) = build := by
    rw [← (coherent_of_start hstart).2.2]
  cases termination with
  | never => simp [Source.build, hstart, bind, Except.bind, hcalm, schedule]
  | before =>
      simp only [Source.build, hstart, bind, Except.bind, schedule, decide_true, if_true]
      rfl
  | during node => simp [Source.build, hstart, bind, Except.bind, hcalm, schedule]

/-- So a mistake that such a build ends in was reported by the source. -/
theorem internal_of_build (hcountable : source.Countable) {termination : Termination}
    {failure : Failure} (h : source.build config termination = .error failure)
    (hinternal : failure.Internal) : source.Reports failure := by
  cases hstart : start config source with
  | error failure' =>
      simp only [Source.build, hstart, bind, Except.bind, Except.error.injEq] at h
      subst h
      exact absurd hinternal (start_not_internal hstart)
  | ok build =>
      rw [build_eq_run hstart] at h
      cases hresult : (build.run source (build.schedule termination)).result? with
      | none =>
          rw [hresult, Option.getD_none] at h
          obtain rfl := Except.error.inj h
          exact hinternal.elim
      | some outcome =>
          rw [hresult, Option.getD_some] at h
          subst h
          exact internal_of_result hstart hcountable hresult hinternal

end Build

/-- A build whose configuration fits the source and can be followed starts, unless memory is
refused. Once every worker had a step for each of its nodes, in particular with the workers one
after the other, and with the flag down and no memory refused, the build fails at the lowest node at
which the source fails, a channel has another length than the targets, or their number is wrong, and
it succeeds if there is none. Under any configuration and schedule, no failure tells of a mistake of
the build itself: unsorted targets, a wrong degree, a node of another partition or a page that was
not returned are reported only if the source reports them. -/
theorem Source.build_refusals {source : Source} (hcountable : source.Countable) :
    (∀ config : Config,
      (config.channelCount = 0 ∨ config.channelCount = source.channelCount) →
      (config.withChannels source.channelCount).check = .ok () → source.FitsMemory →
      ∃ build, Build.start config source = .ok build ∧
        (∀ events, build.Complete events → ¬ (build.run source events).Exhausted source →
          ∃ outcome, (build.run source events).result? = some outcome ∧
            source.Decides outcome) ∧
        (¬ (build.run source (build.sequential none)).Exhausted source →
          source.Decides (source.build config .never))) ∧
    ∀ (config : Config) (failure : Failure), failure.Internal →
      (∀ termination, source.build config termination = .error failure →
        source.Reports failure) ∧
      ∀ build events, Build.start config source = .ok build →
        (build.run source events).result? = some (.error failure) → source.Reports failure := by
  refine ⟨?_, ?_⟩
  · intro config hcount hconfig hroom
    obtain ⟨build, hstart⟩ := Build.exists_start hcount hconfig hroom
    refine ⟨build, hstart, fun events => Build.decides_of_complete hstart hcountable, ?_⟩
    intro hmemory
    obtain ⟨outcome, houtcome, hdecides⟩ :=
      Build.decides_of_complete hstart hcountable (Build.complete_sequential build) hmemory
    have hbuild : source.build config .never = outcome := by
      rw [Build.build_eq_run hstart, show build.schedule .never = build.sequential none from rfl,
        houtcome, Option.getD_some]
    rwa [hbuild]
  · intro config failure hinternal
    exact ⟨fun termination h => Build.internal_of_build hcountable h hinternal,
      fun build events hstart h => Build.internal_of_result hstart hcountable h hinternal⟩

/-- A source of three nodes with one property channel, which leaves the channel of node 1 empty and
complains of node 2. -/
def threeRefusing : Source :=
  { nodeCount := 3
    channelCount := 1
    fill := fun node batch =>
      match node with
      | 0 => .ok (batch.push 9 [⟨1⟩])
      | 1 => .ok { batch with targets := [5] }
      | _ => .error (.unsortedTargets 2 1) }

/-- A single worker stops at node 1. -/
theorem threeRefusing_outcomes :
    ((Build.start (Config.default 1) threeRefusing).map fun build =>
      (build.run threeRefusing (build.sequential none)).workers.map Worker.outcome) =
        .ok [some (.error (.channelLength 1 0 0 1))] := by
  cbv

/-- The channel of node 1 is reported by a single worker, though node 2 is refused as well; and if
the second of two workers is the only one to take a step, what is reported of node 2 comes from the
source. -/
theorem build_refusals_threeRefusing :
    threeRefusing.build (Config.default 1) .never = .error (.channelLength 1 0 0 1) ∧
      ∃ build, Build.start (Config.default 2) threeRefusing = .ok build ∧
        (build.run threeRefusing [.advance 1]).result? =
          some (.error (.unsortedTargets 2 1)) ∧
        threeRefusing.Reports (.unsortedTargets 2 1) := by
  have hcountable : threeRefusing.Countable := by
    intro node hnode batch hfill
    match node with
    | 0 | 1 =>
        obtain rfl := Except.ok.inj hfill
        decide
    | other + 2 => simp [threeRefusing] at hfill
  obtain ⟨hdecided, hreports⟩ := Source.build_refusals hcountable
  refine ⟨?_, ?_⟩
  · obtain ⟨build, hstart, -, hsequential⟩ :=
      hdecided (Config.default 1) (.inl rfl) rfl ⟨by decide, fun _ => by decide⟩
    have houtcomes := threeRefusing_outcomes
    rw [hstart] at houtcomes
    have hlist : (build.run threeRefusing (build.sequential none)).workers.map Worker.outcome =
        [some (.error (.channelLength 1 0 0 1))] := Except.ok.inj houtcomes
    have hdecides := hsequential (by
      rintro ⟨worker, hworker, capacity, hcapacity, -⟩
      have hmem := List.mem_map_of_mem (f := Worker.outcome) hworker
      rw [hlist, hcapacity] at hmem
      simp at hmem)
    have hempty : threeRefusing.Refuses 1 (.channelLength 1 0 0 1) :=
      .channelLength ⟨[5], [[]]⟩ [] [] [] (by decide) rfl (by simp) (by simp)
    refine hdecides.refused 1 (by decide) _ hempty ?_
    intro earlier hearlier other hrefused
    obtain rfl : earlier = 0 := Nat.lt_one_iff.mp hearlier
    have hnone : threeRefusing.refusal? 0 = none := by decide
    simp [← Source.refusal?_eq_some_iff, hnone] at hrefused
  · obtain ⟨build, hstart, -, -⟩ :=
      hdecided (Config.default 2) (.inl rfl) rfl ⟨by decide, fun _ => by decide⟩
    have hfailures : ((Build.start (Config.default 2) threeRefusing).map fun build =>
        (build.run threeRefusing [.advance 1]).failure?) =
          .ok (some (.unsortedTargets 2 1)) := by
      cbv
    rw [hstart] at hfailures
    have hfailure : (build.run threeRefusing [.advance 1]).failure? =
        some (.unsortedTargets 2 1) := Except.ok.inj hfailures
    have hresult : (build.run threeRefusing [.advance 1]).result? =
        some (.error (.unsortedTargets 2 1)) := by
      simp only [Build.result?, hfailure]
    have hinternal : (Failure.unsortedTargets 2 1).Internal := trivial
    exact ⟨build, hstart, hresult, (hreports _ _ hinternal).2 build _ hstart hresult⟩

end CompactAdjacency
