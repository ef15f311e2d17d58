import Mathlib
import CompactAdjacency.Proofs.Build.Coherence

/-!
# Any schedule of the workers

A schedule is any sequence of steps. A worker that has ended stays as it ended, and one that has not
has come one node further with each of its own steps, `run_worker`, so that it has ended when it had
as many steps as its partition has nodes. The invariant holds after any schedule in which no worker
was refused memory, `Coherent.run`.
-/

namespace CompactAdjacency.Build

variable {source : Source} {config : Config} {parts : List Partition} {contents : Nat → Batch}
variable {build : Build} {number : Nat} {worker : Worker}

/-! ## Steps of a worker -/

/-- A step leaves the workers as they are or replaces the one that takes it, which was at work and
has come one node further unless it ended. The flag is not touched. -/
theorem advance_workers (build : Build) (source : Source) (number : Nat) :
    (build.advance source number).terminated = build.terminated ∧
      ((build.advance source number).workers = build.workers ∧
          (∀ worker, build.workers[number]? = some worker → worker.outcome ≠ none) ∨
        ∃ worker after, build.workers[number]? = some worker ∧ worker.outcome = none ∧
          (build.advance source number).workers = build.workers.set number after ∧
          (after.outcome = none → after.next = worker.next + 1)) := by
  by_cases hended : ∀ worker, build.workers[number]? = some worker → worker.outcome ≠ none
  · rw [advance_of_ended source hended]
    exact ⟨rfl, .inl ⟨rfl, hended⟩⟩
  · obtain ⟨⟨compressor, part, next, outcome⟩, hworker, hworking⟩ :
        ∃ worker, build.workers[number]? = some worker ∧ worker.outcome = none := by
      simpa using hended
    obtain rfl : outcome = none := hworking
    by_cases hpast : part.stop ≤ next
    · rw [advance_of_past source hworker hpast]
      exact ⟨rfl, .inr ⟨_, _, hworker, rfl, rfl, by simp⟩⟩
    have hnext : next < part.stop := Nat.not_le.mp hpast
    rcases hattempt : build.compressNext source ⟨compressor, part, next, none⟩ with ⟨outcome, store⟩
    cases outcome with
    | error failure =>
        rw [advance_of_failure hworker hnext hattempt]
        exact ⟨rfl, .inr ⟨_, _, hworker, rfl, rfl, by simp⟩⟩
    | ok done =>
        rcases Nat.eq_or_lt_of_le (Nat.succ_le_of_lt hnext) with hlast | hmore
        · rw [advance_of_last hworker hlast hattempt]
          exact ⟨rfl, .inr ⟨_, _, hworker, rfl, rfl, by simp⟩⟩
        · rw [advance_of_more hworker hmore hattempt]
          exact ⟨rfl, .inr ⟨_, _, hworker, rfl, rfl, fun _ => rfl⟩⟩

/-- What a step leaves of a worker. -/
theorem step_worker (hworker : build.workers[number]? = some worker) (source : Source)
    (event : BuildEvent) :
    ∃ after, (build.step source event).workers[number]? = some after ∧
      (worker.outcome ≠ none → after = worker) ∧
      (after.outcome = none →
        after.next = worker.next + [event].count (BuildEvent.advance number)) := by
  cases event with
  | terminate => exact ⟨worker, hworker, fun _ => rfl, fun _ => rfl⟩
  | advance other =>
      obtain ⟨-, ⟨hsame, hended⟩ | ⟨worker', after, hworker', hworking, hset, hnext⟩⟩ :=
        advance_workers build source other
      · refine ⟨worker, ?_, fun _ => rfl, ?_⟩
        · rw [step, hsame, hworker]
        · intro hnone
          have hother : other ≠ number := by
            rintro rfl
            exact hended worker hworker hnone
          simp [hother]
      · by_cases hother : other = number
        · subst hother
          obtain rfl := Option.some.inj (hworker.symm.trans hworker')
          refine ⟨after, ?_, fun hended => absurd hworking hended, ?_⟩
          · rw [step, hset, List.getElem?_set_self (List.getElem?_eq_some_iff.mp hworker).1]
          · intro hnone
            simpa using hnext hnone
        · refine ⟨worker, ?_, fun _ => rfl, ?_⟩
          · rw [step, hset, List.getElem?_set_ne hother, hworker]
          · simp [hother]

/-! ## Runs -/

theorem run_cons (build : Build) (source : Source) (event : BuildEvent)
    (events : List BuildEvent) :
    build.run source (event :: events) = (build.step source event).run source events :=
  rfl

/-- What a schedule leaves of a worker: it is as it ended, or has come as far as it had steps. -/
theorem run_worker (hworker : build.workers[number]? = some worker) (source : Source)
    (events : List BuildEvent) :
    ∃ after, (build.run source events).workers[number]? = some after ∧
      (worker.outcome ≠ none → after = worker) ∧
      (after.outcome = none →
        after.next = worker.next + events.count (BuildEvent.advance number)) := by
  induction events generalizing build worker with
  | nil => exact ⟨worker, hworker, fun _ => rfl, fun _ => rfl⟩
  | cons event events ih =>
      obtain ⟨middle, hmiddle, hended, hnext⟩ := step_worker hworker source event
      obtain ⟨after, hafter, hended', hnext'⟩ := ih hmiddle
      refine ⟨after, hafter, ?_, ?_⟩
      · intro hne
        obtain rfl := hended hne
        exact hended' hne
      · intro hnone
        -- a worker at work at the end was at work in between
        have hmiddleNone : middle.outcome = none := by
          by_contra hne
          exact hne (hended' hne ▸ hnone)
        rw [hnext' hnone, hnext hmiddleNone, Nat.add_assoc, ← List.count_append,
          List.singleton_append]

/-- Without the event that raises it the flag stays down. -/
theorem run_terminated (events : List BuildEvent) (hevents : BuildEvent.terminate ∉ events)
    (source : Source) : (build.run source events).terminated = build.terminated := by
  induction events generalizing build with
  | nil => rfl
  | cons event events ih =>
      obtain ⟨hevent, hrest⟩ := not_or.mp (mt List.mem_cons.mpr hevents)
      rw [run_cons, ih hrest]
      cases event with
      | advance number => exact (advance_workers build source number).1
      | terminate => exact absurd rfl hevent

/-- Memory that was refused stays refused. -/
theorem Exhausted.run (h : build.Exhausted source) (events : List BuildEvent) :
    (build.run source events).Exhausted source := by
  obtain ⟨worker, hmem, capacity, hworker, hfill⟩ := h
  obtain ⟨number, hnumber⟩ := List.mem_iff_getElem?.mp hmem
  obtain ⟨after, hafter, hended, -⟩ := run_worker hnumber source events
  obtain rfl := hended (by simp [hworker])
  exact ⟨after, List.mem_of_getElem? hafter, capacity, hworker, hfill⟩

/-- A step preserves the invariant. -/
theorem Coherent.step (h : Coherent source config parts contents build)
    (hcover : Partition.Cover parts source.nodeCount) (event : BuildEvent)
    (hmemory : ¬ (build.step source event).Exhausted source) :
    ∃ contents', Coherent source config parts contents' (build.step source event) := by
  cases event with
  | advance number => exact h.advance hcover number hmemory
  | terminate => exact ⟨contents, h.terminate⟩

/-- Any schedule preserves the invariant, unless the store was refused memory. -/
theorem Coherent.run_of_not_exhausted (h : Coherent source config parts contents build)
    (hcover : Partition.Cover parts source.nodeCount) (events : List BuildEvent)
    (hmemory : ¬ (build.run source events).Exhausted source) :
    ∃ contents', Coherent source config parts contents' (build.run source events) := by
  induction events generalizing build contents with
  | nil => exact ⟨contents, h⟩
  | cons event events ih =>
      rw [run_cons] at hmemory ⊢
      -- memory refused on the way would still be refused at the end
      obtain ⟨contents', h'⟩ := h.step hcover event fun hstep => hmemory (hstep.run events)
      exact ih h' hmemory

/-- Any schedule in which no worker was refused memory preserves the invariant. -/
theorem Coherent.run (h : Coherent source config parts contents build)
    (hcover : Partition.Cover parts source.nodeCount) (events : List BuildEvent)
    (hmemory : ¬ (build.run source events).OutOfMemory) :
    ∃ contents', Coherent source config parts contents' (build.run source events) :=
  h.run_of_not_exhausted hcover events fun hexhausted => hmemory hexhausted.outOfMemory

end CompactAdjacency.Build
