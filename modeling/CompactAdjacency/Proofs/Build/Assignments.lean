import Mathlib
import CompactAdjacency.Proofs.Build.Schedules

/-!
# Which worker compresses which node

Every step of a schedule compresses one node or none, `Build.compressed?`, and the log of a run is
`Build.compressions`. A worker has compressed the nodes of its partition up to the one it comes to
next, whatever the store answers, so that the log lists the nodes that the workers are done with,
each as often as it was compressed: this is `Tallied`, which every step and every run preserve. So
all workers finish exactly if the log lists every node of every partition, `Tallied.finished_iff`,
and then the progress reported adds up to the number of nodes.
-/

namespace CompactAdjacency

/-! ## Workers in their partitions -/

namespace Worker

/-- The node that a worker has come to. One that failed took the node but did not compress it. -/
def reached (worker : Worker) : Nat :=
  match worker.outcome with
  | some (.error _) => worker.next - 1
  | _ => worker.next

/-- The nodes that a worker has compressed. -/
def done (worker : Worker) : List Nat :=
  List.range' worker.part.start (worker.reached - worker.part.start)

/-- The progress that a worker reports, which is all of its partition or nothing. -/
def reported (worker : Worker) : List Nat :=
  match worker.outcome with
  | some (.ok ()) => [worker.part.size]
  | _ => []

/-- A worker is inside of its partition while it works and when it fails, and at its end when it has
finished. -/
inductive Placed : Worker → Prop
  | working (compressor : Nat) (part : Partition) (next : Nat) (hstart : part.start ≤ next)
      (hstop : next < part.stop) : Placed ⟨compressor, part, next, none⟩
  | finished (compressor : Nat) (part : Partition) :
      Placed ⟨compressor, part, part.stop, some (.ok ())⟩
  | failed (compressor : Nat) (part : Partition) (node : Nat) (failure : Failure)
      (hstart : part.start ≤ node) (hstop : node < part.stop) :
      Placed ⟨compressor, part, node + 1, some (.error failure)⟩

/-- A worker has compressed all of its nodes exactly if it has finished. -/
theorem Placed.length_done {worker : Worker} (h : worker.Placed) :
    worker.done.length ≤ worker.part.size ∧
      (worker.done.length = worker.part.size ↔ worker.outcome = some (.ok ())) := by
  cases h with
  | working compressor part next hstart hstop =>
      simp only [done, reached, List.length_range', Partition.size, reduceCtorEq, iff_false]
      omega
  | finished compressor part => simp [done, reached, Partition.size]
  | failed compressor part node failure hstart hstop =>
      simp only [done, reached, List.length_range', Partition.size, Option.some.injEq,
        reduceCtorEq, iff_false, Nat.add_sub_cancel]
      omega

/-- A worker that has finished has compressed the nodes of its partition. -/
theorem Placed.done_of_finished {worker : Worker} (h : worker.Placed)
    (hfinished : worker.outcome = some (.ok ())) : worker.done = worker.part.nodes := by
  cases h with
  | working compressor part next hstart hstop => simp at hfinished
  | finished compressor part => rfl
  | failed compressor part node failure hstart hstop => simp at hfinished

end Worker

namespace Build

variable {build : Build} {source : Source} {number : Nat}

/-! ## Steps that compress a node -/

/-- The worker that a step lets compress a node, and the node. -/
def compressed? (build : Build) (source : Source) : BuildEvent → Option (Nat × Nat)
  | .terminate => none
  | .advance number =>
      match build.workers[number]? with
      | none | some { outcome := some _, .. } => none
      | some worker =>
          if worker.part.stop ≤ worker.next then none
          else
            match (build.compressNext source worker).1 with
            | .ok () => some (number, worker.next)
            | .error _ => none

/-- The workers that compressed a node in a schedule, and the nodes, in order. -/
def compressions (build : Build) (source : Source) : List BuildEvent → List (Nat × Nat)
  | [] => []
  | event :: rest =>
      (build.compressed? source event).toList ++ (build.step source event).compressions source rest

/-- What a step of a worker may do, with the worker and node it compresses and the build it
leaves: nothing, fail at a node, compress its last node, or compress another one. -/
inductive Advances (build : Build) (source : Source) (number : Nat) :
    Option (Nat × Nat) → Build → Prop
  | idle (hended : ∀ worker, build.workers[number]? = some worker → worker.outcome ≠ none) :
      Advances build source number none build
  | failed (compressor : Nat) (part : Partition) (next : Nat) (failure : Failure) (store : Store)
      (hworker : build.workers[number]? = some ⟨compressor, part, next, none⟩)
      (hnext : next < part.stop)
      (hattempt : build.compressNext source ⟨compressor, part, next, none⟩ =
        (.error failure, store)) :
      Advances build source number none
        { build with
          store := store.close compressor
          workers := build.workers.set number
            ⟨compressor, part, next + 1, some (.error failure)⟩ }
  | last (compressor : Nat) (part : Partition) (next : Nat) (store : Store)
      (hworker : build.workers[number]? = some ⟨compressor, part, next, none⟩)
      (hnext : next + 1 = part.stop)
      (hattempt : build.compressNext source ⟨compressor, part, next, none⟩ = (.ok (), store)) :
      Advances build source number (some (number, next))
        { build with
          store := store.close compressor
          workers := build.workers.set number ⟨compressor, part, part.stop, some (.ok ())⟩
          progress := build.progress ++ [part.size] }
  | more (compressor : Nat) (part : Partition) (next : Nat) (store : Store)
      (hworker : build.workers[number]? = some ⟨compressor, part, next, none⟩)
      (hnext : next + 1 < part.stop)
      (hattempt : build.compressNext source ⟨compressor, part, next, none⟩ = (.ok (), store)) :
      Advances build source number (some (number, next))
        { build with
          store := store
          workers := build.workers.set number ⟨compressor, part, next + 1, none⟩ }

/-- While workers are in their partitions, every step of a worker is one of the cases. -/
theorem advances (hplaced : ∀ worker ∈ build.workers, worker.Placed) (source : Source)
    (number : Nat) :
    build.Advances source number (build.compressed? source (.advance number))
      (build.advance source number) := by
  by_cases hended : ∀ worker, build.workers[number]? = some worker → worker.outcome ≠ none
  · have hnone : build.compressed? source (.advance number) = none := by
      unfold compressed?
      dsimp only
      split
      case h_1 => rfl
      case h_2 => rfl
      case h_3 worker hworking hworker =>
        obtain ⟨compressor, part, next, outcome⟩ := worker
        cases outcome with
        | none => exact absurd rfl (hended _ hworker)
        | some outcome => exact absurd rfl (hworking compressor part next outcome)
    rw [hnone, advance_of_ended source hended]
    exact .idle hended
  · obtain ⟨worker, hworker, hworking⟩ :
        ∃ worker, build.workers[number]? = some worker ∧ worker.outcome = none := by
      simpa using hended
    cases hplaced worker (List.mem_of_getElem? hworker) with
    | finished compressor part => simp at hworking
    | failed compressor part node failure hstart hstop => simp at hworking
    | working compressor part next hstart hstop =>
        rcases hattempt : build.compressNext source ⟨compressor, part, next, none⟩ with
          ⟨outcome, store⟩
        simp only [compressed?, hworker, if_neg (Nat.not_le.mpr hstop), hattempt]
        cases outcome with
        | error failure =>
            rw [advance_of_failure hworker hstop hattempt]
            exact .failed compressor part next failure store hworker hstop hattempt
        | ok done =>
            rcases Nat.eq_or_lt_of_le (Nat.succ_le_of_lt hstop) with hlast | hmore
            · rw [advance_of_last hworker hlast hattempt]
              exact .last compressor part next store hworker hlast hattempt
            · rw [advance_of_more hworker hmore hattempt]
              exact .more compressor part next store hworker hmore hattempt

/-! ## The tally -/

/-- What all workers list changes with the one that is replaced. -/
theorem flatMap_set_perm {workers : List Worker} {list : Worker → List Nat} {worker after : Worker}
    (hworker : workers[number]? = some worker) {more : List Nat}
    (h : (list after).Perm (more ++ list worker)) :
    ((workers.set number after).flatMap list).Perm (more ++ workers.flatMap list) := by
  induction workers generalizing number with
  | nil => simp at hworker
  | cons first rest ih =>
      cases number with
      | zero =>
          obtain rfl := Option.some.inj hworker
          rw [List.set_cons_zero, List.flatMap_cons, List.flatMap_cons, ← List.append_assoc]
          exact h.append_right _
      | succ number =>
          rw [List.getElem?_cons_succ] at hworker
          rw [List.set_cons_succ, List.flatMap_cons, List.flatMap_cons]
          exact ((ih hworker).append_left _).trans (List.perm_append_comm_assoc _ _ _)

/-- A log lists the nodes that the workers are done with, each as often as it was compressed, and
the progress is what the workers that have finished reported. -/
structure Tallied (build : Build) (parts : List Partition) (log : List (Nat × Nat)) : Prop where
  placed : ∀ worker ∈ build.workers, worker.Placed
  shares : build.workers.map Worker.part = parts
  done : (build.workers.flatMap Worker.done).Perm (log.map Prod.snd)
  progress : (build.workers.flatMap Worker.reported).Perm build.progress

variable {parts : List Partition} {log : List (Nat × Nat)}

/-- Replacing a worker by one that has done and reported more. -/
theorem Tallied.replace (h : build.Tallied parts log) {worker after : Worker}
    (hworker : build.workers[number]? = some worker) (hplaced : after.Placed)
    (hpart : after.part = worker.part) (store : Store) (more : List (Nat × Nat))
    (hdone : after.done = worker.done ++ more.map Prod.snd) (reports : List Nat)
    (hreported : after.reported = worker.reported ++ reports) :
    ({ build with
        store := store
        workers := build.workers.set number after
        progress := build.progress ++ reports } : Build).Tallied parts (log ++ more) := by
  refine ⟨?_, ?_, ?_, ?_⟩
  · intro other hother
    rcases List.mem_or_eq_of_mem_set hother with hmem | rfl
    · exact h.placed other hmem
    · exact hplaced
  · rw [← h.shares, List.map_set, hpart]
    have hshare : (build.workers.map Worker.part)[number]? = some worker.part := by
      rw [List.getElem?_map, hworker, Option.map_some]
    obtain ⟨hlt, hget⟩ := List.getElem?_eq_some_iff.mp hshare
    rw [← hget, List.set_getElem_self]
  · have hmore : after.done.Perm (more.map Prod.snd ++ worker.done) :=
      hdone ▸ List.perm_append_comm
    refine (flatMap_set_perm hworker hmore).trans ?_
    rw [List.map_append]
    exact (h.done.append_left _).trans List.perm_append_comm
  · have hmore : after.reported.Perm (reports ++ worker.reported) :=
      hreported ▸ List.perm_append_comm
    exact (flatMap_set_perm hworker hmore).trans
      ((h.progress.append_left _).trans List.perm_append_comm)

/-- Taking one more node of a partition. -/
theorem range'_concat {start next : Nat} (h : start ≤ next) :
    List.range' start (next + 1 - start) = List.range' start (next - start) ++ [next] := by
  rw [Nat.succ_sub h, List.range'_concat, Nat.one_mul, Nat.add_sub_cancel' h]

/-- A step of a worker adds the node it compresses to the log. -/
theorem Advances.tallied {compressed : Option (Nat × Nat)} {after : Build}
    (hadvances : build.Advances source number compressed after) (h : build.Tallied parts log) :
    after.Tallied parts (log ++ compressed.toList) := by
  have hinside : ∀ compressor part next,
      build.workers[number]? = some ⟨compressor, part, next, none⟩ → part.start ≤ next := by
    intro compressor part next hworker
    cases h.placed _ (List.mem_of_getElem? hworker) with
    | working _ _ _ hstart hstop => exact hstart
  cases hadvances with
  | idle hended => simpa using h
  | failed compressor part next failure store hworker hnext hattempt =>
      have hstart := hinside compressor part next hworker
      have htallied := h.replace hworker
        (.failed compressor part next failure hstart hnext) rfl (store.close compressor)
        [] (by simp [Worker.done, Worker.reached]) [] rfl
      simpa using htallied
  | last compressor part next store hworker hnext hattempt =>
      have hstart := hinside compressor part next hworker
      exact h.replace hworker (.finished compressor part) rfl (store.close compressor)
        [(number, next)]
        (by simp [Worker.done, Worker.reached, ← hnext, range'_concat hstart]) _ rfl
  | more compressor part next store hworker hnext hattempt =>
      have hstart := hinside compressor part next hworker
      have htallied := h.replace hworker
        (.working compressor part (next + 1) (Nat.le_succ_of_le hstart) hnext) rfl store
        [(number, next)] (by simp [Worker.done, Worker.reached, range'_concat hstart]) [] rfl
      simpa using htallied

/-- A step adds the node it compresses to the log. -/
theorem Tallied.step (h : build.Tallied parts log) (source : Source) (event : BuildEvent) :
    (build.step source event).Tallied parts
      (log ++ (build.compressed? source event).toList) := by
  cases event with
  | terminate =>
      rw [compressed?, Option.toList_none, List.append_nil]
      exact ⟨h.placed, h.shares, h.done, h.progress⟩
  | advance number => exact (advances h.placed source number).tallied h

/-- A run adds the nodes it compresses to the log. -/
theorem Tallied.run (h : build.Tallied parts log) (source : Source) (events : List BuildEvent) :
    (build.run source events).Tallied parts (log ++ build.compressions source events) := by
  induction events generalizing build log with
  | nil => simpa [compressions, Build.run] using h
  | cons event events ih =>
      rw [compressions, ← List.append_assoc]
      exact ih (h.step source event)

/-! ## Finished workers -/

/-- All workers have finished exactly if every node of every partition was compressed as often as
the partitions list it. -/
theorem Tallied.finished_iff (h : build.Tallied parts log) :
    (∀ worker ∈ build.workers, worker.outcome = some (.ok ())) ↔
      (log.map Prod.snd).Perm (parts.flatMap Partition.nodes) := by
  have hnodes : parts.flatMap Partition.nodes =
      build.workers.flatMap fun worker => worker.part.nodes := by
    rw [← h.shares, List.flatMap_map]
  rw [hnodes]
  constructor
  · intro hfinished
    have hdone : build.workers.flatMap Worker.done =
        build.workers.flatMap fun worker => worker.part.nodes :=
      List.flatMap_congr fun worker hworker =>
        (h.placed worker hworker).done_of_finished (hfinished worker hworker)
    exact hdone ▸ h.done.symm
  · -- no worker is done with more nodes than it has, and one that has not finished with fewer
    intro hall worker hworker
    by_contra hunfinished
    have hlength := (h.done.trans hall).length_eq
    rw [List.length_flatMap, List.length_flatMap] at hlength
    refine Nat.ne_of_lt (List.sum_lt_sum _ _ ?_ ⟨worker, hworker, ?_⟩) hlength
    · intro other hother
      rw [Partition.nodes, List.length_range']
      exact (h.placed other hother).length_done.1
    · rw [Partition.nodes, List.length_range']
      have hplaced := (h.placed worker hworker).length_done
      exact lt_of_le_of_ne hplaced.1 (mt hplaced.2.mp hunfinished)

/-- Workers that have all finished have reported all of their nodes. -/
theorem Tallied.sum_progress (h : build.Tallied parts log)
    (hfinished : ∀ worker ∈ build.workers, worker.outcome = some (.ok ())) :
    build.progress.sum = (parts.flatMap Partition.nodes).length := by
  have hreported : build.workers.flatMap Worker.reported =
      build.workers.map fun worker => worker.part.size := by
    rw [List.map_eq_flatMap]
    refine List.flatMap_congr fun worker hworker => ?_
    rw [Worker.reported, hfinished worker hworker]
  rw [← h.progress.sum_eq, hreported, ← h.shares, List.length_flatMap, List.map_map]
  refine congrArg List.sum (List.map_congr_left fun worker _ => ?_)
  simp [Partition.nodes]

end Build

end CompactAdjacency
