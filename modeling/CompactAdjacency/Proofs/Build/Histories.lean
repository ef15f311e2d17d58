import Mathlib
import CompactAdjacency.Proofs.Build.Termination
import CompactAdjacency.Proofs.Store.Counting

/-!
# A build is a history of its store

What the workers of a build do to its store is what any user of a store may do: they create
compressors, compress nodes through the partitions that workers share, and close the compressors
again. So a run of a build is a history of the store it started from, which compresses the nodes of
its log, `run_history`, and what holds after every history of a store holds after every run of a
build.
-/

namespace CompactAdjacency

/-! ## Histories -/

/-- Without the compressed nodes of a history what is compressed after it is not changed. -/
theorem compressedNodes_append (first rest : List (StoreAction × StoreAnswer)) :
    compressedNodes (first ++ rest) = compressedNodes first ++ compressedNodes rest := by
  induction first with
  | nil => rfl
  | cons step first ih =>
      rw [List.cons_append, compressedNodes_cons, ih, compressedNodes_cons step.1 step.2 first,
        List.append_assoc]

namespace Store

variable {store middle after : Store} {founded : Nat} {nodes others : List Nat}

theorem length_run (store : Store) (actions : List StoreAction) :
    (store.run actions).1.length = actions.length := by
  induction actions generalizing store with
  | nil => rfl
  | cons action rest ih => rw [run_cons, List.length_cons, ih, List.length_cons]

/-- A history may be continued. -/
theorem run_append (store : Store) (first rest : List StoreAction) :
    store.run (first ++ rest) =
      ((store.run first).1 ++ ((store.run first).2.run rest).1,
        ((store.run first).2.run rest).2) := by
  induction first generalizing store with
  | nil => rfl
  | cons action first ih => rw [List.cons_append, run_cons, ih, run_cons, List.cons_append]

/-- A history without a reset leads from one store to another and compresses the given nodes. -/
def Leads (store : Store) (founded : Nat) (nodes : List Nat) (after : Store) : Prop :=
  ∃ actions, (∀ action ∈ actions, action.SinceReset founded) ∧
    (store.run actions).2 = after ∧ compressedNodes (actions.zip (store.run actions).1) = nodes

theorem Leads.refl (store : Store) (founded : Nat) : store.Leads founded [] store :=
  ⟨[], by simp, rfl, rfl⟩

theorem Leads.trans (h : store.Leads founded nodes middle)
    (h' : middle.Leads founded others after) : store.Leads founded (nodes ++ others) after := by
  obtain ⟨first, hfirst, rfl, rfl⟩ := h
  obtain ⟨rest, hrest, rfl, rfl⟩ := h'
  refine ⟨first ++ rest, ?_, ?_, ?_⟩
  · intro action haction
    rcases List.mem_append.mp haction with hmem | hmem
    · exact hfirst action hmem
    · exact hrest action hmem
  · rw [run_append]
  · rw [run_append, List.zip_append (length_run store first).symm, compressedNodes_append]

/-- Creating a compressor compresses nothing. -/
theorem leads_createCompressor (store : Store) (founded : Nat) :
    store.Leads founded [] store.createCompressor :=
  ⟨[.createCompressor], by simp [StoreAction.SinceReset], rfl, rfl⟩

/-- Closing a compressor compresses nothing. -/
theorem leads_close (store : Store) (founded number : Nat) :
    store.Leads founded [] (store.close number) :=
  ⟨[.close number], by simp [StoreAction.SinceReset], rfl, rfl⟩

/-- Compressing a node compresses it or nothing. -/
theorem leads_compress {number : Nat} (hnumber : founded ≤ number) {choice : PartitionChoice}
    {part : Partition} (hpart : store.directory.part choice = .ok part) (node : Nat)
    (targets : List UInt64) (channels : List (List Binary64)) (degree : Nat) :
    store.Leads founded
      (match (store.compress number part node targets channels degree).outcome with
        | .ok _ => [node]
        | .error _ => [])
      (store.compress number part node targets channels degree).store := by
  refine ⟨[.compress number choice node targets channels degree], ?_, ?_, ?_⟩
  · simpa [StoreAction.SinceReset] using hnumber
  · simp only [run, step, hpart]
  · simp only [run, step, hpart, List.zip_cons_cons, List.zip_nil_right]
    cases (store.compress number part node targets channels degree).outcome with
    | error failure => rfl
    | ok length => rfl

/-- Creating any number of compressors compresses nothing. -/
theorem leads_foldl_createCompressor {α : Type} (store : Store) (founded : Nat) (items : List α) :
    store.Leads founded [] (items.foldl (fun store _ => store.createCompressor) store) := by
  induction items generalizing store with
  | nil => exact .refl store founded
  | cons item items ih =>
      exact (leads_createCompressor store founded).trans (ih store.createCompressor)

end Store

namespace Build

variable {build : Build} {source : Source} {config : Config} {parts : List Partition}
variable {contents : Nat → Batch} {log : List (Nat × Nat)} {number : Nat}

/-! ## Steps -/

/-- An attempt of a worker with one of the partitions that workers share. -/
theorem compressNext_leads {part : Partition} {choice : PartitionChoice}
    (hpart : build.store.directory.part choice = .ok part) (source : Source)
    (compressor next : Nat) :
    build.store.Leads 0
      (match (build.compressNext source ⟨compressor, part, next, none⟩).1 with
        | .ok () => [next]
        | .error _ => [])
      (build.compressNext source ⟨compressor, part, next, none⟩).2 := by
  unfold compressNext
  by_cases hraised : build.terminated = true
  · rw [if_pos hraised]
    exact .refl _ _
  · rw [if_neg hraised]
    cases hprepared : build.prepare source next with
    | error failure => exact .refl _ _
    | ok batch =>
        have hleads := Store.leads_compress (Nat.zero_le compressor) hpart next batch.targets
          batch.channels batch.targets.length
        dsimp only
        cases houtcome : (build.store.compress compressor part next batch.targets batch.channels
          batch.targets.length).outcome with
        | error failure =>
            rw [houtcome] at hleads
            exact hleads
        | ok length =>
            rw [houtcome] at hleads
            exact hleads

/-- A step of a worker is a history of the store. -/
theorem Advances.leads {source : Source} {compressed : Option (Nat × Nat)} {after : Build}
    (hadvances : build.Advances source number compressed after)
    (hparts : ∀ worker, build.workers[number]? = some worker →
      ∃ choice, build.store.directory.part choice = .ok worker.part) :
    build.store.Leads 0 (compressed.map Prod.snd).toList after.store := by
  cases hadvances with
  | idle hended => exact .refl _ _
  | failed compressor part next failure store hworker hnext hattempt =>
      obtain ⟨choice, hchoice⟩ := hparts _ hworker
      have hleads := compressNext_leads hchoice source compressor next
      rw [hattempt] at hleads
      exact hleads.trans (Store.leads_close store 0 compressor)
  | last compressor part next store hworker hnext hattempt =>
      obtain ⟨choice, hchoice⟩ := hparts _ hworker
      have hleads := compressNext_leads hchoice source compressor next
      rw [hattempt] at hleads
      exact hleads.trans (Store.leads_close store 0 compressor)
  | more compressor part next store hworker hnext hattempt =>
      obtain ⟨choice, hchoice⟩ := hparts _ hworker
      have hleads := compressNext_leads hchoice source compressor next
      rw [hattempt] at hleads
      exact hleads

/-- A step of a build is a history of its store, which compresses the node of the step. -/
theorem step_leads (hplaced : ∀ worker ∈ build.workers, worker.Placed)
    (hparts : ∀ (number : Nat) (worker : Worker), build.workers[number]? = some worker →
      ∃ choice, build.store.directory.part choice = .ok worker.part)
    (source : Source) (event : BuildEvent) :
    build.store.Leads 0 ((build.compressed? source event).map Prod.snd).toList
      (build.step source event).store := by
  cases event with
  | terminate => exact .refl _ _
  | advance number => exact (advances hplaced source number).leads (hparts number)

/-! ## Runs -/

/-- The partitions of the workers are the ones that the directory has when workers share it. -/
theorem Coherent.exists_choice (h : Coherent source config parts contents build) {count : Nat}
    {directory : Directory} (haligned : directory.isAligned = true)
    (hcount : directory.nodeCount = source.nodeCount) (hparts : directory.partitions count = parts)
    {worker : Worker} (hworker : build.workers[number]? = some worker) :
    ∃ choice, build.store.directory.part choice = .ok worker.part := by
  refine ⟨.share count number, ?_⟩
  have hsame : build.store.directory.partitions count = parts :=
    (Directory.partitions_congr h.sound.aligned haligned (h.nodeCount.trans hcount.symm)
      count).trans hparts
  have hshare : parts[number]? = some worker.part := by
    rw [← h.shares, List.getElem?_map, hworker, Option.map_some]
  simp only [Directory.part, hsame, hshare]

/-- A schedule in which no worker was refused memory is a history of the store. -/
theorem Coherent.run_leads (h : Coherent source config parts contents build)
    (hcover : Partition.Cover parts source.nodeCount) (htallied : build.Tallied parts log)
    {count : Nat} {directory : Directory} (haligned : directory.isAligned = true)
    (hcount : directory.nodeCount = source.nodeCount) (hparts : directory.partitions count = parts)
    (events : List BuildEvent) (hmemory : ¬ (build.run source events).OutOfMemory) :
    build.store.Leads 0 ((build.compressions source events).map Prod.snd)
      (build.run source events).store := by
  induction events generalizing build contents log with
  | nil => exact .refl _ _
  | cons event events ih =>
      rw [run_cons] at hmemory ⊢
      obtain ⟨contents', h'⟩ :=
        h.step hcover event fun hstep => hmemory (hstep.run events).outOfMemory
      have hfirst := step_leads htallied.placed
        (fun number worker hworker => h.exists_choice haligned hcount hparts hworker) source event
      have hrest := ih h' (htallied.step source event) hmemory
      rw [compressions, List.map_append]
      cases hcompressed : build.compressed? source event with
      | none =>
          rw [hcompressed] at hfirst
          exact hfirst.trans hrest
      | some entry =>
          rw [hcompressed] at hfirst
          exact hfirst.trans hrest

/-- A schedule of a build in which no worker was refused memory is a history of a created store, and
the nodes it compresses are those of the log. -/
theorem run_history (hstart : start config source = .ok build) {events : List BuildEvent}
    (hmemory : ¬ (build.run source events).OutOfMemory) :
    ∃ first, Store.create (config.withChannels source.channelCount) source.nodeCount = .ok first ∧
      first.compressors = [] ∧
      first.Leads 0 ((build.compressions source events).map Prod.snd)
        (build.run source events).store := by
  obtain ⟨hcoherent, hcover, -⟩ := coherent_of_start hstart
  obtain ⟨htallied, -, -⟩ := tallied_of_start hstart
  obtain ⟨-, -, first, hcreate, rfl⟩ := start_eq_ok_iff.mp hstart
  obtain ⟨-, hnodeCount, hsound⟩ := (Store.Started.created hcreate).sound
  have hnone : first.compressors = [] := by
    obtain ⟨-, directory, -, rfl⟩ := Store.create_eq_ok_iff.mp hcreate
    rfl
  refine ⟨first, hcreate, hnone, ?_⟩
  have hopened := Store.leads_foldl_createCompressor first 0
    (first.directory.partitions (config.withChannels source.channelCount).workers.toNat)
  exact hopened.trans (hcoherent.run_leads hcover htallied hsound.aligned hnodeCount
    (coherent_initial hcreate).1.shares.symm events hmemory)

end Build

end CompactAdjacency
