import Mathlib
import CompactAdjacency.Proofs.Storage.Partitions
import CompactAdjacency.Proofs.Store.Compression
import CompactAdjacency.Proofs.Store.Freezing
import CompactAdjacency.Proofs.Store.Resets

/-!
# What a store holds after any history

`Started` is a store that was just created, or just reset after any history at all. From there on
compressors are created, act in any order, fail and are closed, and `lastCompressed` reads off their
answers what every node was last compressed to. `run_sound` carries the invariant through such a
history; `freeze_reads_last_compressed` is what it is for.
-/

namespace CompactAdjacency

/-! ## Histories -/

/-- An action that a user of the store may take after a reset: the compressors that compress were
created since then, those from `founded` on. -/
def StoreAction.SinceReset (founded : Nat) : StoreAction → Prop
  | .compress compressor _ _ _ _ _ => founded ≤ compressor
  | .reset _ => False
  | .createCompressor | .close _ => True

/-- Whether an action may be taken can be decided. -/
instance (founded : Nat) : (action : StoreAction) → Decidable (action.SinceReset founded)
  | .compress compressor _ _ _ _ _ => inferInstanceAs (Decidable (founded ≤ compressor))
  | .reset _ => inferInstanceAs (Decidable False)
  | .createCompressor => inferInstanceAs (Decidable True)
  | .close _ => inferInstanceAs (Decidable True)

/-- A compression that found all page numbers used up. One that asked for more memory than there is
fails as well, but it is a failure like any other. -/
def StoreAnswer.OutOfPages (config : Config) : StoreAnswer → Prop
  | .compressed outcome _ => outcome = .error (.capacityExhausted config.pageSize.toNat)
  | .created _ | .closed | .reset _ => False

/-- Whether the page numbers were used up can be decided. -/
instance (config : Config) : (answer : StoreAnswer) → Decidable (answer.OutOfPages config)
  | .compressed outcome _ => inferInstanceAs
      (Decidable (outcome = .error (.capacityExhausted config.pageSize.toNat)))
  | .created _ => inferInstanceAs (Decidable False)
  | .closed => inferInstanceAs (Decidable False)
  | .reset _ => inferInstanceAs (Decidable False)

/-- What the nodes hold after an action: a compression that succeeded replaces what its node held by
the first relationships it was given. -/
def StoreAction.record (contents : Nat → Batch) : StoreAction → StoreAnswer → Nat → Batch
  | .compress _ _ node targets channels degree, .compressed (.ok _) _ =>
      Function.update contents node (.firsts degree targets channels)
  | _, _ => contents

/-- What every node was last compressed to in a sequence of actions with their answers. -/
def lastCompressed (contents : Nat → Batch) : List (StoreAction × StoreAnswer) → Nat → Batch
  | [] => contents
  | (action, answer) :: rest => lastCompressed (action.record contents answer) rest

namespace Store

variable {store : Store} {config : Config} {founded : Nat} {contents : Nat → Batch}

/-! ## The invariant along a history -/

theorem Sound.dated (h : store.Sound founded contents) : Dated store.config store := by
  refine ⟨rfl, ?_⟩
  intro number compressor hcompressor
  rcases Nat.lt_or_ge number founded with hstale | hfresh
  · exact (h.stale number compressor hcompressor hstale).le
  · exact (h.fresh number compressor hcompressor hfresh).1.le

/-- One action keeps what the nodes hold, apart from a compression that succeeds. -/
theorem step_sound (h : store.Sound founded contents) {action : StoreAction}
    (hsince : action.SinceReset founded)
    (hpages : ¬ (store.step action).1.OutOfPages store.config) :
    (store.step action).2.Sound founded (action.record contents (store.step action).1) := by
  cases action with
  | createCompressor => exact sound_createCompressor h
  | close number => exact sound_close h number
  | reset nodeCount => exact hsince.elim
  | compress number choice node targets channels degree =>
      cases hpart : store.directory.part choice with
      | error fault =>
          simp only [step, hpart]
          exact h
      | ok part =>
          simp only [step, hpart] at hpages ⊢
          obtain ⟨hcompressed, -⟩ :=
            compress_spec h hsince (Directory.stop_le_of_part hpart) node targets channels degree
              hpages
          cases houtcome : (store.compress number part node targets channels degree).outcome with
          | error failure =>
              exact hcompressed.error failure houtcome
          | ok length => exact hcompressed.ok length houtcome

/-- After a history the nodes hold what they were last compressed to. -/
theorem run_sound (h : store.Sound founded contents) {actions : List StoreAction}
    (hsince : ∀ action ∈ actions, action.SinceReset founded)
    (hpages : ∀ answer ∈ (store.run actions).1, ¬ answer.OutOfPages store.config) :
    (store.run actions).2.Sound founded
      (lastCompressed contents (actions.zip (store.run actions).1)) := by
  -- the contents change along with the store, so that both are generalized
  induction actions generalizing store contents with
  | nil => exact h
  | cons action rest ih =>
      rw [run_cons] at hpages ⊢
      have hstep := step_sound h (hsince action (by simp)) (hpages _ (by simp))
      have hconfig : (store.step action).2.config = store.config := (h.dated.step action).config
      refine ih hstep (fun other hother => hsince other (by simp [hother])) ?_
      intro answer hanswer
      rw [hconfig]
      exact hpages answer (List.mem_cons_of_mem _ hanswer)

/-- The nodes of a started store hold what they were last compressed to. -/
theorem Started.run_sound {nodeCount : Nat} (hstart : Started config nodeCount store)
    {actions : List StoreAction}
    (hsince : ∀ action ∈ actions, action.SinceReset store.compressors.length)
    (hpages : ∀ answer ∈ (store.run actions).1, ¬ answer.OutOfPages config) :
    (store.run actions).2.Sound store.compressors.length
      (lastCompressed (fun _ => .empty config.channelCount.toNat)
        (actions.zip (store.run actions).1)) := by
  obtain ⟨rfl, -, hsound⟩ := hstart.sound
  exact Store.run_sound hsound hsince hpages

/-! ## Freezing after a history -/

/-- A store whose compressors are closed freezes, and every node is read back as it was last
compressed, whatever the order of the calls, however many failed, and whatever happened before the
last reset. A node that was never compressed has no relationships. -/
theorem freeze_reads_last_compressed {nodeCount : Nat} (hstart : Started config nodeCount store)
    (actions : List StoreAction)
    (hsince : ∀ action ∈ actions, action.SinceReset store.compressors.length)
    (hpages : ∀ answer ∈ (store.run actions).1, ¬ answer.OutOfPages config)
    (hclosed : ∀ number, store.compressors.length ≤ number →
      (store.run actions).2.compressor? number = none) :
    ∃ lists, (store.run actions).2.freeze = .ok lists ∧
      ∀ node, lists.ReadsBack node
        (lastCompressed (fun _ => .empty config.channelCount.toNat)
          (actions.zip (store.run actions).1) node) := by
  have hsound := hstart.run_sound hsince hpages
  obtain ⟨lists, hfreeze⟩ := hsound.exists_freeze hclosed
  exact ⟨lists, hfreeze, fun node => (hsound.holdsBatch_of_freeze hfreeze node).readsBack⟩

/-- A store of two nodes with one property channel. -/
def twoNodes : Store :=
  { config := { Config.default 1 with channelCount := 1 }
    directory := ⟨#[0, 0], #[.zero, .zero], #[.zero, .zero]⟩
    discarded := []
    current := .ofPageSize 1048576
    compressors := [] }

/-- A store of one node without properties. -/
def oneNode : Store :=
  { config := .default 1
    directory := ⟨#[0], #[.zero], #[.zero]⟩
    discarded := []
    current := .ofPageSize 1048576
    compressors := [] }

theorem oneNode_started : Started (.default 1) 1 oneNode := .created rfl

/-- Two compressors that compress node 0 twice and fail on node 1. -/
def compressTwice : List StoreAction :=
  [.createCompressor, .createCompressor,
    .compress 0 .whole 0 [5, 9, 9] [[⟨1⟩, ⟨2⟩, ⟨3⟩]] 3,
    .compress 1 .whole 1 [7, 3] [[⟨1⟩, ⟨2⟩]] 2,
    .compress 1 .whole 0 [8, 8] [[⟨4⟩, ⟨5⟩]] 1, .close 0, .close 1]

theorem twoNodes_started : Started { Config.default 1 with channelCount := 1 } 2 twoNodes :=
  .created rfl

theorem compressTwice_closed (number : Nat) :
    (twoNodes.run compressTwice).2.compressor? number = none :=
  compressor?_of_closed (by decide +kernel) number

/-- After both compressors are closed node 0 is read back as it was last compressed, and node 1 has
no relationships. -/
theorem freeze_reads_last_compressed_twoNodes :
    ∃ lists, (twoNodes.run compressTwice).2.freeze = .ok lists ∧
      lists.ReadsBack 0 ⟨[8], [[⟨4⟩]]⟩ ∧ lists.ReadsBack 1 ⟨[], [[]]⟩ := by
  obtain ⟨lists, hfreeze, hreads⟩ := freeze_reads_last_compressed twoNodes_started compressTwice
    (by decide +kernel) (by decide +kernel) (fun number _ => compressTwice_closed number)
  have hfirst : lastCompressed (fun _ => .empty 1)
      (compressTwice.zip (twoNodes.run compressTwice).1) 0 = ⟨[8], [[⟨4⟩]]⟩ := by decide +kernel
  have hsecond : lastCompressed (fun _ => .empty 1)
      (compressTwice.zip (twoNodes.run compressTwice).1) 1 = ⟨[], [[]]⟩ := by decide +kernel
  exact ⟨lists, hfreeze, hfirst ▸ hreads 0, hsecond ▸ hreads 1⟩

/-! ## Reading after a history -/

/-- On the lists of a store a neighbor cursor is a place in what the nodes were last compressed to,
which ascends. -/
theorem neighborCursor_refines_place {nodeCount : Nat} (hstart : Started config nodeCount store)
    (actions : List StoreAction)
    (hsince : ∀ action ∈ actions, action.SinceReset store.compressors.length)
    (hpages : ∀ answer ∈ (store.run actions).1, ¬ answer.OutOfPages config) {lists : Lists}
    (hfreeze : (store.run actions).2.freeze = .ok lists) (operations : List NeighborAction) :
    let contents := lastCompressed (fun _ => .empty config.channelCount.toNat)
      (actions.zip (store.run actions).1)
    (∀ node, (contents node).targets.Pairwise (· ≤ ·)) ∧
      (NeighborCursor.raw.run lists operations).1 =
        Place.neighborRun (fun node => (contents node).targets) none operations := by
  intro contents
  have hsound := hstart.run_sound hsince hpages
  refine ⟨fun node => (hsound.holds node).ascending, ?_⟩
  exact NeighborCursor.run_represents (fun node => hsound.holdsNeighbors_of_freeze hfreeze node)
    NeighborCursor.raw_represents operations

/-- A cursor on the lists of two nodes peeks, seeks and comes to the end, and is moved on. -/
theorem neighborCursor_refines_place_twoNodes :
    ∃ lists, (twoNodes.run compressTwice).2.freeze = .ok lists ∧
      (NeighborCursor.raw.run lists [.moveTo 0, .peek, .advance 8, .next, .reuse 1]).1 =
        [.ok (.state .blockReady), .ok (.word 8), .ok (.word 8), .ok (.neighbor none),
          .ok (.state .exhausted)] := by
  have hsound : (twoNodes.run compressTwice).2.Sound 0 _ :=
    twoNodes_started.run_sound (by decide +kernel) (by decide +kernel)
  obtain ⟨lists, hfreeze⟩ := hsound.exists_freeze fun number _ => compressTwice_closed number
  obtain ⟨-, hrun⟩ := neighborCursor_refines_place twoNodes_started compressTwice
    (by decide +kernel) (by decide +kernel) hfreeze [.moveTo 0, .peek, .advance 8, .next, .reuse 1]
  refine ⟨lists, hfreeze, hrun.trans ?_⟩
  decide +kernel

/-- A store of one node that was reset while a compressor was open. -/
def resetWhileOpen : Store :=
  { config := .default 1
    directory := ⟨#[0], #[.zero], #[.zero]⟩
    discarded := [(Generation.ofPageSize 1048576).join]
    current := .ofPageSize 1048576
    compressors := [some (.ofCompressor ⟨0, 0⟩)] }

/-- A directory that points into an arena without pages. -/
def danglingLists : Lists :=
  { rule := (Config.default 1).layoutRule
    relationshipCount := 0
    directory := ⟨#[1], #[.zero], #[.zero]⟩
    adjacency := .empty
    properties := none }

/-- A compressor made before the reset enters a node whose record goes to a discarded arena. The
compression succeeds and the store freezes, yet a cursor cannot be moved to the node. -/
theorem neighborCursor_faults_after_reset :
    Started (.default 1) 1 resetWhileOpen ∧
      (lastCompressed (fun _ => .empty 0) ([.compress 0 .whole 0 [5] [] 1, .close 0].zip
        (resetWhileOpen.run [.compress 0 .whole 0 [5] [] 1, .close 0]).1) 0).targets = [5] ∧
      (resetWhileOpen.run [.compress 0 .whole 0 [5] [] 1, .close 0]).2.freeze =
        .ok danglingLists ∧
      (NeighborCursor.raw.run danglingLists [.moveTo 0]).1 = [.error (.fault .outOfBounds)] ∧
      Place.neighborRun (fun _ => [5]) none [.moveTo 0] = [.ok (.state .blockReady)] := by
  refine ⟨.reset 1 _ [.createCompressor] rfl rfl, ?_, ?_, ?_, ?_⟩
  · decide +kernel
  · decide +kernel
  · decide +kernel
  · decide +kernel

end Store

end CompactAdjacency
