import Mathlib
import CompactAdjacency.Proofs.Store.Contents

/-!
# Stores that were just created or reset

A reset discards what was written, but compressors made before it may still be open and keep writing
to the discarded arenas. `Dated` is all that has to be known of them: through any history, a
compressor belongs to the generation it was made in, and that is none to come. So a store that was
just created or reset satisfies the invariant with no compressor founded yet and no node filled,
`Started.sound`.
-/

namespace CompactAdjacency

/-- A store that was just created, or just reset, whatever happened to it before. -/
inductive Store.Started (config : Config) (nodeCount : Nat) (store : Store) : Prop where
  | created (h : Store.create config nodeCount = .ok store)
  | reset (count : Nat) (first : Store) (actions : List StoreAction)
      (hfirst : Store.create config count = .ok first)
      (h : (first.run actions).2.reset nodeCount = .ok store)

namespace Store

variable {store : Store} {config : Config}

/-! ## Dates of compressors -/

/-- What no history changes: the configuration, and that compressors belong to the current
generation or to an earlier one. -/
structure Dated (config : Config) (store : Store) : Prop where
  config : store.config = config
  generations : ∀ number compressor, store.compressor? number = some compressor →
    compressor.generation ≤ store.discarded.length

/-- Dates depend on the compressors and the number of generations alone. -/
theorem Dated.of_shape (h : Dated config store) {after : Store}
    (hshape : after.config = store.config ∧ after.writers = store.writers ∧
      after.discarded.length = store.discarded.length) : Dated config after := by
  refine ⟨hshape.1.trans h.config, ?_⟩
  intro number compressor hcompressor
  rw [hshape.2.2]
  rw [compressor?_congr hshape.2.1] at hcompressor
  exact h.generations number compressor hcompressor

/-- A compression changes nothing but the arenas, the directory and its buffers. -/
theorem compress_shape (store : Store) (number : Nat) (part : Partition) (node : Nat)
    (targets : List UInt64) (channels : List (List Binary64)) (degree : Nat) :
    (store.compress number part node targets channels degree).store.config = store.config ∧
      (store.compress number part node targets channels degree).store.writers = store.writers ∧
      (store.compress number part node targets channels degree).store.discarded.length =
        store.discarded.length := by
  rcases store.compress_cases number part node targets channels degree with
    ⟨-, hcompress⟩ | ⟨compressor, -,
      ⟨failure, -, hcompress⟩ | ⟨encoded, after, -, hafter, hcompress⟩⟩
  · rw [hcompress]
    exact ⟨rfl, rfl, rfl⟩
  · rw [hcompress]
    exact ⟨rfl, rfl, rfl⟩
  · obtain ⟨hconfig, hcompressors, hlength⟩ :=
      commit_shape store compressor part node degree encoded
    rw [hcompress]
    exact ⟨hafter.config.trans hconfig, hafter.writers.trans (writers_congr hcompressors),
      (congrArg List.length hafter.discarded).trans hlength⟩

theorem Dated.createCompressor (h : Dated config store) : Dated config store.createCompressor := by
  refine ⟨h.config, ?_⟩
  intro number compressor hcompressor
  rw [compressor?_createCompressor] at hcompressor
  split at hcompressor
  case isTrue hlast =>
    obtain rfl := Option.some.inj hcompressor
    exact Nat.le_refl _
  case isFalse hother => exact h.generations number compressor hcompressor

theorem Dated.close (h : Dated config store) (number : Nat) :
    Dated config (store.close number) := by
  unfold Store.close
  split
  case h_1 hmissing => exact h
  case h_2 compressor hfound =>
    have hset : Dated config { store with compressors := store.compressors.set number none } := by
      refine ⟨h.config, ?_⟩
      intro other compressor hother
      rw [compressor?_set_none] at hother
      split at hother
      case isTrue heq => simp at hother
      case isFalse hne => exact h.generations other compressor hother
    dsimp only
    split
    case h_1 hmissing => exact hset
    case h_2 generation hgeneration =>
      obtain ⟨hconfig, hcompressors, hlength⟩ := setGeneration_shape
        { store with compressors := store.compressors.set number none } compressor.generation
        ((generation.retire (compressor.allocatorOf .packed)).retire
          (compressor.allocatorOf .varint))
      exact hset.of_shape ⟨hconfig, writers_congr hcompressors, hlength⟩

/-- What a reset makes of a store. -/
theorem reset_eq_ok_iff {nodeCount : Nat} {after : Store} :
    store.reset nodeCount = .ok after ↔ ∃ directory,
      Directory.ofNodeCount nodeCount = .ok directory ∧
      ({ store with
          directory := directory
          discarded := store.discarded ++ [store.current]
          current := .ofPageSize store.config.pageSize.toNat } : Store) = after := by
  simp only [reset, bind_eq_ok_iff, pure_eq_ok_iff]

theorem Dated.reset (h : Dated config store) {nodeCount : Nat} {after : Store}
    (hreset : store.reset nodeCount = .ok after) : Dated config after := by
  obtain ⟨directory, -, rfl⟩ := reset_eq_ok_iff.mp hreset
  refine ⟨h.config, ?_⟩
  intro number compressor hcompressor
  rw [List.length_append]
  exact (h.generations number compressor hcompressor).trans (Nat.le_add_right _ _)

/-- Every action keeps compressors to the generations there are. -/
theorem Dated.step (h : Dated config store) (action : StoreAction) :
    Dated config (store.step action).2 := by
  cases action with
  | createCompressor => exact h.createCompressor
  | compress number choice node targets channels degree =>
      unfold Store.step
      dsimp only
      split
      case h_1 fault hpart => exact h
      case h_2 part hpart =>
        exact h.of_shape (compress_shape store number part node targets channels degree)
  | close number => exact h.close number
  | reset nodeCount =>
      unfold Store.step
      dsimp only
      split
      case h_1 failure hreset => exact h
      case h_2 after hreset => exact h.reset hreset

theorem Dated.run (h : Dated config store) (actions : List StoreAction) :
    Dated config (store.run actions).2 := by
  induction actions generalizing store with
  | nil => exact h
  | cons action rest ih => exact ih (h.step action)

/-! ## The start -/

/-- What a created store is made of. -/
theorem create_eq_ok_iff {nodeCount : Nat} {after : Store} :
    create config nodeCount = .ok after ↔ config.check = .ok () ∧ ∃ directory,
      Directory.ofNodeCount nodeCount = .ok directory ∧
      ({ config := config
         directory := directory
         discarded := []
         current := .ofPageSize config.pageSize.toNat
         compressors := [] } : Store) = after := by
  simp only [create, bind_eq_ok_iff, pure_eq_ok_iff]
  constructor
  · rintro ⟨⟨⟩, hcheck, hdirectory⟩
    exact ⟨hcheck, hdirectory⟩
  · rintro ⟨hcheck, hdirectory⟩
    exact ⟨(), hcheck, hdirectory⟩

/-- With empty arenas and a new directory nothing is held, whichever compressors are left from
earlier generations. -/
theorem sound_of_new {nodeCount : Nat} (hconfig : store.config.pageSize.toNat < UInt32.size)
    (hdirectory : Directory.ofNodeCount nodeCount = .ok store.directory)
    (hcurrent : store.current = .ofPageSize store.config.pageSize.toNat)
    (hstale : ∀ number compressor, store.compressor? number = some compressor →
      compressor.generation < store.discarded.length) :
    store.Sound store.compressors.length fun _ => .empty store.config.channelCount.toNat := by
  obtain ⟨haligned, -, hdegree⟩ := Directory.ofNodeCount_spec hdirectory
  refine ⟨hcurrent ▸ Generation.valid_ofPageSize hconfig, haligned, Nat.le_refl _,
    ?_, ?_, ?_, ?_, ?_⟩
  · intro number compressor hcompressor _
    exact hstale number compressor hcompressor
  · intro number compressor hcompressor hnumber
    simp [compressor?_of_length_le hnumber] at hcompressor
  · intro allocator page hpage
    rw [hcurrent] at hpage
    simp [Generation.ofPageSize, Allocators.ofPool] at hpage
  · intro allocator page hpage
    rw [hcurrent] at hpage
    simp [Generation.ofPageSize, Allocators.ofPool] at hpage
  · intro node
    exact ⟨hdegree node, .nil, by simp [Batch.empty], by simp [Batch.empty],
      fun hne => absurd rfl hne⟩

/-- So does a reset store, since the compressors there are belong to earlier generations. -/
theorem Dated.sound_of_reset (h : Dated config store)
    (hsize : config.pageSize.toNat < UInt32.size) {nodeCount : Nat} {after : Store}
    (hreset : store.reset nodeCount = .ok after) :
    after.Sound after.compressors.length fun _ => .empty config.channelCount.toNat := by
  obtain ⟨directory, hdirectory, rfl⟩ := reset_eq_ok_iff.mp hreset
  have hconfig := h.config
  rw [← hconfig]
  refine sound_of_new (hconfig ▸ hsize) hdirectory rfl ?_
  intro number compressor hcompressor
  rw [List.length_append]
  exact Nat.lt_succ_of_le (h.generations number compressor hcompressor)

/-- What a created store satisfies from the start. -/
theorem dated_of_create {nodeCount : Nat} (h : create config nodeCount = .ok store) :
    Dated config store := by
  obtain ⟨-, directory, -, rfl⟩ := create_eq_ok_iff.mp h
  exact ⟨rfl, by simp [compressor?_of_length_le]⟩

/-- The page size of a created store fits 32 bits. -/
theorem pageSize_of_create {nodeCount : Nat} (h : create config nodeCount = .ok store) :
    config.pageSize.toNat < UInt32.size :=
  (Config.check_eq_ok_iff.mp (create_eq_ok_iff.mp h).1).2.1.2

/-- A store that was just created or reset satisfies the invariant, and no node holds anything. -/
theorem Started.sound {nodeCount : Nat} (h : Started config nodeCount store) :
    store.config = config ∧ store.nodeCount = nodeCount ∧
      store.Sound store.compressors.length fun _ => .empty config.channelCount.toNat := by
  cases h with
  | created h =>
      have hsize := pageSize_of_create h
      obtain ⟨-, directory, hdirectory, rfl⟩ := create_eq_ok_iff.mp h
      refine ⟨rfl, (Directory.ofNodeCount_spec hdirectory).2.1, ?_⟩
      refine sound_of_new hsize hdirectory rfl ?_
      intro number compressor hcompressor
      simp [compressor?_of_length_le] at hcompressor
  | reset count first actions hfirst h =>
      have hdated := (dated_of_create hfirst).run actions
      have hsound := hdated.sound_of_reset (pageSize_of_create hfirst) h
      obtain ⟨directory, hdirectory, rfl⟩ := reset_eq_ok_iff.mp h
      exact ⟨hdated.config, (Directory.ofNodeCount_spec hdirectory).2.1, hsound⟩

end Store

end CompactAdjacency
