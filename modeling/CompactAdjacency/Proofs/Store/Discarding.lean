import Mathlib
import CompactAdjacency.Proofs.Store.Dangling

/-!
# What a reset discards

Compressors made before a reset may stay open and go on compressing. A `Ledger` reads off the
answers of a store, resets among them, what its nodes hold by then, which of them were entered last
by a compressor made before the last reset, and how many relationships were compressed since by the
others. `Store.freeze_discards` says that whatever the history, a store that freezes has counted
those relationships and no others, and reads back every node that was not entered last by an older
compressor. Those nodes may not be readable at all, `Store.freeze_dangles`.
-/

namespace CompactAdjacency

/-! ## Ledgers -/

/-- What the answers of a store say of it. -/
structure Ledger where
  /-- The number of compressors made so far. -/
  created : Nat
  /-- The number of compressors made before the last reset. -/
  founded : Nat
  /-- What every node was last compressed to since the last reset. -/
  contents : Nat → Batch
  /-- The nodes that a compressor made before the last reset entered last, with relationships. -/
  dangling : Finset Nat
  /-- The relationships compressed since the last reset, but for those of older compressors. -/
  relationships : Nat

namespace Ledger

/-- The ledger of a store that was just created or reset. -/
def start (channelCount created : Nat) : Ledger :=
  ⟨created, created, fun _ => .empty channelCount, ∅, 0⟩

/-- A compression that succeeded. A compressor made before the last reset writes its records to
discarded arenas, unless there are no records to write. -/
def compress (ledger : Ledger) (number node degree : Nat) (batch : Batch) : Ledger :=
  if number < ledger.founded ∧ degree ≠ 0 then
    { ledger with dangling := insert node ledger.dangling }
  else
    { ledger with
      contents := Function.update ledger.contents node batch
      dangling := ledger.dangling.erase node
      relationships := ledger.relationships + degree }

/-- One action with its answer. -/
def record (channelCount : Nat) (ledger : Ledger) : StoreAction → StoreAnswer → Ledger
  | .createCompressor, _ => { ledger with created := ledger.created + 1 }
  | .compress number _ node targets channels degree, .compressed (.ok _) _ =>
      ledger.compress number node degree (.firsts degree targets channels)
  | .reset _, .reset (.ok ()) => start channelCount ledger.created
  | _, _ => ledger

/-- A sequence of actions with their answers. -/
def recordAll (channelCount : Nat) (ledger : Ledger) (log : List (StoreAction × StoreAnswer)) :
    Ledger :=
  log.foldl (fun ledger entry => ledger.record channelCount entry.1 entry.2) ledger

end Ledger

namespace Store

variable {store : Store} {config : Config} {ledger : Ledger}

/-! ## Old and new compressors -/

/-- A ledger keeps the books of a store: it numbers the compressors, knows which of them write to
the current arenas, and counts what they compressed. -/
structure Booked (config : Config) (store : Store) (ledger : Ledger) : Prop where
  dated : Dated config store
  aligned : store.directory.isAligned = true
  created : ledger.created = store.compressors.length
  founded : ledger.founded ≤ ledger.created
  current : ∀ number compressor, store.compressor? number = some compressor →
    (compressor.generation = store.discarded.length ↔ ledger.founded ≤ number)
  relationships : store.current.relationships = ledger.relationships.toUInt64

/-- Books depend on a few parts of a store alone. -/
theorem Booked.of_shape (h : store.Booked config ledger) {after : Store} {later : Ledger}
    (hshape : after.config = store.config ∧ after.writers = store.writers ∧
      after.discarded.length = store.discarded.length)
    (haligned : after.directory.isAligned = true)
    (hledger : later.created = ledger.created ∧ later.founded = ledger.founded)
    (hrelationships : after.current.relationships = later.relationships.toUInt64) :
    after.Booked config later := by
  refine ⟨h.dated.of_shape hshape, haligned, ?_, ?_, ?_, hrelationships⟩
  · rw [length_congr hshape.2.1, hledger.1]
    exact h.created
  · rw [hledger.1, hledger.2]
    exact h.founded
  · intro number compressor hcompressor
    rw [hshape.2.2, hledger.2]
    rw [compressor?_congr hshape.2.1] at hcompressor
    exact h.current number compressor hcompressor

theorem Booked.createCompressor (h : store.Booked config ledger) :
    store.createCompressor.Booked config { ledger with created := ledger.created + 1 } := by
  refine ⟨h.dated.createCompressor, h.aligned, ?_, h.founded.trans (Nat.le_succ _), ?_,
    h.relationships⟩
  · simp [Store.createCompressor, h.created]
  · intro number compressor hcompressor
    rw [compressor?_createCompressor] at hcompressor
    split at hcompressor
    case isTrue hlast =>
      obtain rfl := Option.some.inj hcompressor
      rw [hlast, ← h.created]
      exact iff_of_true rfl h.founded
    case isFalse hother => exact h.current number compressor hcompressor

/-- A closed compressor returns pages and counts nothing. -/
theorem close_discarded (store : Store) (number : Nat) :
    (store.close number).discarded.length = store.discarded.length := by
  unfold close
  split
  case h_1 hmissing => rfl
  case h_2 compressor hcompressor =>
    dsimp only
    split
    case h_1 hmissing => rfl
    case h_2 generation hfound => exact (setGeneration_shape _ _ _).2.2

theorem Booked.close (h : store.Booked config ledger) (number : Nat) :
    (store.close number).Booked config ledger := by
  obtain ⟨-, hdirectory, hcompressors⟩ := close_shape store number
  refine ⟨h.dated.close number, hdirectory ▸ h.aligned, ?_, h.founded, ?_,
    (close_relationships store number).trans h.relationships⟩
  · rw [hcompressors, List.length_set]
    exact h.created
  · intro other compressor hother
    rw [compressor?_close] at hother
    rw [close_discarded]
    split at hother
    case isTrue hsame => simp at hother
    case isFalse hne => exact h.current other compressor hother

theorem Booked.reset (h : store.Booked config ledger) {nodeCount : Nat} {after : Store}
    (hreset : store.reset nodeCount = .ok after) (channelCount : Nat) :
    after.Booked config (.start channelCount ledger.created) := by
  have hdated := h.dated.reset hreset
  obtain ⟨directory, hdirectory, rfl⟩ := reset_eq_ok_iff.mp hreset
  refine ⟨hdated, (Directory.ofNodeCount_spec hdirectory).1, h.created, Nat.le_refl _, ?_, rfl⟩
  -- all compressors there are belong to generations before the new one
  intro number compressor hcompressor
  have hcompressor' : store.compressor? number = some compressor := hcompressor
  have hgeneration := h.dated.generations number compressor hcompressor'
  have hnumber : number < store.compressors.length := by
    by_contra hge
    simp [compressor?_of_length_le (Nat.not_lt.mp hge)] at hcompressor'
  rw [Ledger.start, h.created, List.length_append]
  exact iff_of_false (Nat.ne_of_lt (Nat.lt_succ_of_le hgeneration)) (Nat.not_le.mpr hnumber)

/-- A reset store is sound, whatever the nodes held before. -/
theorem Booked.soundApart_of_reset (h : store.Booked config ledger)
    (hsize : config.pageSize.toNat < UInt32.size) {nodeCount : Nat} {after : Store}
    (hreset : store.reset nodeCount = .ok after) :
    after.SoundApart ledger.created (fun _ => .empty config.channelCount.toNat) ∅ := by
  have hsound := h.dated.sound_of_reset hsize hreset
  have hcreated : after.compressors.length = ledger.created := by
    obtain ⟨directory, -, rfl⟩ := reset_eq_ok_iff.mp hreset
    exact h.created.symm
  rw [hcreated] at hsound
  exact hsound.soundApart

/-- A compression is counted if it succeeds and its compressor was made after the last reset. -/
theorem Booked.compress (h : store.Booked config ledger) {number : Nat} {part : Partition}
    (hpart : part.stop ≤ store.nodeCount) {node : Nat} {targets : List UInt64}
    {channels : List (List Binary64)} {degree : Nat} {compression : Compression}
    (hcompression : store.compress number part node targets channels degree = compression)
    (batch : Batch) :
    (∀ length, compression.outcome = .ok length →
      compression.store.Booked config (ledger.compress number node degree batch)) ∧
    ∀ failure, compression.outcome = .error failure → compression.store.Booked config ledger := by
  have hshape := compress_shape store number part node targets channels degree
  obtain ⟨other, -, hpaired⟩ :=
    compress_parallel h.aligned h.aligned rfl hpart number node targets channels degree
  rw [hcompression] at hshape hpaired
  have hcounter := h.relationships
  by_cases hnumber : ledger.founded ≤ number
  · have hledger : ledger.compress number node degree batch =
        { ledger with
          contents := Function.update ledger.contents node batch
          dangling := ledger.dangling.erase node
          relationships := ledger.relationships + degree } :=
      if_neg fun hold => Nat.not_lt.mpr hnumber hold.1
    rcases compress_counts h.aligned
      (fun compressor hcompressor => (h.current number compressor hcompressor).mpr hnumber) hpart
      hcompression with ⟨length, houtcome, -, entry, hentered, -, hcounts⟩ |
        ⟨⟨failure, houtcome⟩, hdirectory, hcounts⟩
    · refine ⟨fun _ _ => ?_, by simp [houtcome]⟩
      rw [hledger]
      refine h.of_shape hshape hentered.aligned ⟨rfl, rfl⟩ ?_
      rw [hcounts, hcounter]
      exact (UInt64.ofNat_add _ _).symm
    · refine ⟨by simp [houtcome], fun _ _ => ?_⟩
      exact h.of_shape hshape (hdirectory ▸ h.aligned) ⟨rfl, rfl⟩ (hcounts.trans hcounter)
  · obtain ⟨directory, discarded, -, hafter⟩ := compress_of_stale
      (fun compressor hcompressor hlast => hnumber ((h.current number compressor hcompressor).mp
        hlast)) part node targets channels degree
    rw [hcompression] at hafter
    have hsame : compression.store.current.relationships = ledger.relationships.toUInt64 := by
      rw [hafter.current]
      exact hcounter
    cases hpaired with
    | refused failure houtcome hafter hafter' =>
        refine ⟨by simp [houtcome], fun _ _ => ?_⟩
        exact h.of_shape hshape (hafter ▸ h.aligned) ⟨rfl, rfl⟩ hsame
    | entered length entry houtcome hnothing hafter hafter' =>
        refine ⟨fun _ _ => ?_, by simp [houtcome]⟩
        unfold Ledger.compress
        split
        case isTrue hold => exact h.of_shape hshape hafter.aligned ⟨rfl, rfl⟩ hsame
        case isFalse hnew =>
          obtain rfl : degree = 0 := by
            by_contra hdegree
            exact hnew ⟨Nat.not_le.mp hnumber, hdegree⟩
          exact h.of_shape hshape hafter.aligned ⟨rfl, rfl⟩ hsame

/-- A ledger that records an answer keeps the books of the store that gave it. -/
theorem Booked.step (h : store.Booked config ledger) (channelCount : Nat) (action : StoreAction) :
    (store.step action).2.Booked config
      (ledger.record channelCount action (store.step action).1) := by
  cases action with
  | createCompressor => exact h.createCompressor
  | close number => exact h.close number
  | reset nodeCount =>
      unfold Store.step
      dsimp only
      split
      case h_1 failure hreset => exact h
      case h_2 after hreset => exact h.reset hreset channelCount
  | compress number choice node targets channels degree =>
      cases hpart : store.directory.part choice with
      | error fault =>
          simp only [Store.step, hpart]
          exact h
      | ok part =>
          obtain ⟨hok, herror⟩ := h.compress (Directory.stop_le_of_part hpart) rfl
            (.firsts degree targets channels)
          simp only [Store.step, hpart]
          cases houtcome : (store.compress number part node targets channels degree).outcome with
          | error failure => exact herror failure houtcome
          | ok length => exact hok length houtcome

/-! ## Nodes through any history -/

/-- After a compression the nodes that do not dangle hold what the ledger says, unless an arena is
full. -/
theorem Booked.compress_soundApart (hbooked : store.Booked config ledger)
    (h : store.SoundApart ledger.founded ledger.contents ledger.dangling) {number : Nat}
    {part : Partition} (hpart : part.stop ≤ store.nodeCount) {node : Nat} {targets : List UInt64}
    {channels : List (List Binary64)} {degree : Nat} {compression : Compression}
    (hcompression : store.compress number part node targets channels degree = compression) :
    ((∀ length, compression.outcome = .ok length →
        let later := ledger.compress number node degree (.firsts degree targets channels)
        compression.store.SoundApart later.founded later.contents later.dangling) ∧
      ∀ failure, compression.outcome = .error failure →
        compression.store.SoundApart ledger.founded ledger.contents ledger.dangling) ∨
    compression.store.current.Full := by
  by_cases hnumber : ledger.founded ≤ number
  · by_cases hpages : compression.outcome = .error (.capacityExhausted store.config.pageSize.toNat)
    · exact .inr (h.compress_full hnumber hpart hcompression hpages)
    · obtain ⟨hok, herror⟩ := h.compress_fresh hnumber hpart hcompression hpages
      refine .inl ⟨fun length houtcome => ?_, herror⟩
      rw [Ledger.compress, if_neg fun hold => Nat.not_lt.mpr hnumber hold.1]
      exact hok length houtcome
  · obtain ⟨hok, herror⟩ := h.compress_stale (fun compressor hcompressor hlast =>
      hnumber ((hbooked.current number compressor hcompressor).mp hlast)) hpart hcompression
    refine .inl ⟨fun length houtcome => ?_, herror⟩
    obtain ⟨hnothing, hsomething⟩ := hok length houtcome
    unfold Ledger.compress
    split
    case isTrue hold => exact hsomething hold.2
    case isFalse hnew =>
      refine hnothing ?_
      by_contra hdegree
      exact hnew ⟨Nat.not_le.mp hnumber, hdegree⟩

/-- After an action the nodes that do not dangle hold what the ledger says, unless an arena is
full. -/
theorem Booked.step_soundApart (hbooked : store.Booked config ledger)
    (hsize : config.pageSize.toNat < UInt32.size)
    (h : store.SoundApart ledger.founded ledger.contents ledger.dangling) (action : StoreAction)
    {later : Ledger}
    (hlater : ledger.record config.channelCount.toNat action (store.step action).1 = later) :
    (store.step action).2.SoundApart later.founded later.contents later.dangling ∨
      (store.step action).2.current.Full := by
  subst hlater
  cases action with
  | createCompressor => exact .inl h.createCompressor
  | close number => exact .inl (h.close number)
  | reset nodeCount =>
      unfold Store.step
      dsimp only
      split
      case h_1 failure hreset => exact .inl h
      case h_2 after hreset => exact .inl (hbooked.soundApart_of_reset hsize hreset)
  | compress number choice node targets channels degree =>
      cases hpart : store.directory.part choice with
      | error fault =>
          simp only [Store.step, hpart]
          exact .inl h
      | ok part =>
          simp only [Store.step, hpart]
          refine (hbooked.compress_soundApart h (Directory.stop_le_of_part hpart) rfl).imp_left ?_
          rintro ⟨hok, herror⟩
          cases houtcome : (store.compress number part node targets channels degree).outcome with
          | error failure => exact herror failure houtcome
          | ok length => exact hok length houtcome

/-- A full arena stays full until the next reset, which makes the store sound again. -/
theorem Booked.step_full (hbooked : store.Booked config ledger)
    (hsize : config.pageSize.toNat < UInt32.size) (h : store.current.Full) (action : StoreAction)
    {later : Ledger}
    (hlater : ledger.record config.channelCount.toNat action (store.step action).1 = later) :
    (store.step action).2.SoundApart later.founded later.contents later.dangling ∨
      (store.step action).2.current.Full := by
  subst hlater
  cases action with
  | createCompressor => exact .inr (Generation.lasting_full.join _ h)
  | close number => exact .inr (close_holds Generation.lasting_full.retire h number)
  | compress number choice node targets channels degree =>
      have hany : (StoreAction.compress number choice node targets channels degree).SinceReset 0 :=
        Nat.zero_le number
      exact .inr (step_lasting Generation.lasting_full h hany)
  | reset nodeCount =>
      unfold Store.step
      dsimp only
      split
      case h_1 failure hreset => exact .inr h
      case h_2 after hreset => exact .inl (hbooked.soundApart_of_reset hsize hreset)

/-- After any history a ledger has kept the books, and the nodes that do not dangle hold what it
says, unless an arena is full. -/
theorem Booked.run (hbooked : store.Booked config ledger)
    (hsize : config.pageSize.toNat < UInt32.size)
    (h : store.SoundApart ledger.founded ledger.contents ledger.dangling ∨ store.current.Full)
    (actions : List StoreAction) {later : Ledger}
    (hlater : ledger.recordAll config.channelCount.toNat (actions.zip (store.run actions).1) =
      later) :
    (store.run actions).2.Booked config later ∧
      ((store.run actions).2.SoundApart later.founded later.contents later.dangling ∨
        (store.run actions).2.current.Full) := by
  induction actions generalizing store ledger with
  | nil =>
      subst hlater
      exact ⟨hbooked, h⟩
  | cons action rest ih =>
      refine ih (hbooked.step config.channelCount.toNat action) ?_ hlater
      rcases h with hsound | hfull
      · exact hbooked.step_soundApart hsize hsound action rfl
      · exact hbooked.step_full hsize hfull action rfl

/-! ## Freezing -/

/-- Whatever compressors did, before and after any number of resets and in any order, a store that
freezes has counted the relationships that compressors made after the last reset compressed since,
and every node is read back as it was last compressed, unless a compressor made before the last
reset entered it last. -/
theorem freeze_discards {nodeCount : Nat} (hcreate : create config nodeCount = .ok store)
    (actions : List StoreAction) {lists : Lists}
    (hfreeze : (store.run actions).2.freeze = .ok lists) :
    let ledger := Ledger.recordAll config.channelCount.toNat
      (.start config.channelCount.toNat 0) (actions.zip (store.run actions).1)
    lists.relationshipCount = ledger.relationships.toUInt64 ∧
      ((store.run actions).2.current.FewOpen → ∀ node ∉ ledger.dangling,
        lists.ReadsBack node (ledger.contents node) ∧
          (Blob.ofLists lists).nodeProblem? node = none) := by
  intro ledger
  have hstart : Started config nodeCount store := .created hcreate
  have hsize := pageSize_of_create hcreate
  obtain ⟨-, -, hsound⟩ := hstart.sound
  have hnone : store.compressors = [] := by
    obtain ⟨-, directory, -, rfl⟩ := create_eq_ok_iff.mp hcreate
    rfl
  have hbooked : store.Booked config (.start config.channelCount.toNat 0) := by
    refine ⟨dated_of_create hcreate, hsound.aligned, by rw [hnone]; rfl, Nat.le_refl _, ?_, ?_⟩
    · intro number compressor hcompressor
      have hopen : store.compressor? number = none :=
        compressor?_of_length_le (hnone ▸ Nat.zero_le number)
      simp [hopen] at hcompressor
    · rw [hstart.current]
      rfl
  rw [hnone] at hsound
  obtain ⟨hfinal, hnodes⟩ := hbooked.run hsize (.inl hsound.soundApart) actions rfl
  refine ⟨?_, ?_⟩
  · obtain ⟨adjacency, properties, -, -, hlists⟩ := freeze_eq_ok_iff.mp hfreeze
    rw [← hlists]
    exact hfinal.relationships
  · intro hopen node hnode
    rcases hnodes with hapart | hfull
    · exact hapart.readsBack_of_freeze hfreeze hnode
    · exact absurd hfreeze (freeze_ne_ok_of_full hfull hopen lists)

/-- A reset to three nodes while a compressor is open, which then compresses all three of them,
one without relationships. A compressor made after the reset compresses one of them again. -/
def resetWhileCompressing : List StoreAction :=
  [.createCompressor, .compress 0 .whole 0 [3, 4] [] 2, .reset 3, .createCompressor,
    .compress 0 .whole 0 [5] [] 1, .compress 0 .whole 1 [6] [] 1, .compress 0 .whole 2 [] [] 0,
    .compress 1 .whole 1 [7, 9] [] 2, .close 0, .close 1]

/-- Of the relationships before and after the reset two are counted, and the nodes that need no
record of the older compressor are read back. -/
theorem freeze_discards_oneNode :
    ∃ lists, (oneNode.run resetWhileCompressing).2.freeze = .ok lists ∧
      lists.relationshipCount = 2 ∧ lists.ReadsBack 1 ⟨[7, 9], []⟩ ∧
      lists.ReadsBack 2 ⟨[], []⟩ := by
  have hfreeze : (oneNode.run resetWhileCompressing).2.freeze =
      .ok
        { rule := (Config.default 1).layoutRule
          relationshipCount := 2
          directory := ⟨#[1, 2, 0], #[⟨0, 2⟩, .zero, .zero], #[.zero, .zero, .zero]⟩
          adjacency := ⟨[[7, 2]]⟩
          properties := none } := by
    decide +kernel
  have hcreate : create (.default 1) 1 = .ok oneNode := rfl
  obtain ⟨hcount, hnodes⟩ := freeze_discards hcreate resetWhileCompressing hfreeze
  have hopen : (oneNode.run resetWhileCompressing).2.current.FewOpen := by decide +kernel
  have hledger : ∀ ledger, Ledger.recordAll 0 (.start 0 0)
      (resetWhileCompressing.zip (oneNode.run resetWhileCompressing).1) = ledger →
        ledger.relationships = 2 ∧ ledger.dangling = {0} ∧ ledger.contents 1 = ⟨[7, 9], []⟩ ∧
          ledger.contents 2 = ⟨[], []⟩ := by
    rintro ledger rfl
    decide +kernel
  obtain ⟨hrelationships, hdangling, hfirst, hsecond⟩ := hledger _ rfl
  refine ⟨_, hfreeze, hcount.trans (congrArg Nat.toUInt64 hrelationships),
    hfirst ▸ (hnodes hopen 1 ?_).1, hsecond ▸ (hnodes hopen 2 ?_).1⟩
  · exact hdangling ▸ by decide
  · exact hdangling ▸ by decide

/-- A compressor made before a reset enters a node, but its record goes to a discarded arena. The
store freezes, and the node has a relationship, but an address outside of the arena. -/
theorem freeze_dangles :
    create (.default 1) 1 = .ok oneNode ∧
      (oneNode.run
        [.createCompressor, .reset 1, .compress 0 .whole 0 [5] [] 1, .close 0]).2.freeze =
        .ok danglingLists ∧
      danglingLists.degree 0 = 1 ∧
      (Blob.ofLists danglingLists).nodeProblem? 0 = some (.adjacencyOverrun 0) ∧
      danglingLists.neighbors 0 = .error .outOfBounds := by
  refine ⟨rfl, ?_, rfl, ?_, ?_⟩
  · decide +kernel
  · decide +kernel
  · decide +kernel

end Store

end CompactAdjacency
