import Mathlib
import CompactAdjacency.Proofs.Store.Encoding

/-!
# Compressions, whatever is in the buffers

A compression reads and replaces one generation, the directory, and the buffers of its compressor.
What it comes to is said by `compress_cases` without a word about the buffers: the store it leaves
is `Refilled`, which differs in nothing but buffers from the store that the node was written to.

Stores that differ in buffers answer every action alike and still differ in buffers only, so that
what the buffers held at any time shows in no answer and in nothing that is read,
`Store.run_refilled`.
-/

namespace CompactAdjacency.Store

variable {store after : Store}

/-! ## Compressors -/

/-- The compressors without their buffers. -/
def writers (store : Store) : List (Option Compressor) :=
  store.compressors.map (Option.map OpenCompressor.toCompressor)

@[simp] theorem length_writers (store : Store) :
    store.writers.length = store.compressors.length :=
  List.length_map _

theorem writers_congr (h : after.compressors = store.compressors) :
    after.writers = store.writers :=
  congrArg (List.map _) h

theorem compressor?_eq (store : Store) (number : Nat) :
    store.compressor? number = (store.writers[number]?).join := by
  rw [compressor?, openCompressor?, writers, List.getElem?_map]
  cases store.compressors[number]? with
  | none => rfl
  | some compressor => cases compressor <;> rfl

/-- Which compressors there are does not depend on their buffers. -/
theorem compressor?_congr (h : after.writers = store.writers) (number : Nat) :
    after.compressor? number = store.compressor? number := by
  rw [compressor?_eq, h, compressor?_eq]

theorem length_congr (h : after.writers = store.writers) :
    after.compressors.length = store.compressors.length := by
  rw [← length_writers, h, length_writers]

/-- There is no compressor of a number that none was given yet. -/
theorem compressor?_of_length_le {number : Nat} (h : store.compressors.length ≤ number) :
    store.compressor? number = none := by
  rw [compressor?, openCompressor?, List.getElem?_eq_none h]
  rfl

/-- There is no compressor of any number once all are closed. -/
theorem compressor?_of_closed (h : store.compressors.all Option.isNone = true) (number : Nat) :
    store.compressor? number = none := by
  rw [compressor?, openCompressor?]
  cases hnumber : store.compressors[number]? with
  | none => rfl
  | some compressor =>
      have hclosed := List.all_eq_true.mp h compressor (List.mem_of_getElem? hnumber)
      rw [Option.isNone_iff_eq_none.mp hclosed]
      rfl

/-! ## Generations -/

theorem generation?_current (store : Store) :
    store.generation? store.discarded.length = some store.current := by
  simp [generation?]

theorem setGeneration_current (store : Store) (generation : Generation) :
    store.setGeneration store.discarded.length generation = { store with current := generation } :=
  if_pos rfl

/-- A generation is replaced without a change elsewhere. -/
theorem setGeneration_shape (store : Store) (number : Nat) (generation : Generation) :
    (store.setGeneration number generation).config = store.config ∧
      (store.setGeneration number generation).compressors = store.compressors ∧
      (store.setGeneration number generation).discarded.length = store.discarded.length := by
  unfold setGeneration
  split
  case isTrue hcurrent => exact ⟨rfl, rfl, rfl⟩
  case isFalse hdiscarded => exact ⟨rfl, rfl, List.length_set⟩

theorem setGeneration_directory (store : Store) (number : Nat) (generation : Generation) :
    (store.setGeneration number generation).directory = store.directory := by
  unfold setGeneration
  split <;> rfl

/-- Generations are replaced whatever the directory is. -/
theorem setGeneration_withDirectory (store : Store) (other : Directory) (number : Nat)
    (generation : Generation) :
    ({ store with directory := other } : Store).setGeneration number generation =
      { store.setGeneration number generation with directory := other } := by
  unfold setGeneration
  split <;> rfl

/-- Of two replacements of a generation the second one counts. -/
theorem setGeneration_setGeneration (store : Store) (number : Nat)
    (first second : Generation) :
    (store.setGeneration number first).setGeneration number second =
      store.setGeneration number second := by
  unfold setGeneration
  by_cases hlast : number = store.discarded.length
  · simp only [if_pos hlast]
  · simp only [if_neg hlast, List.length_set, List.set_set]

/-- A generation is what it was replaced by. -/
theorem generation?_setGeneration {number : Nat} {generation : Generation}
    (h : store.generation? number = some generation) (later : Generation) :
    (store.setGeneration number later).generation? number = some later := by
  obtain ⟨hnumber, -⟩ := List.getElem?_eq_some_iff.mp h
  rw [List.length_append, List.length_singleton] at hnumber
  unfold setGeneration
  split
  case isTrue hlast =>
    subst hlast
    exact generation?_current { store with current := later }
  case isFalse hdiscarded =>
    have hlt : number < store.discarded.length := by omega
    simp [generation?, List.getElem?_append, hlt]

/-- Generations are replaced whatever the compressors are. -/
theorem setGeneration_withCompressors (store : Store)
    (compressors : List (Option OpenCompressor)) (number : Nat) (generation : Generation) :
    ({ store with compressors := compressors } : Store).setGeneration number generation =
      { store.setGeneration number generation with compressors := compressors } := by
  unfold setGeneration
  split <;> rfl

/-! ## Writing a node -/

/-- Writing a node changes nothing but the arenas and the directory. -/
theorem commit_shape (store : Store) (compressor : Compressor) (part : Partition)
    (node degree : Nat) (encoded : EncodedNode) :
    (store.commit compressor part node degree encoded).2.config = store.config ∧
      (store.commit compressor part node degree encoded).2.compressors = store.compressors ∧
      (store.commit compressor part node degree encoded).2.discarded.length =
        store.discarded.length := by
  unfold commit
  split
  case isTrue hzero =>
    rcases henter : store.enter part node ⟨0, .zero, .zero⟩ with ⟨outcome, after⟩
    obtain rfl := congrArg Prod.snd henter
    cases outcome with
    | error failure => exact ⟨rfl, rfl, rfl⟩
    | ok done => exact ⟨rfl, rfl, rfl⟩
  case isFalse hpos =>
    dsimp only
    split
    case h_1 hmissing => exact ⟨rfl, rfl, rfl⟩
    case h_2 generation hfound =>
      split
      case h_1 failure generation' hinsert => exact setGeneration_shape _ _ _
      case h_2 adjacency property generation' hinsert =>
        obtain ⟨hconfig, hcompressors, hlength⟩ :=
          setGeneration_shape store compressor.generation generation'
        split
        case h_1 failure after henter =>
          obtain rfl := congrArg Prod.snd henter
          exact ⟨hconfig, hcompressors, hlength⟩
        case h_2 after henter =>
          obtain rfl := congrArg Prod.snd henter
          obtain ⟨hconfig', hcompressors', hlength'⟩ := setGeneration_shape
            ((store.setGeneration compressor.generation generation').enter part node
              ⟨degree.toUInt32, adjacency, property⟩).2 compressor.generation
            { generation' with relationships := generation'.relationships + degree.toUInt64 }
          exact ⟨hconfig'.trans hconfig, hcompressors'.trans hcompressors, hlength'.trans hlength⟩

/-- A node is written the same whatever the compressors are. -/
theorem commit_withCompressors (store : Store) (compressors : List (Option OpenCompressor))
    (compressor : Compressor) (part : Partition) (node degree : Nat) (encoded : EncodedNode) :
    ({ store with compressors := compressors } : Store).commit compressor part node degree encoded =
      ((store.commit compressor part node degree encoded).1,
        { (store.commit compressor part node degree encoded).2 with
          compressors := compressors }) := by
  have hsame : ({ store with compressors := compressors } : Store).generation?
      compressor.generation = store.generation? compressor.generation := rfl
  by_cases hdegree : degree = 0
  · simp only [commit, if_pos hdegree, enter]
    rcases store.directory.set part node ⟨0, .zero, .zero⟩ with ⟨outcome, directory⟩
    cases outcome <;> rfl
  · simp only [commit, if_neg hdegree, hsame]
    cases hfound : store.generation? compressor.generation with
    | none => rfl
    | some generation =>
        dsimp only
        rcases generation.insert (compressor.allocatorOf (store.config.layoutRule.layout degree))
          encoded.adjacency
          (if store.config.channelCount = 0 then none else some encoded.properties) with
          ⟨outcome, later⟩
        cases outcome with
        | error failure => simp only [setGeneration_withCompressors]
        | ok addresses =>
            obtain ⟨adjacency, property⟩ := addresses
            simp only [setGeneration_withCompressors, enter, setGeneration_directory]
            rcases store.directory.set part node ⟨degree.toUInt32, adjacency, property⟩ with
              ⟨outcome', directory⟩
            cases outcome' with
            | error failure => rfl
            | ok done =>
                exact congrArg (Prod.mk _) (setGeneration_withCompressors
                  { store.setGeneration compressor.generation later with directory := directory }
                  compressors compressor.generation
                  { later with relationships := later.relationships + degree.toUInt64 })

/-! ## Stores that differ in buffers -/

/-- Two stores differ in nothing but what the buffers of their compressors hold. -/
structure Refilled (store after : Store) : Prop where
  config : after.config = store.config
  directory : after.directory = store.directory
  discarded : after.discarded = store.discarded
  current : after.current = store.current
  writers : after.writers = store.writers

namespace Refilled

theorem symm (h : store.Refilled after) : after.Refilled store :=
  ⟨h.config.symm, h.directory.symm, h.discarded.symm, h.current.symm, h.writers.symm⟩

theorem trans {later : Store} (h : store.Refilled after) (hlater : after.Refilled later) :
    store.Refilled later :=
  ⟨hlater.config.trans h.config, hlater.directory.trans h.directory,
    hlater.discarded.trans h.discarded, hlater.current.trans h.current,
    hlater.writers.trans h.writers⟩

theorem generation? (h : store.Refilled after) (number : Nat) :
    after.generation? number = store.generation? number := by
  rw [Store.generation?, h.discarded, h.current, Store.generation?]

/-- Such stores still differ in buffers only when they are given the same directory. -/
theorem withDirectory (h : store.Refilled after) (directory : Directory) :
    ({ store with directory := directory } : Store).Refilled
      { after with directory := directory } :=
  ⟨h.config, rfl, h.discarded, h.current, h.writers⟩

theorem eq_withCompressors (h : store.Refilled after) :
    after = { store with compressors := after.compressors } := by
  rw [← h.config, ← h.directory, ← h.discarded, ← h.current]

theorem setGeneration (h : store.Refilled after) (number : Nat) (generation : Generation) :
    (store.setGeneration number generation).Refilled (after.setGeneration number generation) := by
  unfold Store.setGeneration
  rw [h.discarded]
  split
  case isTrue hlast => exact ⟨h.config, h.directory, rfl, rfl, h.writers⟩
  case isFalse hother => exact ⟨h.config, h.directory, rfl, h.current, h.writers⟩

theorem createCompressor (h : store.Refilled after) :
    store.createCompressor.Refilled after.createCompressor := by
  refine ⟨h.config, h.directory, h.discarded, congrArg Generation.join h.current, ?_⟩
  rw [Store.createCompressor, Store.createCompressor, h.discarded, h.current]
  simp only [Store.writers, List.map_append]
  exact congrArg (· ++ _) h.writers

theorem close (h : store.Refilled after) (number : Nat) :
    (store.close number).Refilled (after.close number) := by
  have hset : ({ store with compressors := store.compressors.set number none } : Store).Refilled
      { after with compressors := after.compressors.set number none } := by
    refine ⟨h.config, h.directory, h.discarded, h.current, ?_⟩
    simp only [Store.writers, List.map_set]
    exact congrArg (List.set · number _) h.writers
  unfold Store.close
  rw [compressor?_congr h.writers]
  cases store.compressor? number with
  | none => exact h
  | some compressor =>
      dsimp only
      rw [hset.generation?]
      split
      case h_1 hmissing => exact hset
      case h_2 generation hfound => exact hset.setGeneration _ _

theorem reset (h : store.Refilled after) (nodeCount : Nat) :
    (∃ failure, store.reset nodeCount = .error failure ∧ after.reset nodeCount = .error failure) ∨
      ∃ first second, store.reset nodeCount = .ok first ∧ after.reset nodeCount = .ok second ∧
        first.Refilled second := by
  unfold Store.reset
  cases Directory.ofNodeCount nodeCount with
  | error failure => exact .inl ⟨failure, rfl, rfl⟩
  | ok directory =>
      refine .inr ⟨_, _, rfl, rfl, h.config, rfl, ?_, ?_, h.writers⟩
      · exact congrArg₂ (· ++ [·]) h.discarded h.current
      · exact congrArg (fun config : Config => Generation.ofPageSize config.pageSize.toNat) h.config

/-- A node is written alike. -/
theorem commit (h : store.Refilled after) (compressor : Compressor) (part : Partition)
    (node degree : Nat) (encoded : EncodedNode) :
    (after.commit compressor part node degree encoded).1 =
        (store.commit compressor part node degree encoded).1 ∧
      (store.commit compressor part node degree encoded).2.Refilled
        (after.commit compressor part node degree encoded).2 := by
  obtain ⟨-, hcompressors, -⟩ := commit_shape store compressor part node degree encoded
  rw [h.eq_withCompressors, commit_withCompressors]
  exact ⟨rfl, rfl, rfl, rfl, rfl, h.writers.trans (writers_congr hcompressors).symm⟩

/-- Such stores freeze to the same lists. -/
theorem freeze (h : store.Refilled after) : after.freeze = store.freeze := by
  rw [Store.freeze, Store.freeze, h.config, h.directory, h.current]

end Refilled

/-! ## Compressing a node -/

/-- A compressor is put back with other buffers where it was. -/
theorem writers_putBack {number : Nat} {compressor later : OpenCompressor}
    (hcompressor : store.openCompressor? number = some compressor)
    (hlater : later.toCompressor = compressor.toCompressor) :
    (store.putBack number later).writers = store.writers := by
  obtain ⟨hlt, hnumber⟩ := List.getElem?_eq_some_iff.mp (Option.join_eq_some_iff.mp hcompressor)
  have hlt' : number < store.writers.length := by rwa [length_writers]
  have hwriter : store.writers[number] = some later.toCompressor := by
    simp [writers, hnumber, hlater]
  rw [putBack, writers, List.map_set, Option.map_some, ← hwriter]
  exact List.set_getElem_self _

section

variable {number : Nat} {compressor : Compressor} {part : Partition} {node : Nat}
  {targets : List UInt64} {channels : List (List Binary64)} {degree : Nat}

/-- A closed compressor compresses nothing. -/
theorem compress_of_closed (hclosed : store.compressor? number = none) :
    store.compress number part node targets channels degree =
      ⟨.error (.fault .outOfBounds), targets, store⟩ := by
  rw [compress, Option.map_eq_none_iff.mp hclosed]

/-- What cannot be encoded is not compressed. -/
theorem compress_of_refused (hcompressor : store.compressor? number = some compressor)
    {failure : Failure}
    (hrefused :
      EncodedNode.ofTargets store.config part node targets channels degree = .error failure) :
    store.compress number part node targets channels degree =
      ⟨.error failure, targets, store⟩ := by
  obtain ⟨opened, hopen, -⟩ := Option.map_eq_some_iff.mp hcompressor
  rcases opened.encode_cases store.config part node targets channels degree with
    ⟨other, hother, hencode⟩ | ⟨encoded, later, hencoded, -, -⟩
  · obtain rfl := Except.error.inj (hrefused.symm.trans hother)
    simp only [compress, hopen, hencode]
  · simp [hrefused] at hencoded

/-- What can be encoded is written as it is encoded without any buffers, and the store differs from
the one written in buffers only. -/
theorem compress_of_encoded (hcompressor : store.compressor? number = some compressor)
    {encoded : EncodedNode}
    (hencoded :
      EncodedNode.ofTargets store.config part node targets channels degree = .ok encoded) :
    ∃ after, (store.commit compressor part node degree encoded).2.Refilled after ∧
      store.compress number part node targets channels degree =
        ⟨(store.commit compressor part node degree encoded).1,
          encoded.gaps ++ targets.drop degree, after⟩ := by
  obtain ⟨opened, hopen, rfl⟩ := Option.map_eq_some_iff.mp hcompressor
  rcases opened.encode_cases store.config part node targets channels degree with
    ⟨failure, hrefused, -⟩ | ⟨other, later, hother, hencode, hlater⟩
  · simp [hencoded] at hrefused
  · obtain rfl := Except.ok.inj (hencoded.symm.trans hother)
    have hput : store.Refilled (store.putBack number later) :=
      ⟨rfl, rfl, rfl, rfl, writers_putBack hopen hlater⟩
    obtain ⟨hsame, hafter⟩ := hput.commit opened.toCompressor part node degree encoded
    refine ⟨_, hafter, ?_⟩
    simp only [compress, hopen, hencode, hlater, hsame]

end

/-- What a compression comes to: there is no such compressor, the node is refused, or it is
written. -/
theorem compress_cases (store : Store) (number : Nat) (part : Partition) (node : Nat)
    (targets : List UInt64) (channels : List (List Binary64)) (degree : Nat) :
    (store.compressor? number = none ∧
      store.compress number part node targets channels degree =
        ⟨.error (.fault .outOfBounds), targets, store⟩) ∨
    ∃ compressor, store.compressor? number = some compressor ∧
      ((∃ failure,
        EncodedNode.ofTargets store.config part node targets channels degree = .error failure ∧
        store.compress number part node targets channels degree =
          ⟨.error failure, targets, store⟩) ∨
      ∃ encoded after,
        EncodedNode.ofTargets store.config part node targets channels degree = .ok encoded ∧
        (store.commit compressor part node degree encoded).2.Refilled after ∧
        store.compress number part node targets channels degree =
          ⟨(store.commit compressor part node degree encoded).1,
            encoded.gaps ++ targets.drop degree, after⟩) := by
  cases hcompressor : store.compressor? number with
  | none => exact .inl ⟨rfl, compress_of_closed hcompressor⟩
  | some compressor =>
      refine .inr ⟨compressor, rfl, ?_⟩
      cases hencoded : EncodedNode.ofTargets store.config part node targets channels degree with
      | error failure => exact .inl ⟨failure, rfl, compress_of_refused hcompressor hencoded⟩
      | ok encoded =>
          obtain ⟨after, hwritten⟩ := compress_of_encoded hcompressor hencoded
          exact .inr ⟨encoded, after, rfl, hwritten⟩

/-- Only what can be encoded is compressed, by a compressor that is not closed. -/
theorem exists_encoded_of_compress {number : Nat} {part : Partition} {node : Nat}
    {targets : List UInt64} {channels : List (List Binary64)} {degree length : Nat}
    (h : (store.compress number part node targets channels degree).outcome = .ok length) :
    ∃ compressor encoded after, store.compressor? number = some compressor ∧
      EncodedNode.ofTargets store.config part node targets channels degree = .ok encoded ∧
      (store.commit compressor part node degree encoded).2.Refilled after ∧
      store.compress number part node targets channels degree =
        ⟨(store.commit compressor part node degree encoded).1,
          encoded.gaps ++ targets.drop degree, after⟩ := by
  rcases store.compress_cases number part node targets channels degree with
    ⟨-, hcompress⟩ | ⟨compressor, hcompressor, ⟨failure, -, hcompress⟩ | ⟨encoded, after, hwritten⟩⟩
  · simp [hcompress] at h
  · simp [hcompress] at h
  · exact ⟨compressor, encoded, after, hcompressor, hwritten⟩

/-! ## Any history -/

/-- A compression answers the same whatever the buffers hold, and leaves stores that differ in
buffers only. -/
theorem Refilled.compress (h : store.Refilled after) (number : Nat) (part : Partition) (node : Nat)
    (targets : List UInt64) (channels : List (List Binary64)) (degree : Nat) :
    let compression := store.compress number part node targets channels degree
    let other := after.compress number part node targets channels degree
    other.outcome = compression.outcome ∧ other.targets = compression.targets ∧
      compression.store.Refilled other.store := by
  intro compression other
  have hwriter := compressor?_congr h.writers number
  have hsame := congrArg (EncodedNode.ofTargets · part node targets channels degree) h.config
  cases hcompressor : store.compressor? number with
  | none =>
      simp only [compression, other, compress_of_closed hcompressor,
        compress_of_closed (hwriter.trans hcompressor)]
      exact ⟨trivial, trivial, h⟩
  | some compressor =>
      cases hencoded : EncodedNode.ofTargets store.config part node targets channels degree with
      | error failure =>
          simp only [compression, other, compress_of_refused hcompressor hencoded,
            compress_of_refused (hwriter.trans hcompressor) (hsame.trans hencoded)]
          exact ⟨trivial, trivial, h⟩
      | ok encoded =>
          obtain ⟨first, hfirst, hcompress⟩ := compress_of_encoded hcompressor hencoded
          obtain ⟨second, hsecond, hcompress'⟩ :=
            compress_of_encoded (hwriter.trans hcompressor) (hsame.trans hencoded)
          obtain ⟨houtcome, hcommit⟩ := h.commit compressor part node degree encoded
          simp only [compression, other, hcompress, hcompress', houtcome]
          exact ⟨trivial, trivial, (hfirst.symm.trans hcommit).trans hsecond⟩

/-- An action is answered the same whatever the buffers hold. -/
theorem Refilled.step (h : store.Refilled after) (action : StoreAction) :
    (after.step action).1 = (store.step action).1 ∧
      (store.step action).2.Refilled (after.step action).2 := by
  cases action with
  | createCompressor =>
      exact ⟨congrArg StoreAnswer.created (length_congr h.writers), h.createCompressor⟩
  | close number => exact ⟨rfl, h.close number⟩
  | reset nodeCount =>
      rcases h.reset nodeCount with
        ⟨failure, hfirst, hsecond⟩ | ⟨first, second, hfirst, hsecond, hreset⟩
      · simp only [Store.step, hfirst, hsecond]
        exact ⟨trivial, h⟩
      · simp only [Store.step, hfirst, hsecond]
        exact ⟨trivial, hreset⟩
  | compress number choice node targets channels degree =>
      simp only [Store.step, h.directory]
      cases store.directory.part choice with
      | error fault => exact ⟨rfl, h⟩
      | ok part =>
          obtain ⟨houtcome, htargets, hstore⟩ := h.compress number part node targets channels degree
          exact ⟨congrArg₂ StoreAnswer.compressed houtcome htargets, hstore⟩

/-- Whatever the buffers of the compressors hold, any history is answered the same, and what it
freezes to is the same. -/
theorem run_refilled (h : store.Refilled after) (actions : List StoreAction) :
    (after.run actions).1 = (store.run actions).1 ∧
      (after.run actions).2.freeze = (store.run actions).2.freeze := by
  induction actions generalizing store after with
  | nil => exact ⟨rfl, h.freeze⟩
  | cons action rest ih =>
      obtain ⟨hanswer, hstep⟩ := h.step action
      obtain ⟨hanswers, hfreeze⟩ := ih hstep
      rw [run_cons, run_cons, hanswer, hanswers]
      exact ⟨rfl, hfreeze⟩

end CompactAdjacency.Store
