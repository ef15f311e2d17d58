import Mathlib
import CompactAdjacency.Proofs.Blob.RoundTrip
import CompactAdjacency.Proofs.Store.Counting

/-!
# Nodes whose records were discarded

A compressor made before a reset enters its nodes into the new directory, but writes their records
to discarded arenas: the entries dangle. `SoundApart` sets such nodes apart. It keeps a second
directory that only the compressors made after the reset write to, and asks that the store be sound
with that one. A compression does the same whichever of the two directories it is given,
`compress_parallel`, so that everything known of sound stores carries over, and the nodes that are
not set apart are read back like those of a sound store, `SoundApart.readsBack_of_freeze`.
-/

namespace CompactAdjacency

/-- What a compression leaves of two directories: a node that is refused is entered in neither, and
another one in both. -/
inductive Directory.Paired (directory other : Directory) (node degree : Nat)
    (outcome : Except Failure Nat) (after after' : Directory) : Prop where
  | refused (failure : Failure) (houtcome : outcome = .error failure) (hafter : after = directory)
      (hafter' : after' = other)
  | entered (length : Nat) (entry : DirectoryEntry) (houtcome : outcome = .ok length)
      (hnothing : degree = 0 → entry = ⟨0, .zero, .zero⟩)
      (hafter : directory.Entered after node entry) (hafter' : other.Entered after' node entry)

/-! ## Frozen structures -/

/-- Columns that lead to the same address have the same entry. -/
theorem Directory.getElem?_of_lookup {column other : Array Address} {node : Nat}
    (h : lookup other node = lookup column node) : other[node]? = column[node]? := by
  unfold lookup at h
  cases hfirst : other[node]? with
  | none =>
      cases hsecond : column[node]? with
      | none => rfl
      | some address => simp [hfirst, hsecond] at h
  | some address =>
      cases hsecond : column[node]? with
      | none => simp [hfirst, hsecond] at h
      | some address' => simpa [hfirst, hsecond] using h

namespace Lists

variable {lists : Lists} {directory : Directory} {apart : Finset Nat} {node : Nat} {batch : Batch}

/-- What a node holds is found through its own entry. -/
theorem HoldsBatch.of_agrees
    (h : ({ lists with directory := directory } : Lists).HoldsBatch node batch)
    (hagrees : directory.AgreesOutside apart lists.directory) (hnode : node ∉ apart) :
    lists.HoldsBatch node batch := by
  obtain ⟨hdegree, hadjacency, hproperties⟩ := hagrees.entries node hnode
  have hlayout : lists.layout node =
      ({ lists with directory := directory } : Lists).layout node := by
    simp only [layout, degree, hdegree]
  have hrecord : lists.record node =
      ({ lists with directory := directory } : Lists).record node := by
    rw [record, record, degree, hdegree, hadjacency]
    rfl
  have hchannel : ∀ properties channel, lists.channelRecord properties node channel =
      ({ lists with directory := directory } : Lists).channelRecord properties node channel := by
    intro properties channel
    rw [channelRecord, channelRecord, hlayout, degree, hdegree, hproperties]
    rfl
  refine ⟨⟨hdegree.trans h.neighbors.degree, ?_⟩, h.channels, ?_⟩
  · rw [hrecord, hlayout]
    exact h.neighbors.record
  · intro properties hsome channel values hvalues
    obtain ⟨hlength, hvalues'⟩ := h.values properties hsome channel values hvalues
    refine ⟨hdegree.trans hlength, ?_⟩
    rw [hchannel, hlayout]
    exact hvalues'

/-- Whether the records of a node lie inside of their pages depends on its own entry. -/
theorem nodeProblem?_of_agrees (hagrees : directory.AgreesOutside apart lists.directory)
    (hnode : node ∉ apart) :
    (Blob.ofLists lists).nodeProblem? node =
      (Blob.ofLists { lists with directory := directory }).nodeProblem? node := by
  obtain ⟨hdegree, hadjacency, hproperties⟩ := hagrees.entries node hnode
  have hfits : (Blob.ofLists lists).adjacencyFits node =
      (Blob.ofLists { lists with directory := directory }).adjacencyFits node := by
    simp only [Blob.adjacencyFits, Blob.leadsTo, Blob.ofLists, hdegree,
      Directory.getElem?_of_lookup hadjacency]
  have hfits' : ∀ arena, (Blob.ofLists lists).propertiesFit arena node =
      (Blob.ofLists { lists with directory := directory }).propertiesFit arena node := by
    intro arena
    simp only [Blob.propertiesFit, Blob.leadsTo, Blob.ofLists, hdegree,
      Directory.getElem?_of_lookup hproperties]
    rfl
  have hdegree' : (Blob.ofLists lists).directory.degree node =
      (Blob.ofLists { lists with directory := directory }).directory.degree node := hdegree
  rw [Blob.nodeProblem?, Blob.nodeProblem?, hdegree', hfits]
  simp only [hfits']
  rfl

end Lists

namespace Store

variable {store : Store} {founded : Nat} {contents : Nat → Batch} {dangling : Finset Nat}

/-! ## One compression, two directories -/

/-- Writing a node does the same whatever the directory is, and enters the same. -/
theorem commit_parallel (haligned : store.directory.isAligned = true) {other : Directory}
    (haligned' : other.isAligned = true) (hcount : other.nodeCount = store.nodeCount)
    (compressor : Compressor) {part : Partition} {node : Nat}
    (hinside : part.start ≤ node ∧ node < part.stop) (hpart : part.stop ≤ store.nodeCount)
    (degree : Nat) (encoded : EncodedNode) :
    ∃ other',
      ({ store with directory := other } : Store).commit compressor part node degree encoded =
        ((store.commit compressor part node degree encoded).1,
          { (store.commit compressor part node degree encoded).2 with directory := other' }) ∧
      store.directory.Paired other node degree
        (store.commit compressor part node degree encoded).1
        (store.commit compressor part node degree encoded).2.directory other' := by
  have hset := fun entry => Directory.set_spec haligned hinside hpart entry
  have hset' := fun entry => Directory.set_spec haligned' hinside (hcount.symm ▸ hpart) entry
  by_cases hdegree : degree = 0
  · obtain ⟨directory, hfirst, hentered⟩ := hset ⟨0, .zero, .zero⟩
    obtain ⟨other', hsecond, hentered'⟩ := hset' ⟨0, .zero, .zero⟩
    simp only [commit, if_pos hdegree, enter, hfirst, hsecond]
    exact ⟨other', rfl, .entered 0 _ rfl (fun _ => rfl) hentered hentered'⟩
  · have hsame : ({ store with directory := other } : Store).generation? compressor.generation =
        store.generation? compressor.generation := rfl
    simp only [commit, if_neg hdegree, hsame]
    cases hfound : store.generation? compressor.generation with
    | none => exact ⟨other, rfl, .refused _ rfl rfl rfl⟩
    | some generation =>
        rcases hinsert : generation.insert
          (compressor.allocatorOf (store.config.layoutRule.layout degree)) encoded.adjacency
          (if store.config.channelCount = 0 then none else some encoded.properties) with
          ⟨outcome, after⟩
        cases outcome with
        | error failure =>
            simp only [hinsert, setGeneration_withDirectory]
            exact ⟨other, rfl, .refused _ rfl (setGeneration_directory _ _ _) rfl⟩
        | ok addresses =>
            obtain ⟨adjacency, property⟩ := addresses
            obtain ⟨directory, hfirst, hentered⟩ := hset ⟨degree.toUInt32, adjacency, property⟩
            obtain ⟨other', hsecond, hentered'⟩ := hset' ⟨degree.toUInt32, adjacency, property⟩
            simp only [hinsert, setGeneration_withDirectory, enter, setGeneration_directory, hfirst,
              hsecond]
            exact ⟨other', rfl, .entered _ _ rfl (fun hzero => absurd hzero hdegree) hentered
              hentered'⟩

/-- A compression does the same whatever the directory is, and enters the same. -/
theorem compress_parallel (haligned : store.directory.isAligned = true) {other : Directory}
    (haligned' : other.isAligned = true) (hcount : other.nodeCount = store.nodeCount)
    {part : Partition} (hpart : part.stop ≤ store.nodeCount) (number node : Nat)
    (targets : List UInt64) (channels : List (List Binary64)) (degree : Nat) :
    let compression := store.compress number part node targets channels degree
    ∃ other',
      ({ store with directory := other } : Store).compress number part node targets channels
          degree =
        { compression with store := { compression.store with directory := other' } } ∧
      store.directory.Paired other node degree compression.outcome compression.store.directory
        other' := by
  have hsame : ({ store with directory := other } : Store).openCompressor? number =
      store.openCompressor? number := rfl
  intro compression
  simp only [compression, compress, hsame]
  cases store.openCompressor? number with
  | none => exact ⟨other, rfl, .refused _ rfl rfl rfl⟩
  | some compressor =>
      rcases compressor.encode_cases store.config part node targets channels degree with
        ⟨failure, -, hencode⟩ | ⟨encoded, later, hencoded, hencode, -⟩
      · simp only [hencode]
        exact ⟨other, rfl, .refused failure rfl rfl rfl⟩
      · obtain ⟨haccept, -⟩ := EncodedNode.ofTargets_eq_ok_iff.mp hencoded
        have hput : ({ store with directory := other } : Store).putBack number later =
            { store.putBack number later with directory := other } := rfl
        have haligned'' : (store.putBack number later).directory.isAligned = true := haligned
        obtain ⟨other', hcommit, hpaired⟩ := commit_parallel haligned'' haligned' hcount
          later.toCompressor haccept.inside hpart degree encoded
        refine ⟨other', ?_, ?_⟩
        · simp only [hencode, hput, hcommit]
        · simp only [hencode]
          exact hpaired

/-- A compression by a compressor of an earlier generation changes nothing but the directory,
discarded arenas and its buffers. -/
theorem compress_of_stale {number : Nat}
    (hstale : ∀ compressor, store.compressor? number = some compressor →
      compressor.generation ≠ store.discarded.length)
    (part : Partition) (node : Nat) (targets : List UInt64) (channels : List (List Binary64))
    (degree : Nat) :
    ∃ directory discarded, discarded.length = store.discarded.length ∧
      ({ store with directory := directory, discarded := discarded } : Store).Refilled
        (store.compress number part node targets channels degree).store := by
  obtain ⟨hconfig, hwriters, hlength⟩ :=
    compress_shape store number part node targets channels degree
  have hcurrent := compress_holds (Q := (· = store.current))
    (fun compressor hcompressor hlast => absurd hlast (hstale compressor hcompressor)) rfl part node
    targets channels degree
  exact ⟨_, _, hlength, hconfig, rfl, rfl, hcurrent, hwriters⟩

/-! ## Nodes set apart -/

/-- A store is sound but for the entries of some nodes: it would be sound with a directory that has
the same entries everywhere else. -/
def SoundApart (store : Store) (founded : Nat) (contents : Nat → Batch) (dangling : Finset Nat) :
    Prop :=
  ∃ directory, ({ store with directory := directory } : Store).Sound founded contents ∧
    directory.AgreesOutside dangling store.directory

/-- A sound store has no node set apart. -/
theorem Sound.soundApart (h : store.Sound founded contents) :
    store.SoundApart founded contents ∅ :=
  ⟨store.directory, h, .refl h.aligned⟩

theorem SoundApart.createCompressor (h : store.SoundApart founded contents dangling) :
    store.createCompressor.SoundApart founded contents dangling := by
  obtain ⟨directory, hsound, hagrees⟩ := h
  exact ⟨directory, sound_createCompressor hsound, hagrees⟩

/-- Closing a compressor does the same whatever the directory is. -/
theorem close_withDirectory (store : Store) (other : Directory) (number : Nat) :
    ({ store with directory := other } : Store).close number =
      { store.close number with directory := other } := by
  have hcompressor : ({ store with directory := other } : Store).compressor? number =
      store.compressor? number := rfl
  unfold close
  rw [hcompressor]
  cases store.compressor? number with
  | none => rfl
  | some compressor =>
      have hgeneration :
          ({ store with
              directory := other
              compressors := store.compressors.set number none } : Store).generation?
            compressor.generation =
          ({ store with compressors := store.compressors.set number none } : Store).generation?
            compressor.generation := rfl
      dsimp only
      rw [hgeneration]
      split
      case h_1 hmissing => rfl
      case h_2 generation hfound =>
        exact setGeneration_withDirectory
          { store with compressors := store.compressors.set number none } other _ _

theorem SoundApart.close (h : store.SoundApart founded contents dangling) (number : Nat) :
    (store.close number).SoundApart founded contents dangling := by
  obtain ⟨directory, hsound, hagrees⟩ := h
  refine ⟨directory, ?_, ?_⟩
  · rw [← close_withDirectory]
    exact sound_close hsound number
  · rw [(close_shape store number).2.1]
    exact hagrees

/-- A compressor made after the last reset changes what its node holds if it succeeds, wherever the
entry of the node led before, and nothing if it fails. -/
theorem SoundApart.compress_fresh (h : store.SoundApart founded contents dangling) {number : Nat}
    (hnumber : founded ≤ number) {part : Partition} (hpart : part.stop ≤ store.nodeCount)
    {node : Nat} {targets : List UInt64} {channels : List (List Binary64)} {degree : Nat}
    {compression : Compression}
    (hcompression : store.compress number part node targets channels degree = compression)
    (hnumbers : compression.outcome ≠ .error (.capacityExhausted store.config.pageSize.toNat)) :
    (∀ length, compression.outcome = .ok length → compression.store.SoundApart founded
      (Function.update contents node (.firsts degree targets channels)) (dangling.erase node)) ∧
    ∀ failure, compression.outcome = .error failure →
      compression.store.SoundApart founded contents dangling := by
  obtain ⟨directory, hsound, hagrees⟩ := h
  have hpart' : part.stop ≤ directory.nodeCount := hagrees.nodeCount ▸ hpart
  obtain ⟨directory', hother, hpaired⟩ := compress_parallel hagrees.aligned hsound.aligned
    hagrees.nodeCount.symm hpart number node targets channels degree
  rw [hcompression] at hother hpaired
  obtain ⟨hcompressed, -⟩ := compress_spec hsound hnumber hpart' node targets channels degree
    (by rw [hother]; exact hnumbers)
  rw [hother] at hcompressed
  cases hpaired with
  | refused failure houtcome hafter hafter' =>
      obtain rfl : directory' = directory := hafter'
      refine ⟨by simp [houtcome], fun _ _ => ⟨directory', hcompressed.error failure houtcome, ?_⟩⟩
      exact hafter ▸ hagrees
  | entered length entry houtcome hnothing hafter hafter' =>
      refine ⟨fun _ _ => ⟨directory', hcompressed.ok length houtcome, ?_⟩, by simp [houtcome]⟩
      exact hagrees.enter_both hafter' hafter

/-- A compressor made after the last reset that finds no page number leaves a full arena. -/
theorem SoundApart.compress_full (h : store.SoundApart founded contents dangling) {number : Nat}
    (hnumber : founded ≤ number) {part : Partition} (hpart : part.stop ≤ store.nodeCount)
    {node : Nat} {targets : List UInt64} {channels : List (List Binary64)} {degree : Nat}
    {compression : Compression}
    (hcompression : store.compress number part node targets channels degree = compression)
    (hexhausted : compression.outcome = .error (.capacityExhausted store.config.pageSize.toNat)) :
    compression.store.current.Full := by
  obtain ⟨directory, hsound, hagrees⟩ := h
  have hpart' : part.stop ≤ directory.nodeCount := hagrees.nodeCount ▸ hpart
  obtain ⟨directory', hother, -⟩ := compress_parallel hagrees.aligned hsound.aligned
    hagrees.nodeCount.symm hpart number node targets channels degree
  rw [hcompression] at hother
  have hfull := Store.compress_full hsound hnumber hpart' (by rw [hother]; exact hexhausted)
  rw [hother] at hfull
  exact hfull

/-- A compressor made before the last reset sets its node apart if it succeeds, unless the node has
no relationships and needs no record. If it fails it changes nothing that a node holds. -/
theorem SoundApart.compress_stale (h : store.SoundApart founded contents dangling) {number : Nat}
    (hstale : ∀ compressor, store.compressor? number = some compressor →
      compressor.generation ≠ store.discarded.length)
    {part : Partition} (hpart : part.stop ≤ store.nodeCount) {node : Nat} {targets : List UInt64}
    {channels : List (List Binary64)} {degree : Nat} {compression : Compression}
    (hcompression : store.compress number part node targets channels degree = compression) :
    (∀ length, compression.outcome = .ok length →
      (degree = 0 → compression.store.SoundApart founded
        (Function.update contents node (.firsts degree targets channels)) (dangling.erase node)) ∧
      (degree ≠ 0 → compression.store.SoundApart founded contents (insert node dangling))) ∧
    ∀ failure, compression.outcome = .error failure →
      compression.store.SoundApart founded contents dangling := by
  obtain ⟨directory, hsound, hagrees⟩ := h
  obtain ⟨directory', -, hpaired⟩ := compress_parallel hagrees.aligned hsound.aligned
    hagrees.nodeCount.symm hpart number node targets channels degree
  obtain ⟨after, discarded, hlength, hrefilled⟩ :=
    compress_of_stale hstale part node targets channels degree
  rw [hcompression] at hpaired hrefilled
  -- whatever directory it is given, the store is as sound as it was
  have hkept : ∀ {other : Directory} {contents' : Nat → Batch},
      ({ store with directory := other } : Store).Sound founded contents' →
      ({ compression.store with directory := other } : Store).Sound founded contents' :=
    fun {other} _ hother =>
      (hother.of_discarded hlength).of_refilled (hrefilled.withDirectory other)
  cases hpaired with
  | refused failure houtcome hafter hafter' =>
      refine ⟨by simp [houtcome], fun _ _ => ⟨directory, hkept hsound, ?_⟩⟩
      exact hafter ▸ hagrees
  | entered length entry houtcome hnothing hafter hafter' =>
      refine ⟨fun _ _ => ⟨?_, ?_⟩, by simp [houtcome]⟩
      · rintro rfl
        obtain rfl := hnothing rfl
        rw [← hcompression] at houtcome
        obtain ⟨-, encoded, -, -, hencoded, -⟩ := exists_encoded_of_compress houtcome
        obtain ⟨haccept, -⟩ := EncodedNode.ofTargets_eq_ok_iff.mp hencoded
        have hentered := sound_of_entered_nothing hsound haccept hafter'
        exact ⟨directory', hkept hentered, hagrees.enter_both hafter' hafter⟩
      · intro hdegree
        exact ⟨directory, hkept hsound, hagrees.enter_other hafter⟩

/-- The nodes that are not set apart are read back from a frozen store, and their records lie inside
of its pages. -/
theorem SoundApart.readsBack_of_freeze (h : store.SoundApart founded contents dangling)
    {lists : Lists} (hfreeze : store.freeze = .ok lists) {node : Nat} (hnode : node ∉ dangling) :
    lists.ReadsBack node (contents node) ∧ (Blob.ofLists lists).nodeProblem? node = none := by
  obtain ⟨directory, hsound, hagrees⟩ := h
  obtain ⟨adjacency, properties, harena, harena', hlists⟩ := freeze_eq_ok_iff.mp hfreeze
  have hother : ({ store with directory := directory } : Store).freeze =
      .ok { lists with directory := directory } :=
    freeze_eq_ok_iff.mpr ⟨adjacency, properties, harena, harena', by rw [← hlists]⟩
  have hagrees' : directory.AgreesOutside dangling lists.directory := by
    rw [← hlists]
    exact hagrees
  have hholds := (hsound.holdsBatch_of_freeze hother node).of_agrees hagrees' hnode
  exact ⟨hholds.readsBack, (Lists.nodeProblem?_of_agrees hagrees' hnode).trans
    (hsound.nodeProblem?_of_freeze hother node)⟩

end Store

end CompactAdjacency
