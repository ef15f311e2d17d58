import Mathlib
import CompactAdjacency.Proofs.Store.Contents

/-!
# One compression

A compression by a compressor made after the last reset either succeeds, and then the node holds the
first relationships it was given, or fails, and then every node holds what it held. It fails only if
the node cannot be encoded or memory is refused. `compress_spec` states this for every sound store;
nothing in it depends on which compressor acts or on what it compressed before.
-/

namespace CompactAdjacency

/-- The first relationships of a node. -/
def Batch.firsts (degree : Nat) (targets : List UInt64) (channels : List (List Binary64)) : Batch :=
  ⟨targets.take degree, channels.map fun values => values.take degree⟩

/-- Only the first values of each channel are written. -/
theorem Record.encodeChannels_firsts (layout : Layout) (degree : Nat)
    (channels : List (List Binary64)) :
    encodeChannels layout degree (channels.map fun values => values.take degree) =
      encodeChannels layout degree channels := by
  simp [encodeChannels, List.flatMap_map, List.take_take]

namespace Store

variable {store : Store} {founded : Nat} {contents : Nat → Batch}

/-- What no compression changes. -/
structure SameShape (store after : Store) : Prop where
  config : after.config = store.config
  writers : after.writers = store.writers
  generations : after.discarded.length = store.discarded.length
  nodeCount : after.nodeCount = store.nodeCount

theorem SameShape.refl (store : Store) : store.SameShape store := ⟨rfl, rfl, rfl, rfl⟩

theorem SameShape.compressor? {after : Store} (h : store.SameShape after) (number : Nat) :
    after.compressor? number = store.compressor? number :=
  compressor?_congr h.writers number

theorem SameShape.length {after : Store} (h : store.SameShape after) :
    after.compressors.length = store.compressors.length :=
  length_congr h.writers

/-- The contents of buffers are no part of the shape. -/
theorem SameShape.of_refilled {middle after : Store} (h : store.SameShape middle)
    (hafter : middle.Refilled after) : store.SameShape after :=
  ⟨hafter.config.trans h.config, hafter.writers.trans h.writers,
    (congrArg List.length hafter.discarded).trans h.generations,
    (congrArg Directory.nodeCount hafter.directory).trans h.nodeCount⟩

/-- What a compression of a node leaves, by its outcome. -/
structure Compressed (store after : Store) (founded : Nat) (contents : Nat → Batch) (node : Nat)
    (batch : Batch) (outcome : Except Failure Nat) : Prop where
  shape : store.SameShape after
  ok : ∀ length, outcome = .ok length → after.Sound founded (Function.update contents node batch)
  error : ∀ failure, outcome = .error failure → after.Sound founded contents

theorem Compressed.of_refilled {middle after : Store} {node : Nat} {batch : Batch}
    {outcome : Except Failure Nat}
    (h : store.Compressed middle founded contents node batch outcome)
    (hafter : middle.Refilled after) :
    store.Compressed after founded contents node batch outcome :=
  ⟨h.shape.of_refilled hafter, fun length hok => (h.ok length hok).of_refilled hafter,
    fun failure herror => (h.error failure herror).of_refilled hafter⟩

/-- A node holds the relationships it was entered with. -/
theorem holdsBatch_firsts {part : Partition} {node degree : Nat} {targets : List UInt64}
    {channels : List (List Binary64)}
    (haccept : EncodedNode.Acceptable store.config.channelCount.toNat part node targets channels
      degree) (hascent : (targets.take degree).Pairwise (· ≤ ·))
    {adjacency property : Address} (hdegree : store.directory.degree node = degree)
    (hadjacency : Directory.lookup store.directory.adjacency node = .ok adjacency)
    (hproperty : Directory.lookup store.directory.properties node = .ok property)
    (hstores : degree ≠ 0 → store.current.adjacency.Stores adjacency
      (Record.encode (store.config.layoutRule.layout degree) (Gaps.gaps (targets.take degree))))
    (hstores' : degree ≠ 0 → store.config.channelCount ≠ 0 →
      store.current.properties.Stores property
        (Record.encodeChannels (store.config.layoutRule.layout degree) degree channels)) :
    store.HoldsBatch node (.firsts degree targets channels) := by
  have hlength : (targets.take degree).length = degree :=
    List.length_take_of_le haccept.enoughTargets
  refine ⟨hdegree.trans hlength.symm, hascent, ?_, ?_, ?_⟩
  · rw [Batch.firsts, List.length_map, haccept.allChannels]
  · intro values hvalues
    obtain ⟨channel, hchannel, rfl⟩ := List.mem_map.mp hvalues
    exact (List.length_take_of_le (haccept.enoughValues channel hchannel)).trans hlength.symm
  · intro hne
    have hpos : degree ≠ 0 := by
      rintro rfl
      exact hne (List.eq_nil_of_length_eq_zero hlength)
    refine ⟨adjacency, property, hadjacency, hproperty, ?_, ?_⟩
    · show store.current.adjacency.Stores adjacency
        (Record.encode (store.config.layoutRule.layout (targets.take degree).length)
          (Gaps.gaps (targets.take degree)))
      rw [hlength]
      exact hstores hpos
    · intro hchannels
      show store.current.properties.Stores property
        (Record.encodeChannels (store.config.layoutRule.layout (targets.take degree).length)
          (targets.take degree).length (channels.map fun values => values.take degree))
      rw [hlength, Record.encodeChannels_firsts]
      exact hstores' hpos hchannels

/-- Entering a node whose records were written. -/
theorem sound_of_inserted (h : store.Sound founded contents) {allocator : Nat}
    (howns : store.Owns founded allocator) {generation : Generation}
    (hkeeps : store.current.Keeps generation allocator) {part : Partition} {node degree : Nat}
    {targets : List UInt64} {channels : List (List Binary64)}
    (haccept : EncodedNode.Acceptable store.config.channelCount.toNat part node targets channels
      degree) (hascent : (targets.take degree).Pairwise (· ≤ ·))
    {adjacency property : Address} {directory : Directory}
    (hentered : store.directory.Entered directory node ⟨degree.toUInt32, adjacency, property⟩)
    (hstores : generation.adjacency.Stores adjacency
      (Record.encode (store.config.layoutRule.layout degree) (Gaps.gaps (targets.take degree))))
    (hstores' : store.config.channelCount ≠ 0 → generation.properties.Stores property
      (Record.encodeChannels (store.config.layoutRule.layout degree) degree channels)) :
    ({ store with directory := directory, current := generation } : Store).Sound founded
      (Function.update contents node (.firsts degree targets channels)) := by
  have hcount : degree.toUInt32.toNat = degree := by
    rw [Nat.toUInt32, UInt32.toNat_ofNat', Nat.mod_eq_of_lt haccept.countable]
  exact (h.of_keeps hkeeps howns).of_entered hentered
    (holdsBatch_firsts haccept hascent (hentered.degree.trans hcount) hentered.adjacency
      hentered.properties (fun _ => hstores) fun _ => hstores')

/-- Entering a node without relationships. -/
theorem sound_of_entered_nothing (h : store.Sound founded contents) {part : Partition} {node : Nat}
    {targets : List UInt64} {channels : List (List Binary64)}
    (haccept : EncodedNode.Acceptable store.config.channelCount.toNat part node targets channels 0)
    {directory : Directory} (hentered : store.directory.Entered directory node ⟨0, .zero, .zero⟩) :
    ({ store with directory := directory } : Store).Sound founded
      (Function.update contents node (.firsts 0 targets channels)) :=
  h.of_entered hentered (holdsBatch_firsts haccept .nil hentered.degree hentered.adjacency
    hentered.properties (fun hne => absurd rfl hne) fun hne => absurd rfl hne)

/-- What writing a node comes to: a node without relationships is entered, there is no generation to
write to, the records of another node are refused, or they are written, entered and counted. -/
theorem commit_inversion (haligned : store.directory.isAligned = true) (compressor : Compressor)
    {part : Partition} {node : Nat} (hinside : part.start ≤ node ∧ node < part.stop)
    (hpart : part.stop ≤ store.nodeCount) (degree : Nat) (encoded : EncodedNode) :
    (degree = 0 ∧ ∃ directory, store.directory.Entered directory node ⟨0, .zero, .zero⟩ ∧
      store.commit compressor part node degree encoded =
        (.ok 0, { store with directory := directory })) ∨
    (store.generation? compressor.generation = none ∧
      store.commit compressor part node degree encoded = (.error (.fault .outOfBounds), store)) ∨
    ∃ generation properties, store.generation? compressor.generation = some generation ∧
      properties = (if store.config.channelCount = 0 then none else some encoded.properties) ∧
      ((∃ failure later,
        generation.insert (compressor.allocatorOf (store.config.layoutRule.layout degree))
          encoded.adjacency properties = (.error failure, later) ∧
        store.commit compressor part node degree encoded =
          (.error failure, store.setGeneration compressor.generation later)) ∨
      ∃ adjacency property later directory,
        generation.insert (compressor.allocatorOf (store.config.layoutRule.layout degree))
          encoded.adjacency properties = (.ok (adjacency, property), later) ∧
        store.directory.Entered directory node ⟨degree.toUInt32, adjacency, property⟩ ∧
        store.commit compressor part node degree encoded =
          (.ok encoded.adjacency.length,
            ({ store with directory := directory } : Store).setGeneration compressor.generation
              { later with relationships := later.relationships + degree.toUInt64 })) := by
  have hset := fun entry => Directory.set_spec haligned hinside hpart entry
  by_cases hdegree : degree = 0
  · obtain ⟨directory, hset', hentered⟩ := hset ⟨0, .zero, .zero⟩
    exact .inl ⟨hdegree, directory, hentered, by simp only [commit, if_pos hdegree, enter, hset']⟩
  refine .inr ?_
  cases hfound : store.generation? compressor.generation with
  | none => exact .inl ⟨rfl, by simp only [commit, if_neg hdegree, hfound]⟩
  | some generation =>
      refine .inr ⟨generation, _, rfl, rfl, ?_⟩
      simp only [commit, if_neg hdegree, hfound]
      rcases hinsert : generation.insert
        (compressor.allocatorOf (store.config.layoutRule.layout degree)) encoded.adjacency
        (if store.config.channelCount = 0 then none else some encoded.properties) with
        ⟨outcome, later⟩
      cases outcome with
      | error failure => exact .inl ⟨failure, later, rfl, rfl⟩
      | ok addresses =>
          obtain ⟨adjacency, property⟩ := addresses
          obtain ⟨directory, hset', hentered⟩ := hset ⟨degree.toUInt32, adjacency, property⟩
          refine .inr ⟨adjacency, property, later, directory, rfl, hentered, ?_⟩
          simp only [enter, setGeneration_directory, hset', ← setGeneration_withDirectory,
            setGeneration_setGeneration]

/-- With a compressor of the current generation, that is the generation written to. -/
theorem commit_cases (haligned : store.directory.isAligned = true) {compressor : Compressor}
    (hcurrent : compressor.generation = store.discarded.length)
    {part : Partition} {node : Nat} (hinside : part.start ≤ node ∧ node < part.stop)
    (hpart : part.stop ≤ store.nodeCount) (degree : Nat) (encoded : EncodedNode) :
    (degree = 0 ∧ ∃ directory, store.directory.Entered directory node ⟨0, .zero, .zero⟩ ∧
      store.commit compressor part node degree encoded =
        (.ok 0, { store with directory := directory })) ∨
    ∃ properties,
      properties = (if store.config.channelCount = 0 then none else some encoded.properties) ∧
      ((∃ failure generation,
        store.current.insert (compressor.allocatorOf (store.config.layoutRule.layout degree))
          encoded.adjacency properties = (.error failure, generation) ∧
        store.commit compressor part node degree encoded =
          (.error failure, { store with current := generation })) ∨
      ∃ adjacency property generation directory,
        store.current.insert (compressor.allocatorOf (store.config.layoutRule.layout degree))
          encoded.adjacency properties = (.ok (adjacency, property), generation) ∧
        store.directory.Entered directory node ⟨degree.toUInt32, adjacency, property⟩ ∧
        store.commit compressor part node degree encoded =
          (.ok encoded.adjacency.length,
            { store with
              directory := directory
              current :=
                { generation with
                  relationships := generation.relationships + degree.toUInt64 } })) := by
  have hset : ∀ later, store.setGeneration compressor.generation later =
      { store with current := later } :=
    fun later => hcurrent ▸ setGeneration_current store later
  have hset' : ∀ directory later,
      ({ store with directory := directory } : Store).setGeneration compressor.generation later =
        { store with directory := directory, current := later } :=
    fun directory later =>
      hcurrent ▸ setGeneration_current { store with directory := directory } later
  have hfound := generation?_current store
  rw [← hcurrent] at hfound
  rcases commit_inversion haligned compressor hinside hpart degree encoded with
    hnothing | ⟨hmissing, -⟩ | ⟨generation, properties, hgeneration, hproperties, hwritten⟩
  · exact .inl hnothing
  · simp [hmissing] at hfound
  · obtain rfl : generation = store.current := Option.some.inj (hgeneration.symm.trans hfound)
    simp only [hset, hset'] at hwritten
    exact .inr ⟨properties, hproperties, hwritten⟩

/-- Writing a node that can be encoded changes what it holds, unless its records are refused. Only
memory may be refused. -/
theorem commit_spec (h : store.Sound founded contents) {number : Nat} {compressor : Compressor}
    (hcompressor : store.compressor? number = some compressor) (hnumber : founded ≤ number)
    {part : Partition} {node degree : Nat} {targets : List UInt64}
    {channels : List (List Binary64)}
    (haccept : EncodedNode.Acceptable store.config.channelCount.toNat part node targets channels
      degree) (hascent : (targets.take degree).Pairwise (· ≤ ·))
    (hpart : part.stop ≤ store.nodeCount) {encoded : EncodedNode}
    (hadjacency : encoded.adjacency = Record.encode (store.config.layoutRule.layout degree)
      (Gaps.gaps (targets.take degree)))
    (hproperties : encoded.properties =
      Record.encodeChannels (store.config.layoutRule.layout degree) degree channels)
    (hnumbers : (store.commit compressor part node degree encoded).1 ≠
      .error (.capacityExhausted store.config.pageSize.toNat)) :
    store.Compressed (store.commit compressor part node degree encoded).2 founded contents node
        (.firsts degree targets channels) (store.commit compressor part node degree encoded).1 ∧
      ∀ failure, (store.commit compressor part node degree encoded).1 = .error failure →
        ∃ capacity, failure = .capacityExhausted capacity := by
  have howns : store.Owns founded
      (compressor.allocatorOf (store.config.layoutRule.layout degree)) :=
    ⟨number, compressor, _, hnumber, hcompressor, rfl⟩
  obtain ⟨hcurrent, hallocators⟩ := h.fresh number compressor hcompressor hnumber
  have hspec := Generation.insert_spec h.arenas
    (hallocators (store.config.layoutRule.layout degree)) encoded.adjacency
  rcases commit_cases h.aligned hcurrent haccept.inside hpart degree encoded with
    ⟨rfl, directory, hentered, hcommit⟩ | ⟨properties, hsome, hwritten⟩
  · rw [hcommit]
    refine ⟨⟨⟨rfl, rfl, rfl, hentered.nodeCount⟩, ?_, by simp⟩, by simp⟩
    exact fun _ _ => sound_of_entered_nothing h haccept hentered
  · have hspec' := hspec properties
    rcases hwritten with ⟨failure, generation, hinsert, hcommit⟩ |
      ⟨adjacency, property, generation, directory, hinsert, hentered, hcommit⟩
    · rw [hinsert] at hspec'
      rw [hcommit] at hnumbers ⊢
      have hinserted := hspec' (by simpa using hnumbers)
      refine ⟨⟨⟨rfl, rfl, rfl, rfl⟩, by simp, fun _ _ => h.of_keeps hinserted.keeps howns⟩, ?_⟩
      simpa using hinserted.failure
    · rw [hinsert] at hspec'
      rw [hcommit]
      have hinserted := hspec' (by simp)
      obtain ⟨hstores, hstores'⟩ := hinserted.stores adjacency property rfl
      refine ⟨⟨⟨rfl, rfl, rfl, hentered.nodeCount⟩, ?_, by simp⟩, by simp⟩
      intro _ _
      refine sound_of_inserted h howns ?_ haccept hascent hentered (hadjacency ▸ hstores) ?_
      · exact ⟨hinserted.keeps.adjacency, hinserted.keeps.properties⟩
      · exact fun hchannels => hproperties ▸ hstores' _ (hsome.trans (if_neg hchannels))

/-- A compression changes what its node holds if it succeeds, and nothing that a node holds if it
fails. It fails if there is no such compressor, if the node cannot be encoded, or if memory is
refused. The page numbers must not be used up. -/
theorem compress_spec (h : store.Sound founded contents) {number : Nat} (hnumber : founded ≤ number)
    {part : Partition} (hpart : part.stop ≤ store.nodeCount) (node : Nat) (targets : List UInt64)
    (channels : List (List Binary64)) (degree : Nat)
    (hnumbers : (store.compress number part node targets channels degree).outcome ≠
      .error (.capacityExhausted store.config.pageSize.toNat)) :
    store.Compressed (store.compress number part node targets channels degree).store founded
        contents node (.firsts degree targets channels)
        (store.compress number part node targets channels degree).outcome ∧
      ∀ failure, (store.compress number part node targets channels degree).outcome =
          .error failure →
        store.compressor? number = none ∨
        EncodedNode.ofTargets store.config part node targets channels degree = .error failure ∨
        ∃ capacity, failure = .capacityExhausted capacity := by
  rcases store.compress_cases number part node targets channels degree with
    ⟨hclosed, hcompress⟩ | ⟨compressor, hcompressor,
      ⟨failure, hrefused, hcompress⟩ | ⟨encoded, after, hencoded, hafter, hcompress⟩⟩
  · rw [hcompress]
    exact ⟨⟨.refl store, by simp, fun _ _ => h⟩, fun _ _ => .inl hclosed⟩
  · rw [hcompress]
    refine ⟨⟨.refl store, by simp, fun _ _ => h⟩, ?_⟩
    intro _ hfailure
    exact .inr (.inl (hrefused.trans (congrArg Except.error (Except.error.inj hfailure))))
  · obtain ⟨haccept, hascent, hrecords⟩ := EncodedNode.ofTargets_eq_ok_iff.mp hencoded
    rw [hcompress] at hnumbers ⊢
    obtain ⟨hcompressed, hfailure⟩ := commit_spec h hcompressor hnumber haccept
      (Gaps.descentFrom_eq_none_iff.mp hascent) hpart
      (congrArg EncodedNode.adjacency hrecords)
      (congrArg EncodedNode.properties hrecords) hnumbers
    exact ⟨hcompressed.of_refilled hafter, fun failure herror =>
      .inr (.inr (hfailure failure herror))⟩

end Store

end CompactAdjacency
