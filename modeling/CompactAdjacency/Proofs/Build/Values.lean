import Mathlib
import CompactAdjacency.Proofs.Build.Termination
import CompactAdjacency.Proofs.Store.Arenas

/-!
# Values of a structure that was built

A structure is built from a source or from a history of compressions, and `Lists.Compressed` says
what its nodes were compressed to: the references of what the source filled, or what the history
compressed last. Either way it is the frozen form of a store that satisfies its invariant,
`Lists.Compressed.exists_sound`, so that a value cursor on it is a place in the channels of its
nodes, `Lists.Compressed.valueCursor_refines_place`.
-/

namespace CompactAdjacency

/-- What the nodes of a source are compressed to: the references of the batches that it fills, and
no relationships for nodes that it does not have. -/
def Source.references (source : Source) (config : Config) (node : Nat) : Batch :=
  if node < source.nodeCount then
    match source.fill node (.empty source.channelCount.toNat) with
    | .ok batch => batch.reference config.aggregation config.channelAggregations
    | .error _ => .empty source.channelCount.toNat
  else .empty source.channelCount.toNat

/-- The reference of a node is what its batch is prepared to. -/
theorem Source.references_of_prepared {source : Source} {config : Config} {node : Nat}
    {batch : Batch} (hnode : node < source.nodeCount)
    (hprepared : source.prepared (config.withChannels source.channelCount) node = .ok batch) :
    source.references config node = batch := by
  simp only [prepared, bind_eq_ok_iff, Batch.prepare_eq_ok_iff] at hprepared
  obtain ⟨filled, hfilled, -, hreference⟩ := hprepared
  rw [references, if_pos hnode, hfilled]
  exact hreference

/-- The references of a source that fills given relationships are theirs, and its results read them
back. -/
theorem Source.Fills.readsBack_of_result {source : Source} {batches : Nat → Batch}
    (h : source.Fills batches) {config : Config} {build : Build} {events : List BuildEvent}
    {result : BuildResult} (hstart : Build.start config source = .ok build)
    (hresult : (build.run source events).result? = some (.ok result)) :
    source.ReadsReference config batches result.lists := by
  intro node hnode
  obtain ⟨batch, hprepared, hread⟩ := Build.readsBack_of_result hstart hresult node hnode
  have hreference := Source.references_of_prepared hnode hprepared
  rw [references, if_pos hnode, h.filled node hnode] at hreference
  rwa [← hreference] at hread

/-! ## Structures and what they were compressed to -/

/-- A structure that was built, its number of property channels, and what each of its nodes was
compressed to: the result of a build, under any schedule of its workers, or what a store freezes to
whose nodes were compressed, any number of times, by compressors made since it was created or reset,
which have fewer pages open than there are page numbers. -/
inductive Lists.Compressed : Lists → Nat → (Nat → Batch) → Prop
  | build {config : Config} {source : Source} {build : Build} {events : List BuildEvent}
      {result : BuildResult} (hstart : Build.start config source = .ok build)
      (hresult : (build.run source events).result? = some (.ok result)) :
      Compressed result.lists source.channelCount.toNat (source.references config)
  | store {config : Config} {nodeCount : Nat} {store : Store} {actions : List StoreAction}
      {lists : Lists} (hstart : Store.Started config nodeCount store)
      (hsince : ∀ action ∈ actions, action.SinceReset store.compressors.length)
      (hopen : (store.run actions).2.current.FewOpen)
      (hfreeze : (store.run actions).2.freeze = .ok lists) :
      Compressed lists config.channelCount.toNat
        (lastCompressed (fun _ => .empty config.channelCount.toNat)
          (actions.zip (store.run actions).1))

namespace Store

variable {store : Store} {founded : Nat} {contents : Nat → Batch}

/-- A node that the directory does not have holds no relationships. -/
theorem Sound.contents_of_ge (h : store.Sound founded contents) {node : Nat}
    (hnode : store.nodeCount ≤ node) :
    contents node = .empty store.config.channelCount.toNat := by
  have hholds := h.holds node
  have hdegree : store.directory.degree node = 0 := by
    rw [Directory.degree, Array.getElem?_eq_none hnode]
    rfl
  have htargets : (contents node).targets = [] :=
    List.eq_nil_of_length_eq_zero (hholds.degree.symm.trans hdegree)
  have hchannels : (contents node).channels =
      List.replicate store.config.channelCount.toNat [] := by
    refine List.eq_replicate_iff.mpr ⟨hholds.channels, ?_⟩
    intro values hvalues
    refine List.eq_nil_of_length_eq_zero ?_
    rw [hholds.values values hvalues, htargets, List.length_nil]
  rw [Batch.empty, ← htargets, ← hchannels]

/-- A frozen store has the property channels of its configuration, if there are any. -/
theorem properties_of_freeze {lists : Lists} (hfreeze : store.freeze = .ok lists)
    (hpos : 0 < store.config.channelCount.toNat) :
    ∃ properties, lists.properties = some properties ∧
      properties.channelCount = store.config.channelCount := by
  obtain ⟨adjacency, arena, -, -, rfl⟩ := freeze_eq_ok_iff.mp hfreeze
  have hne : store.config.channelCount ≠ 0 := by
    rintro hzero
    simp [hzero] at hpos
  exact ⟨_, if_neg hne, rfl⟩

end Store

/-- When all of its workers have finished, the nodes of a build hold the references of its
source. -/
theorem Build.Coherent.contents_eq {source : Source} {config : Config} {parts : List Partition}
    {contents : Nat → Batch} {build : Build}
    (h : Coherent source (config.withChannels source.channelCount) parts contents build)
    (hcover : Partition.Cover parts source.nodeCount)
    (hfinished : ∀ worker ∈ build.workers, worker.outcome = some (.ok ())) :
    contents = source.references config := by
  obtain ⟨result, -, hreads⟩ := h.exists_result hcover hfinished
  funext node
  by_cases hnode : node < source.nodeCount
  · obtain ⟨⟨part, haccepted⟩, -⟩ := hreads node hnode
    exact (Source.references_of_prepared hnode (Source.accepted_eq_ok_iff.mp haccepted).1).symm
  · -- the directory has no entry for the node, so that nothing can have been compressed to it
    have houtside := h.sound.contents_of_ge (h.nodeCount.trans_le (Nat.not_lt.mp hnode))
    rw [houtside, h.storeConfig, Source.references, if_neg hnode]
    rfl

namespace Lists.Compressed

variable {lists : Lists} {channelCount : Nat} {contents : Nat → Batch}

/-- Whichever way a structure was built, it is what a sound store froze to. -/
theorem exists_sound (h : lists.Compressed channelCount contents) :
    ∃ (store : Store) (founded : Nat), store.Sound founded contents ∧
      store.freeze = .ok lists ∧ store.config.channelCount.toNat = channelCount := by
  cases h with
  | @store config nodeCount store actions _ hstart hsince hopen hfreeze =>
      have hconfig : (store.run actions).2.config = config :=
        (hstart.sound.2.2.dated.run actions).config.trans hstart.sound.1
      exact ⟨_, _, hstart.sound_of_freeze hsince hopen hfreeze, hfreeze, by rw [hconfig]⟩
  | build hstart hresult =>
      have hfinished := Build.finished_of_result hresult
      obtain ⟨hcoherent, hcover, -⟩ := Build.coherent_of_start hstart
      obtain ⟨held, hfinal⟩ :=
        hcoherent.run hcover _ (Build.not_outOfMemory_of_finished hfinished)
      obtain rfl := hfinal.contents_eq hcover hfinished
      have hcount := congrArg (fun config => config.channelCount.toNat) hfinal.storeConfig
      exact ⟨_, _, hfinal.sound, (Build.freeze_of_result hresult).1, hcount⟩

/-- On a structure that was built with property channels a value cursor is a place in the channels
of the nodes, whose values follow the neighbors one by one, and it refuses every other channel
without being moved. -/
theorem valueCursor_refines_place (h : lists.Compressed channelCount contents)
    (hpos : 0 < channelCount) :
    ∃ properties, lists.properties = some properties ∧
      (∀ node, lists.neighbors node = .ok (contents node).targets ∧
        (contents node).channels.length = channelCount ∧
        ∀ values ∈ (contents node).channels, values.length = (contents node).targets.length) ∧
      (∀ operations, (ValueCursor.raw.run lists properties operations).1 =
        Place.valueRun channelCount
          (fun node channel => (contents node).channels.getD channel []) none operations) ∧
      ∀ (cursor : ValueCursor) (node channel : Nat), channelCount ≤ channel →
        cursor.moveTo lists properties node channel =
          (.error (.channelOutOfRange channel channelCount), cursor) := by
  obtain ⟨store, founded, hsound, hfreeze, rfl⟩ := h.exists_sound
  obtain ⟨properties, hproperties, hcount⟩ := Store.properties_of_freeze hfreeze hpos
  refine ⟨properties, hproperties, ?_, ?_, ?_⟩
  · intro node
    have hholds := hsound.holds node
    exact ⟨(hsound.holdsNeighbors_of_freeze hfreeze node).neighbors, hholds.channels, hholds.values⟩
  · intro operations
    rw [← hcount]
    refine ValueCursor.run_represents ?_ ValueCursor.raw_represents operations
    intro node channel hchannel
    have hstored : channel < (contents node).channels.length := by
      rw [(hsound.holds node).channels, ← hcount]
      exact hchannel
    refine hsound.holdsValues_of_freeze hfreeze hproperties ?_
    rw [List.getD_eq_getElem _ _ hstored]
    exact List.getElem?_eq_getElem hstored
  · intro cursor node channel hchannel
    rw [← hcount] at hchannel ⊢
    exact ValueCursor.moveTo_of_ge hchannel node cursor

end Lists.Compressed

namespace Store

/-- A store of two nodes with two property channels that packs more than a block of values. -/
def mixedNodes : Store :=
  { config := { Config.default 1 with threshold := 1, channelCount := 2 }
    directory := ⟨#[0, 0], #[.zero, .zero], #[.zero, .zero]⟩
    discarded := []
    current := .ofPageSize 1048576
    compressors := [] }

/-- One compressor packs a block and a tail, with values without a set bit in one channel, and
negative zeros and a NaN in the other; another one writes a shorter record meanwhile. -/
def compressMixed : List StoreAction :=
  [.createCompressor, .createCompressor,
    .compress 0 (.share 2 0) 0 (List.replicate 65 3)
      [List.replicate 65 ⟨0⟩, List.replicate 64 ⟨0x8000000000000000⟩ ++ [⟨0x7ff8000000000001⟩]] 65,
    .close 0,
    .compress 1 (.share 2 1) 1 [4, 18446744073709551615] [[⟨1⟩, ⟨2⟩], [⟨3⟩, ⟨4⟩]] 2,
    .close 1]

theorem mixedNodes_started :
    Started { Config.default 1 with threshold := 1, channelCount := 2 } 2 mixedNodes :=
  .created rfl

theorem compressMixed_runs :
    (∀ answer ∈ (mixedNodes.run compressMixed).1, ¬ answer.OutOfPages mixedNodes.config) ∧
      (mixedNodes.run compressMixed).2.compressors.all Option.isNone = true ∧
      (mixedNodes.run compressMixed).2.current.FewOpen := by
  decide +kernel

theorem compressMixed_freezes :
    ∃ lists, (mixedNodes.run compressMixed).2.freeze = .ok lists := by
  obtain ⟨hpages, hcompressors, -⟩ := compressMixed_runs
  have hsound := mixedNodes_started.run_sound (by decide) hpages
  exact hsound.exists_freeze fun number _ => compressor?_of_closed hcompressors number

/-- The packed channel with the NaN is read to its end, a third channel is asked for, and then the
unpacked record. -/
def readMixed : List ValueAction :=
  .moveTo 0 1 :: List.replicate 66 .next ++ [.moveTo 0 2, .length, .reuse 1 0, .next]

/-- The answers of a place. -/
def mixedAnswers : List (Except Fault ValueAnswer) :=
  .ok (.count 65) :: List.replicate 64 (.ok (.value (some ⟨0x8000000000000000⟩))) ++
    [.ok (.value (some ⟨0x7ff8000000000001⟩)), .ok (.value none),
      .error (.channelOutOfRange 2 2), .ok (.count 0), .ok (.count 2), .ok (.value (some ⟨1⟩))]

/-- A cursor on the mixed records answers the bits of every value, and refuses the third channel. -/
theorem valueCursor_refines_place_mixedNodes :
    ∃ lists properties, (mixedNodes.run compressMixed).2.freeze = .ok lists ∧
      lists.properties = some properties ∧
      (ValueCursor.raw.run lists properties readMixed).1 = mixedAnswers := by
  obtain ⟨lists, hfreeze⟩ := compressMixed_freezes
  have hcompressed :=
    Lists.Compressed.store mixedNodes_started (by decide) compressMixed_runs.2.2 hfreeze
  obtain ⟨properties, hproperties, -, hrun, -⟩ :=
    hcompressed.valueCursor_refines_place (by decide)
  refine ⟨lists, properties, hfreeze, hproperties, (hrun readMixed).trans ?_⟩
  decide +kernel

/-- A store of one node with one property channel that was reset while a compressor was open. -/
def channelResetWhileOpen : Store :=
  { config := { Config.default 1 with channelCount := 1 }
    directory := ⟨#[0], #[.zero], #[.zero]⟩
    discarded := [(Generation.ofPageSize 1048576).join]
    current := .ofPageSize 1048576
    compressors := [some (.ofCompressor ⟨0, 0⟩)] }

/-- A directory that points into arenas without pages. -/
def danglingChannel : Lists :=
  { rule := (Config.default 1).layoutRule
    relationshipCount := 0
    directory := ⟨#[1], #[.zero], #[.zero]⟩
    adjacency := .empty
    properties := some ⟨.empty, 1⟩ }

/-- A compressor made before the reset enters a node whose values go to a discarded arena. The
compression succeeds and the store freezes, yet a cursor cannot be moved to the values. -/
theorem valueCursor_faults_after_reset :
    Started { Config.default 1 with channelCount := 1 } 1 channelResetWhileOpen ∧
      (lastCompressed (fun _ => .empty 1)
        ([.compress 0 .whole 0 [5] [[⟨0x3ff0000000000000⟩]] 1, .close 0].zip
          (channelResetWhileOpen.run
            [.compress 0 .whole 0 [5] [[⟨0x3ff0000000000000⟩]] 1, .close 0]).1) 0).channels =
        [[⟨0x3ff0000000000000⟩]] ∧
      (channelResetWhileOpen.run
        [.compress 0 .whole 0 [5] [[⟨0x3ff0000000000000⟩]] 1, .close 0]).2.freeze =
          .ok danglingChannel ∧
      (ValueCursor.raw.run danglingChannel ⟨.empty, 1⟩ [.moveTo 0 0]).1 = [.error .outOfBounds] ∧
      Place.valueRun 1 (fun _ _ => [⟨0x3ff0000000000000⟩]) none [.moveTo 0 0] =
        [.ok (.count 1)] := by
  refine ⟨.reset 1 _ [.createCompressor] rfl rfl, ?_, ?_, ?_, ?_⟩
  · decide +kernel
  · decide +kernel
  · decide +kernel
  · decide +kernel

end Store

end CompactAdjacency
