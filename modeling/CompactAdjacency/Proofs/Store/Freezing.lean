import Mathlib
import CompactAdjacency.Proofs.Cursor.Neighbors
import CompactAdjacency.Proofs.Cursor.Values
import CompactAdjacency.Proofs.Store.Contents

/-!
# What is read back from a frozen store

The lists of a sound store hold what the store held, `Sound.holdsBatch_of_freeze`, so that both
cursors read it back, `Lists.HoldsBatch.readsBack`. A store freezes as soon as the compressors made
after the last reset are closed, `Sound.exists_freeze`, because only they can have pages open.
-/

namespace CompactAdjacency

namespace Lists

/-- The number of property channels. -/
def channelCount (lists : Lists) : Nat :=
  ((lists.properties.map Properties.channelCount).getD 0).toNat

/-- The relationships of a node, as its directory entry and its records hold them. -/
structure HoldsBatch (lists : Lists) (node : Nat) (batch : Batch) : Prop where
  neighbors : lists.HoldsNeighbors node batch.targets
  channels : batch.channels.length = lists.channelCount
  values : ∀ properties, lists.properties = some properties →
    ∀ channel values, batch.channels[channel]? = some values →
      lists.HoldsValues properties node channel values

/-- The relationships of a node, as they are read: its degree, its neighbors, and the values of
every property channel. -/
structure ReadsBack (lists : Lists) (node : Nat) (batch : Batch) : Prop where
  degree : lists.degree node = batch.targets.length
  neighbors : lists.neighbors node = .ok batch.targets
  channels : batch.channels.length = lists.channelCount
  values : ∀ properties, lists.properties = some properties →
    ∀ channel values, batch.channels[channel]? = some values →
      lists.values properties node channel = .ok values

/-- What a structure holds is read back. -/
theorem HoldsBatch.readsBack {lists : Lists} {node : Nat} {batch : Batch}
    (h : lists.HoldsBatch node batch) : lists.ReadsBack node batch := by
  refine ⟨h.neighbors.degree, h.neighbors.neighbors, h.channels, ?_⟩
  intro properties hproperties channel values hvalues
  refine (h.values properties hproperties channel values hvalues).values ?_
  have hlt := (List.getElem?_eq_some_iff.mp hvalues).1
  rw [h.channels, channelCount, hproperties] at hlt
  exact hlt

/-- The record of a channel is found in the property record of its node, whatever its layout. -/
theorem channelRecord_of_encoded {lists : Lists} (properties : Properties) {node degree : Nat}
    {address : Address} {channels : List (List Binary64)} {rest : Bytes}
    (hdegree : lists.degree node = degree) (hne : degree ≠ 0)
    (haddress : Directory.lookup lists.directory.properties node = .ok address)
    (hbytes : properties.arena.bytesAt address =
      .ok (Record.encodeChannels (lists.layout node) degree channels ++ rest))
    (hlengths : ∀ values ∈ channels, degree ≤ values.length) {channel : Nat}
    (hchannel : channel ≤ channels.length) :
    lists.channelRecord properties node channel =
      .ok (some (Record.encodeChannels (lists.layout node) degree (channels.drop channel) ++
        rest)) := by
  subst hdegree
  cases hlayout : lists.layout node with
  | packed =>
      rw [hlayout] at hbytes
      exact channelRecord_of_packed hne haddress hbytes hlayout
        (Record.skipPacked_encodeChannels hlengths hchannel rest)
  | varint =>
      rw [hlayout] at hbytes
      exact channelRecord_of_varint hne haddress hbytes hlayout
        (Record.encodeChannels_drop hlengths hchannel rest)

end Lists

namespace Store

variable {store : Store} {founded : Nat} {contents : Nat → Batch}

/-- The parts of the lists of a frozen store. -/
theorem freeze_eq_ok_iff {lists : Lists} :
    store.freeze = .ok lists ↔ ∃ adjacency properties,
      store.current.adjacency.freeze.1 = .ok adjacency ∧
      store.current.properties.freeze.1 = .ok properties ∧
      { rule := store.config.layoutRule
        relationshipCount := store.current.relationships
        directory := store.directory
        adjacency := adjacency
        properties :=
          if store.config.channelCount = 0 then none
          else some ⟨properties, store.config.channelCount⟩ : Lists } = lists := by
  simp only [freeze, bind_eq_ok_iff, pure_eq_ok_iff]
  constructor
  · rintro ⟨adjacency, hadjacency, properties, hproperties, hlists⟩
    exact ⟨adjacency, properties, hadjacency, hproperties, hlists⟩
  · rintro ⟨adjacency, properties, hadjacency, hproperties, hlists⟩
    exact ⟨adjacency, hadjacency, properties, hproperties, hlists⟩

/-- The degree and the layout of a node are those it was compressed with. -/
theorem Sound.layout_of_freeze (h : store.Sound founded contents) {lists : Lists}
    (hfreeze : store.freeze = .ok lists) (node : Nat) :
    lists.degree node = (contents node).targets.length ∧
      lists.layout node = store.config.layoutRule.layout (contents node).targets.length := by
  obtain ⟨adjacency, properties, -, -, rfl⟩ := freeze_eq_ok_iff.mp hfreeze
  have hdegree := (h.holds node).degree
  exact ⟨hdegree, congrArg store.config.layoutRule.layout hdegree⟩

/-- The neighbor record of a node is found in the frozen arena. -/
theorem Sound.record_of_freeze (h : store.Sound founded contents) {lists : Lists}
    (hfreeze : store.freeze = .ok lists) {node : Nat} (hne : (contents node).targets ≠ []) :
    ∃ address rest, Directory.lookup lists.directory.adjacency node = .ok address ∧
      lists.adjacency.bytesAt address =
        .ok (Record.encode (lists.layout node) (Gaps.gaps (contents node).targets) ++ rest) := by
  rw [(h.layout_of_freeze hfreeze node).2]
  obtain ⟨address, property, haddress, -, hstores, -⟩ := (h.holds node).records hne
  obtain ⟨arena, properties, harena, -, rfl⟩ := freeze_eq_ok_iff.mp hfreeze
  obtain ⟨rest, hbytes⟩ := Allocators.bytesAt_of_stores h.arenas.adjacency harena hstores
  exact ⟨address, rest, haddress, hbytes⟩

/-- The property record of a node is found in the frozen arena. -/
theorem Sound.propertyRecord_of_freeze (h : store.Sound founded contents) {lists : Lists}
    (hfreeze : store.freeze = .ok lists) {properties : Properties}
    (hproperties : lists.properties = some properties) {node : Nat}
    (hne : (contents node).targets ≠ []) :
    ∃ address rest, Directory.lookup lists.directory.properties node = .ok address ∧
      properties.arena.bytesAt address =
        .ok (Record.encodeChannels (lists.layout node) (contents node).targets.length
          (contents node).channels ++ rest) := by
  rw [(h.layout_of_freeze hfreeze node).2]
  obtain ⟨-, address, -, haddress, -, hstores⟩ := (h.holds node).records hne
  obtain ⟨adjacency, arena, -, harena, rfl⟩ := freeze_eq_ok_iff.mp hfreeze
  have hchannels : store.config.channelCount ≠ 0 := by
    intro hzero
    simp [hzero] at hproperties
  obtain rfl : (⟨arena, store.config.channelCount⟩ : Properties) = properties := by
    simpa [hchannels] using hproperties
  obtain ⟨rest, hbytes⟩ :=
    Allocators.bytesAt_of_stores h.arenas.properties harena (hstores hchannels)
  exact ⟨address, rest, haddress, hbytes⟩

/-- The neighbors of a node are found in the frozen arena. -/
theorem Sound.holdsNeighbors_of_freeze (h : store.Sound founded contents) {lists : Lists}
    (hfreeze : store.freeze = .ok lists) (node : Nat) :
    lists.HoldsNeighbors node (contents node).targets := by
  have hdegree := (h.layout_of_freeze hfreeze node).1
  refine ⟨hdegree, ?_⟩
  intro hne
  obtain ⟨address, rest, haddress, hbytes⟩ := h.record_of_freeze hfreeze hne
  have hrecord := Record.holds_encode (lists.layout node) true
    (Gaps.gaps (contents node).targets) rest
  rw [EncodedNode.resolved_gaps, EncodedNode.length_gaps] at hrecord
  refine ⟨_, rest, Lists.record_of_lookup ?_ haddress hbytes, hrecord⟩
  rw [hdegree]
  simpa using hne

/-- The record of a channel begins with the channel, and those behind it follow. -/
theorem HoldsBatch.holdsChannel {node channel : Nat} {batch : Batch} {values : List Binary64}
    (h : store.HoldsBatch node batch) (hvalues : batch.channels[channel]? = some values)
    (layout : Layout) (rest : Bytes) :
    Record.HoldsChannel layout
      (Record.encodeChannels layout batch.targets.length (batch.channels.drop channel) ++ rest)
      values := by
  obtain ⟨hchannel, hget⟩ := List.getElem?_eq_some_iff.mp hvalues
  have hlength := h.values values (List.mem_of_getElem? hvalues)
  have hrecord := Record.holdsChannel_encodeChannels layout batch.targets.length values
    (batch.channels.drop (channel + 1)) rest
  rwa [← hlength, List.take_length, hlength, ← hget, ← List.drop_eq_getElem_cons hchannel, hget]
    at hrecord

/-- The values of a channel are found in the frozen arena. -/
theorem Sound.holdsValues_of_freeze (h : store.Sound founded contents) {lists : Lists}
    (hfreeze : store.freeze = .ok lists) {properties : Properties}
    (hproperties : lists.properties = some properties) {node channel : Nat}
    {values : List Binary64} (hvalues : (contents node).channels[channel]? = some values) :
    lists.HoldsValues properties node channel values := by
  have hdegree := (h.layout_of_freeze hfreeze node).1
  have hholds := h.holds node
  have hlength := hholds.values values (List.mem_of_getElem? hvalues)
  refine ⟨hdegree.trans hlength.symm, ?_⟩
  intro hne
  have hne' : (contents node).targets ≠ [] := by
    rw [← List.length_pos_iff, ← hlength, List.length_pos_iff]
    exact hne
  obtain ⟨address, rest, haddress, hbytes⟩ := h.propertyRecord_of_freeze hfreeze hproperties hne'
  have hrecord := Lists.channelRecord_of_encoded properties hdegree (by simpa using hne')
    haddress hbytes (fun values hmem => (hholds.values values hmem).ge)
    (List.getElem?_eq_some_iff.mp hvalues).1.le
  exact ⟨_, hrecord, hholds.holdsChannel hvalues _ rest⟩

/-- The lists of a frozen store hold what the store held. -/
theorem Sound.holdsBatch_of_freeze (h : store.Sound founded contents) {lists : Lists}
    (hfreeze : store.freeze = .ok lists) (node : Nat) :
    lists.HoldsBatch node (contents node) := by
  refine ⟨h.holdsNeighbors_of_freeze hfreeze node, ?_, ?_⟩
  · rw [(h.holds node).channels]
    obtain ⟨adjacency, arena, -, -, rfl⟩ := freeze_eq_ok_iff.mp hfreeze
    by_cases hzero : store.config.channelCount = 0
    · simp [Lists.channelCount, hzero]
    · simp [Lists.channelCount, hzero]
  · intro properties hproperties channel values hvalues
    exact h.holdsValues_of_freeze hfreeze hproperties hvalues

/-- A store freezes when the compressors made after the last reset are closed. -/
theorem Sound.exists_freeze (h : store.Sound founded contents)
    (hclosed : ∀ number, founded ≤ number → store.compressor? number = none) :
    ∃ lists, store.freeze = .ok lists := by
  have hunowned : ∀ allocator, ¬ store.Owns founded allocator := by
    rintro allocator ⟨number, compressor, layout, hnumber, hcompressor, -⟩
    rw [hclosed number hnumber] at hcompressor
    simp at hcompressor
  have hnone : ∀ current : List (Option Page),
      (∀ (allocator : Nat) (page : Page), current[allocator]? = some (some page) →
        store.Owns founded allocator) → current.reduceOption = [] := by
    intro current howned
    rw [List.eq_nil_iff_forall_not_mem]
    intro page hpage
    obtain ⟨allocator, hallocator⟩ := List.mem_iff_getElem?.mp (List.reduceOption_mem_iff.mp hpage)
    exact hunowned allocator (howned allocator page hallocator)
  obtain ⟨adjacency, hadjacency⟩ :=
    (Allocators.freeze_ok_iff h.arenas.adjacency).mpr (hnone _ h.openAdjacency)
  obtain ⟨properties, hproperties⟩ :=
    (Allocators.freeze_ok_iff h.arenas.properties).mpr (hnone _ h.openProperties)
  exact ⟨_, freeze_eq_ok_iff.mpr ⟨adjacency, properties, hadjacency, hproperties, rfl⟩⟩

end Store

end CompactAdjacency
