import Mathlib
import CompactAdjacency.Proofs.Blob.Checking
import CompactAdjacency.Proofs.Blob.Format
import CompactAdjacency.Proofs.Blob.Writing
import CompactAdjacency.Proofs.Build.Histories
import CompactAdjacency.Proofs.Build.Values
import CompactAdjacency.Proofs.Storage.Places

/-!
# What was built is read back from its blob

The check of a blob walks over records that it did not write. It accepts all that a store can write:
`Sound.nodeProblem?_of_freeze` takes any node of a sound store, in either layout, and finds its
records inside of their pages. Together with the two counts of relationships, and with lengths that
fit a word, this makes every structure that was built equal to what is read back from its bytes,
`ofBytes_toBytes`.
-/

namespace CompactAdjacency

namespace Blob

/-- Where a column leads to bytes they are tested. -/
theorem leadsTo_of_lookup {arena : Arena} {column : Array Address} {node : Nat} {address : Address}
    {bytes : Bytes} (haddress : Directory.lookup column node = .ok address)
    (hbytes : arena.bytesAt address = .ok bytes) (test : Bytes → Bool) :
    leadsTo arena column node test = test bytes := by
  have hcolumn : column[node]? = some address := by
    unfold Directory.lookup at haddress
    split at haddress
    case h_1 found hfound => rw [hfound, Except.ok.inj haddress]
    case h_2 hmissing => simp at haddress
  have harena : arena.bytesAt? address = some bytes := by
    unfold Arena.bytesAt at hbytes
    split at hbytes
    case h_1 found hfound => rw [hfound, Except.ok.inj hbytes]
    case h_2 hmissing => simp at hbytes
  simp only [leadsTo, hcolumn, Option.bind_some, harena]

/-- Where no node has a problem and columns and channels are as declared, the number of
relationships is all that can be wrong. -/
theorem problem?_eq {blob : Blob} (hchannels : blob.properties.isSome ↔ blob.channelCount > 0)
    (haligned : blob.directory.isAligned = true) (hnodes : ∀ node, blob.nodeProblem? node = none) :
    blob.problem? =
      if blob.relationshipCount.toNat = blob.directory.relationshipCount then none
      else some (.relationshipsDisagree blob.relationshipCount.toNat
        blob.directory.relationshipCount) := by
  have hnumbers : ¬ blob.properties.isSome ≠ (blob.channelCount > 0) :=
    not_not.mpr (propext hchannels)
  have hrecords : (List.range blob.directory.nodeCount).findSome? blob.nodeProblem? = none :=
    List.findSome?_eq_none_iff.mpr fun node _ => hnodes node
  rw [problem?, if_neg hnumbers, haligned, if_neg (by simp), hrecords]
  by_cases hcounts : blob.directory.relationshipCount = blob.relationshipCount.toNat
  · rw [if_neg (not_not.mpr hcounts), if_pos hcounts.symm]
  · rw [if_pos hcounts, if_neg (Ne.symm hcounts)]

/-- A structure is not changed by being declared. -/
theorem toLists_ofLists (lists : Lists) : (ofLists lists).toLists = lists := by
  obtain ⟨rule, relationshipCount, directory, adjacency, properties⟩ := lists
  cases properties with
  | none => rfl
  | some properties => rfl

end Blob

namespace Store

variable {store : Store} {config : Config} {founded : Nat} {contents : Nat → Batch}

/-- The property record of a node lies inside of its page. -/
theorem Sound.propertiesFit_of_freeze (h : store.Sound founded contents) {lists : Lists}
    (hfreeze : store.freeze = .ok lists) {properties : Properties}
    (hproperties : lists.properties = some properties) {node : Nat}
    (hne : (contents node).targets ≠ []) :
    (Blob.ofLists lists).propertiesFit properties.arena node = true := by
  obtain ⟨address, rest, haddress, hbytes⟩ := h.propertyRecord_of_freeze hfreeze hproperties hne
  have hdegree : lists.directory.degree node = (contents node).targets.length :=
    (h.layout_of_freeze hfreeze node).1
  -- every channel has a value for each relationship, so that the walk over the channels ends inside
  have hlengths : ∀ values ∈ (contents node).channels,
      (contents node).targets.length ≤ values.length :=
    fun values hvalues => ((h.holds node).values values hvalues).ge
  have hcount : (Blob.ofLists lists).channelCount.toNat = (contents node).channels.length :=
    (h.holdsBatch_of_freeze hfreeze node).channels.symm
  have hlayout : (Blob.ofLists lists).rule.layout (lists.directory.degree node) =
      lists.layout node := rfl
  rw [← hdegree] at hlengths hbytes
  refine (Blob.leadsTo_of_lookup haddress hbytes _).trans ?_
  rw [hcount]
  cases hcase : lists.layout node with
  | packed =>
      rw [hcase] at hlayout
      have hextents := Record.extents?_encodeChannels hlengths rest
      simp only [Blob.ofLists] at hlayout ⊢
      rw [hlayout]
      exact Option.isSome_of_eq_some hextents
  | varint =>
      rw [hcase] at hlayout
      have hlength := Record.length_encodeChannels_varint hlengths
      simp only [Blob.ofLists] at hlayout ⊢
      rw [hlayout]
      simp only [List.length_append, hlength, decide_eq_true_eq]
      exact Nat.le_add_right _ _

/-- The records of every node lie inside of their pages. -/
theorem Sound.nodeProblem?_of_freeze (h : store.Sound founded contents) {lists : Lists}
    (hfreeze : store.freeze = .ok lists) (node : Nat) :
    (Blob.ofLists lists).nodeProblem? node = none := by
  have hdegree : (Blob.ofLists lists).directory.degree node = (contents node).targets.length :=
    (h.layout_of_freeze hfreeze node).1
  by_cases hzero : (contents node).targets = []
  · rw [Blob.nodeProblem?, hdegree, hzero, List.length_nil, if_pos rfl]
  · obtain ⟨address, rest, haddress, hbytes⟩ := h.record_of_freeze hfreeze hzero
    have hadjacency : (Blob.ofLists lists).adjacencyFits node = true := by
      have hextent := Record.extent?_encode (lists.layout node)
        (Gaps.gaps (contents node).targets) rest
      rw [EncodedNode.length_gaps, ← hdegree] at hextent
      exact (Blob.leadsTo_of_lookup haddress hbytes _).trans (Option.isSome_of_eq_some hextent)
    rw [Blob.nodeProblem?, hdegree, if_neg (by simpa using hzero), hadjacency]
    cases hproperties : lists.properties with
    | none =>
        have hnone : (Blob.ofLists lists).properties = none :=
          congrArg (Option.map Properties.arena) hproperties
        rw [hnone]
        rfl
    | some properties =>
        have hsome : (Blob.ofLists lists).properties = some properties.arena :=
          congrArg (Option.map Properties.arena) hproperties
        rw [hsome]
        exact if_pos (h.propertiesFit_of_freeze hfreeze hproperties hzero)

/-- Directories and arenas of a frozen store can be counted and measured in words. -/
theorem Sound.writable_of_freeze (h : store.Sound founded contents)
    (hbounded : store.current.Bounded) (hroom : 8 * store.nodeCount < allocationLimit)
    {lists : Lists} (hfreeze : store.freeze = .ok lists) : (Blob.ofLists lists).Writable := by
  have harena : ∀ (workers : Allocators) (arena : Arena), workers.Valid → workers.Bounded →
      workers.freeze.1 = .ok arena → Blob.ArenaWritable arena := by
    intro workers arena hvalid hshort harena
    refine ⟨?_, fun page hpage => (hshort.freeze harena hpage).trans_le
      allocationLimit_le_size⟩
    rw [(Allocators.freeze_size hvalid harena).1]
    exact workers.pool.nextId.toNat_lt.trans (by decide)
  have haligned := h.aligned
  simp only [Directory.isAligned, Bool.and_eq_true, decide_eq_true_eq] at haligned
  have hcount : store.directory.degrees.size < 256 ^ 8 := by
    have hlimit : allocationLimit ≤ 256 ^ 8 := allocationLimit_le_size
    simp only [Store.nodeCount, Directory.nodeCount] at hroom
    omega
  obtain ⟨adjacency, properties, hadjacency, hproperties, rfl⟩ := freeze_eq_ok_iff.mp hfreeze
  refine ⟨⟨hcount, haligned.1 ▸ hcount, haligned.2 ▸ hcount⟩,
    harena _ _ h.arenas.adjacency hbounded.1 hadjacency, ?_⟩
  intro arena hsome
  by_cases hzero : store.config.channelCount = 0
  · simp [Blob.ofLists, hzero] at hsome
  · obtain rfl : properties = arena := by simpa [Blob.ofLists, hzero] using hsome
    exact harena _ _ h.arenas.properties hbounded.2 hproperties

/-- The number of relationships is all that can be wrong with the blob of a frozen store. -/
theorem Sound.problem?_of_freeze (h : store.Sound founded contents) {lists : Lists}
    (hfreeze : store.freeze = .ok lists) :
    (Blob.ofLists lists).problem? =
      if lists.relationshipCount.toNat = lists.directory.relationshipCount then none
      else some (.relationshipsDisagree lists.relationshipCount.toNat
        lists.directory.relationshipCount) := by
  refine Blob.problem?_eq ?_ ?_ fun node => h.nodeProblem?_of_freeze hfreeze node
  · obtain ⟨adjacency, properties, -, -, rfl⟩ := freeze_eq_ok_iff.mp hfreeze
    by_cases hzero : store.config.channelCount = 0
    · simp [Blob.ofLists, hzero]
    · have hpos : store.config.channelCount > 0 :=
        UInt64.lt_of_le_of_ne UInt64.zero_le (Ne.symm hzero)
      simp [Blob.ofLists, hzero, hpos]
  · obtain ⟨adjacency, properties, -, -, rfl⟩ := freeze_eq_ok_iff.mp hfreeze
    exact h.aligned

/-- A frozen store is read back from its bytes exactly if its relationships were counted as its
directory counts them. -/
theorem Sound.ofBytes_of_freeze (h : store.Sound founded contents)
    (hbounded : store.current.Bounded) {lists : Lists} (hfreeze : store.freeze = .ok lists)
    (hroom : 8 * lists.nodeCount < allocationLimit) (rest : Bytes) :
    Lists.ofBytes (lists.toBytes ++ rest) =
      if lists.relationshipCount.toNat = lists.directory.relationshipCount then .ok lists
      else .error (.blob (.relationshipsDisagree lists.relationshipCount.toNat
        lists.directory.relationshipCount)) := by
  have hcount : lists.nodeCount = store.nodeCount := by
    obtain ⟨adjacency, properties, -, -, rfl⟩ := freeze_eq_ok_iff.mp hfreeze
    rfl
  have hwritable := h.writable_of_freeze hbounded (hcount ▸ hroom) hfreeze
  rw [Lists.ofBytes, Lists.toBytes, Blob.read_restores hwritable]
  dsimp only
  rw [h.problem?_of_freeze hfreeze]
  by_cases hcounts : lists.relationshipCount.toNat = lists.directory.relationshipCount
  · simp only [if_pos hcounts, Blob.toLists_ofLists]
  · simp only [if_neg hcounts]

/-- A store that compressed no node twice, and froze, is read back from its bytes. -/
theorem Started.ofBytes_of_freeze {nodeCount : Nat} (hstart : Started config nodeCount store)
    {actions : List StoreAction}
    (hsince : ∀ action ∈ actions, action.SinceReset store.compressors.length)
    (hopen : (store.run actions).2.current.FewOpen)
    (hnew : (compressedNodes (actions.zip (store.run actions).1)).Nodup) {lists : Lists}
    (hfreeze : (store.run actions).2.freeze = .ok lists) (rest : Bytes) :
    Lists.ofBytes (lists.toBytes ++ rest) = .ok lists := by
  have hpages := hstart.not_outOfPages_of_freeze hsince hopen hfreeze
  have hsound := hstart.run_sound hsince hpages
  have hcounted := hstart.run_counted hsince hpages
  rw [replaced_eq_zero hnew fun _ _ => rfl] at hcounted
  obtain ⟨hcount, hroom⟩ := hcounted.freeze hfreeze
  have hcounts : lists.relationshipCount.toNat = lists.directory.relationshipCount := by
    rw [hcount, Nat.add_zero, Nat.toUInt64, UInt64.toNat_ofNat',
      Nat.mod_eq_of_lt lists.directory.relationshipCount_lt]
  rw [hsound.ofBytes_of_freeze (hstart.run_bounded hsince) hfreeze hroom rest, if_pos hcounts]

end Store

/-- So is the result of a build. -/
theorem Build.ofBytes_of_result {config : Config} {source : Source} {build : Build}
    {events : List BuildEvent} {result : BuildResult}
    (hstart : Build.start config source = .ok build)
    (hresult : (build.run source events).result? = some (.ok result)) (rest : Bytes) :
    Lists.ofBytes (result.lists.toBytes ++ rest) = .ok result.lists := by
  have hfinished := Build.finished_of_result hresult
  have hmemory := Build.not_outOfMemory_of_finished hfinished
  obtain ⟨hcoherent, hcover, -⟩ := Build.coherent_of_start hstart
  obtain ⟨contents, hfinal⟩ := hcoherent.run hcover events hmemory
  obtain ⟨htallied, hnodes, -⟩ := Build.tallied_of_start hstart
  have heach := (htallied.run source events).finished_iff.mp hfinished
  rw [hnodes] at heach
  have hfreeze := (Build.freeze_of_result hresult).1
  obtain ⟨arena, arena', harena, harena', -⟩ := Store.freeze_eq_ok_iff.mp hfreeze
  have hadjacency := (Allocators.freeze_ok_iff hfinal.sound.arenas.adjacency).mp ⟨arena, harena⟩
  have hproperties := (Allocators.freeze_ok_iff hfinal.sound.arenas.properties).mp ⟨arena', harena'⟩
  have hopen : (build.run source events).store.current.FewOpen :=
    ⟨hadjacency.fewOpen, hproperties.fewOpen⟩
  -- from here on the build is one more history of a store, in which no node comes twice
  obtain ⟨first, hcreate, hnone, actions, hsince, hstore, hcompressed⟩ :=
    Build.run_history hstart hmemory
  rw [← hstore] at hopen hfreeze
  refine (Store.Started.created hcreate).ofBytes_of_freeze ?_ hopen ?_ hfreeze rest
  · rw [hnone]
    exact hsince
  · rw [hcompressed]
    exact heach.nodup_iff.mpr List.nodup_range

/-! ## Structures that were built -/

end CompactAdjacency
