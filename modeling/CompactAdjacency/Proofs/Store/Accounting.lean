import Mathlib
import CompactAdjacency.Proofs.Record.Lengths
import CompactAdjacency.Proofs.Storage.Places
import CompactAdjacency.Proofs.Build.Values
import CompactAdjacency.Proofs.Store.Counting

/-!
# The sizes of the arenas

A compression that succeeds answers the length of the neighbor record it wrote, which is known from
the gaps of its targets. However compressors take turns, and whatever pages their records come to,
the arenas of a store that froze hold the records of the compressions that succeeded and nothing
else: no byte is padded, lost, or written twice, `Store.freeze_accounts`. Only a compression that is
refused memory may leave a record behind that it does not answer for.
-/

namespace CompactAdjacency

/-! ## What answers account for -/

/-- Whether an answer tells of memory that was refused. -/
def StoreAnswer.isExhausted : StoreAnswer → Bool
  | .compressed (.error (.capacityExhausted _)) _ => true
  | _ => false

/-- The number of bytes that an answer says were written to the neighbor arena. -/
def StoreAnswer.written : StoreAnswer → Nat
  | .compressed (.ok length) _ => length
  | _ => 0

/-- The number of bytes of the property record of an action that was answered with success. -/
def StoreAction.propertiesWritten (rule : LayoutRule) : StoreAction → StoreAnswer → Nat
  | .compress _ _ _ _ channels degree, .compressed (.ok _) _ =>
      (Record.encodeChannels (rule.layout degree) degree channels).length
  | _, _ => 0

/-- A compression that succeeded answers the length of the record of its gaps, zero without
relationships, and the property record has the length that its values make up. -/
def StoreAction.Measured (rule : LayoutRule) : StoreAction → StoreAnswer → Prop
  | .compress _ _ _ targets channels degree, .compressed (.ok length) _ =>
      length = Record.recordLength (rule.layout degree) (Gaps.gaps (targets.take degree)) ∧
        (degree = 0 → length = 0) ∧
        (Record.encodeChannels (rule.layout degree) degree channels).length =
          Record.channelsLength (rule.layout degree) degree channels
  | _, _ => True

/-- Where no memory was refused the page numbers were not used up. -/
theorem StoreAnswer.not_outOfPages {answer : StoreAnswer} (h : answer.isExhausted = false)
    (config : Config) : ¬ answer.OutOfPages config := by
  cases answer with
  | compressed outcome gaps =>
      rintro rfl
      simp [isExhausted] at h
  | created number => exact id
  | closed => exact id
  | reset outcome => exact id

/-- An insertion that succeeds writes its records and nothing else. -/
theorem Generation.insert_written {generation after : Generation} {allocator : Nat}
    {adjacency : Bytes} {properties : Option Bytes} {addresses : Address × Address}
    (h : generation.insert allocator adjacency properties = (.ok addresses, after)) :
    after.adjacency.written = generation.adjacency.written + adjacency.length ∧
      after.properties.written = generation.properties.written + (properties.getD []).length := by
  have hadjacency := (Allocators.insert_inserts generation.adjacency allocator adjacency).written.1
  unfold insert at h
  rcases hinsert : generation.adjacency.insert allocator adjacency with ⟨outcome, arena⟩
  rw [hinsert] at h hadjacency
  cases outcome with
  | error failure => simp at h
  | ok address =>
      cases properties with
      | none =>
          obtain ⟨-, rfl⟩ := Prod.mk.inj h
          exact ⟨hadjacency _ rfl, rfl⟩
      | some record =>
          have hproperties :=
            (Allocators.insert_inserts generation.properties allocator record).written.1
          rcases hinsert' : generation.properties.insert allocator record with ⟨outcome', arena'⟩
          rw [hinsert'] at hproperties
          simp only [hinsert'] at h
          cases outcome' with
          | error failure => simp at h
          | ok property =>
              obtain ⟨-, rfl⟩ := Prod.mk.inj h
              exact ⟨hadjacency _ rfl, hproperties _ rfl⟩

namespace Store

variable {store : Store} {config : Config} {founded : Nat} {contents : Nat → Batch}

/-! ## One compression -/

/-- The records of an encoded node have the lengths that its gaps and its values make up, which are
zero without relationships. -/
theorem length_records {part : Partition} {node : Nat} {targets : List UInt64}
    {channels : List (List Binary64)} {degree : Nat} {encoded : EncodedNode}
    (h : EncodedNode.ofTargets config part node targets channels degree = .ok encoded) :
    encoded.adjacency.length =
        Record.recordLength (config.layoutRule.layout degree) (Gaps.gaps (targets.take degree)) ∧
      encoded.properties.length =
        Record.channelsLength (config.layoutRule.layout degree) degree channels ∧
      (degree = 0 → encoded.adjacency.length = 0 ∧ encoded.properties.length = 0) := by
  obtain ⟨haccept, -, rfl⟩ := EncodedNode.ofTargets_eq_ok_iff.mp h
  refine ⟨Record.length_encode _ _, Record.length_encodeChannels haccept.enoughValues _, ?_⟩
  rintro rfl
  rw [List.take_zero, Record.length_encode, Record.length_encodeChannels haccept.enoughValues]
  exact ⟨Record.recordLength_nil _, Record.channelsLength_zero _ _⟩

/-- A compression to which no memory is refused writes the records of its node if it succeeds, and
leaves the arenas as they are if it fails. -/
theorem compress_accounts (h : store.Sound founded contents) {number : Nat}
    (hnumber : founded ≤ number) {part : Partition} (hpart : part.stop ≤ store.nodeCount)
    {node : Nat} {targets : List UInt64} {channels : List (List Binary64)} {degree : Nat}
    {compression : Compression}
    (hcompression : store.compress number part node targets channels degree = compression)
    (hmemory : ∀ capacity, compression.outcome ≠ .error (.capacityExhausted capacity)) :
    (∃ encoded,
      EncodedNode.ofTargets store.config part node targets channels degree = .ok encoded ∧
      compression.outcome = .ok encoded.adjacency.length ∧
      compression.store.current.adjacency.written =
        store.current.adjacency.written + encoded.adjacency.length ∧
      compression.store.current.properties.written =
        store.current.properties.written + encoded.properties.length) ∨
    (∃ failure, compression.outcome = .error failure) ∧
      compression.store.current = store.current := by
  subst hcompression
  rcases store.compress_cases number part node targets channels degree with
    ⟨-, hcompress⟩ | ⟨compressor, hcompressor,
      ⟨failure, -, hcompress⟩ | ⟨encoded, after, hencoded, hafter, hcompress⟩⟩
  · rw [hcompress]
    exact .inr ⟨⟨_, rfl⟩, rfl⟩
  · rw [hcompress]
    exact .inr ⟨⟨_, rfl⟩, rfl⟩
  · obtain ⟨haccept, -⟩ := EncodedNode.ofTargets_eq_ok_iff.mp hencoded
    rw [hcompress] at hmemory
    rw [hcompress, hafter.current]
    refine .inl ⟨encoded, hencoded, ?_⟩
    obtain ⟨hlast, hallocators⟩ := h.fresh number compressor hcompressor hnumber
    rcases commit_cases h.aligned hlast haccept.inside hpart degree encoded with
      ⟨rfl, directory, hentered, hcommit⟩ | ⟨properties, hproperties, hwritten⟩
    · obtain ⟨hadjacency, hnone⟩ := (length_records hencoded).2.2 rfl
      rw [hcommit, hadjacency, hnone]
      exact ⟨rfl, rfl, rfl⟩
    · have hspec := Generation.insert_spec h.arenas
        (hallocators (store.config.layoutRule.layout degree)) encoded.adjacency properties
      rcases hwritten with ⟨failure, generation, hinsert, hcommit⟩ |
        ⟨adjacency, property, generation, directory, hinsert, hentered, hcommit⟩
      · -- an insertion fails for want of memory only
        rw [hcommit] at hmemory
        rw [hinsert] at hspec
        have hother : failure ≠ .capacityExhausted store.config.pageSize.toNat :=
          fun heq => hmemory _ (congrArg Except.error heq)
        obtain ⟨capacity, rfl⟩ := (hspec (by simpa using hother)).failure failure rfl
        exact absurd rfl (hmemory capacity)
      · rw [hcommit]
        obtain ⟨hfirst, hsecond⟩ := Generation.insert_written hinsert
        refine ⟨rfl, hfirst, hsecond.trans (congrArg (_ + ·) ?_)⟩
        rw [hproperties]
        split
        case isTrue hzero =>
          -- without channels there is nothing to write
          obtain ⟨-, -, rfl⟩ := EncodedNode.ofTargets_eq_ok_iff.mp hencoded
          have hnone := haccept.allChannels
          rw [hzero] at hnone
          rw [List.eq_nil_of_length_eq_zero hnone]
          rfl
        case isFalse hchannels => rfl

/-! ## Along a history -/

/-- The arenas of a store hold so many bytes of records, and no property records without property
channels. -/
structure Accounted (store : Store) (neighborBytes propertyBytes : Nat) : Prop where
  adjacency : store.current.adjacency.written = neighborBytes
  properties : store.current.properties.written = propertyBytes
  absent : store.config.channelCount = 0 → propertyBytes = 0

/-- The bytes of records depend on the current arenas alone. -/
theorem Accounted.of_written {after : Store} {neighborBytes propertyBytes : Nat}
    (h : store.Accounted neighborBytes propertyBytes) (hconfig : after.config = store.config)
    (hadjacency : after.current.adjacency.written = store.current.adjacency.written)
    (hproperties : after.current.properties.written = store.current.properties.written) :
    after.Accounted neighborBytes propertyBytes :=
  ⟨hadjacency.trans h.adjacency, hproperties.trans h.properties, fun hzero =>
    h.absent (hconfig ▸ hzero)⟩

/-- A compressor that is closed returns its pages with what was written to them. -/
theorem close_written (store : Store) (number : Nat) :
    (store.close number).current.adjacency.written = store.current.adjacency.written ∧
      (store.close number).current.properties.written = store.current.properties.written := by
  have hretire : ∀ (workers : Allocators) worker,
      (workers.retire worker).written = workers.written :=
    fun workers worker => ((Allocators.retire_pages workers worker).1.map _).sum_eq
  refine close_holds (Q := fun generation =>
    generation.adjacency.written = store.current.adjacency.written ∧
      generation.properties.written = store.current.properties.written) ?_ ⟨rfl, rfl⟩ number
  rintro generation allocator ⟨hadjacency, hproperties⟩
  exact ⟨(hretire _ _).trans hadjacency, (hretire _ _).trans hproperties⟩

/-- An action to which no memory is refused writes what its answer accounts for. -/
theorem Accounted.step {neighborBytes propertyBytes : Nat}
    (haccounted : store.Accounted neighborBytes propertyBytes) (h : store.Sound founded contents)
    {action : StoreAction} (hsince : action.SinceReset founded)
    (hmemory : (store.step action).1.isExhausted = false) :
    (store.step action).2.Accounted (neighborBytes + (store.step action).1.written)
        (propertyBytes + action.propertiesWritten store.config.layoutRule (store.step action).1) ∧
      action.Measured store.config.layoutRule (store.step action).1 := by
  cases action with
  | createCompressor =>
      have hjoin : ∀ workers : Allocators, workers.join.join.written = workers.written := by
        intro workers
        rw [Allocators.written, Allocators.pages_join, Allocators.pages_join, Allocators.written]
      exact ⟨haccounted.of_written rfl (hjoin _) (hjoin _), trivial⟩
  | reset nodeCount => exact hsince.elim
  | close number =>
      obtain ⟨hadjacency, hproperties⟩ := close_written store number
      exact ⟨haccounted.of_written (close_shape store number).1 hadjacency hproperties, trivial⟩
  | compress number choice node targets channels degree =>
      have hconfig := (h.dated.step (.compress number choice node targets channels degree)).config
      cases hpart : store.directory.part choice with
      | error fault =>
          simp only [Store.step, hpart]
          exact ⟨haccounted, trivial⟩
      | ok part =>
          simp only [Store.step, hpart] at hmemory hconfig ⊢
          have hroom : ∀ capacity, (store.compress number part node targets channels
              degree).outcome ≠ .error (.capacityExhausted capacity) := by
            intro capacity hcapacity
            simp [StoreAnswer.isExhausted, hcapacity] at hmemory
          rcases compress_accounts h hsince (Directory.stop_le_of_part hpart) rfl hroom with
            ⟨encoded, hencoded, houtcome, hadjacency, hproperties⟩ | ⟨⟨failure, houtcome⟩, hcurrent⟩
          · obtain ⟨hfirst, hsecond, hzero⟩ := length_records hencoded
            obtain ⟨haccept, -, hrecords⟩ := EncodedNode.ofTargets_eq_ok_iff.mp hencoded
            have hrecord := congrArg EncodedNode.properties hrecords
            dsimp only at hrecord
            rw [houtcome, StoreAnswer.written, StoreAction.propertiesWritten, ← hrecord]
            refine ⟨⟨?_, ?_, ?_⟩, hfirst, fun hdegree => (hzero hdegree).1, ?_⟩
            · rw [hadjacency, haccounted.adjacency]
            · rw [hproperties, haccounted.properties]
            · intro hnone
              rw [hconfig] at hnone
              have hchannels := haccept.allChannels
              rw [hnone] at hchannels
              rw [haccounted.absent hnone, hrecord, List.eq_nil_of_length_eq_zero hchannels]
              rfl
            · exact hrecord ▸ hsecond
          · rw [houtcome]
            exact ⟨haccounted.of_written hconfig (by rw [hcurrent]) (by rw [hcurrent]), trivial⟩

/-- A history in which no memory is refused writes what its answers account for. -/
theorem run_accounted {neighborBytes propertyBytes : Nat} (h : store.Sound founded contents)
    (haccounted : store.Accounted neighborBytes propertyBytes) {actions : List StoreAction}
    (hsince : ∀ action ∈ actions, action.SinceReset founded)
    (hmemory : ∀ answer ∈ (store.run actions).1, answer.isExhausted = false) :
    (store.run actions).2.Accounted
        (neighborBytes + ((store.run actions).1.map StoreAnswer.written).sum)
        (propertyBytes + ((actions.zip (store.run actions).1).map fun entry =>
          entry.1.propertiesWritten store.config.layoutRule entry.2).sum) ∧
      ∀ entry ∈ actions.zip (store.run actions).1,
        entry.1.Measured store.config.layoutRule entry.2 := by
  induction actions generalizing store contents neighborBytes propertyBytes with
  | nil => exact ⟨haccounted, by simp [run]⟩
  | cons action rest ih =>
      rw [run_cons] at hmemory ⊢
      have hfirst := hsince action (by simp)
      have hanswer := hmemory _ List.mem_cons_self
      obtain ⟨hstep, hmeasured⟩ := haccounted.step h hfirst hanswer
      have hconfig : (store.step action).2.config = store.config := (h.dated.step action).config
      obtain ⟨hrun, hothers⟩ :=
        ih (step_sound h hfirst (StoreAnswer.not_outOfPages hanswer store.config)) hstep
          (fun other hother => hsince other (List.mem_cons_of_mem _ hother))
          (fun other hother => hmemory other (List.mem_cons_of_mem _ hother))
      rw [hconfig] at hrun hothers
      rw [List.zip_cons_cons, List.map_cons, List.sum_cons, List.map_cons, List.sum_cons,
        ← Nat.add_assoc, ← Nat.add_assoc, List.forall_mem_cons]
      exact ⟨hrun, hmeasured, hothers⟩

/-- After any history of a started store in which no memory was refused, the arenas of the lists it
froze to are as large as its answers account for, whatever the size of pages, the number of
compressors and the order of their calls: the neighbor records add up to the answers, and the
property records to their lengths. Every answer is the exact length of the record of the gaps. -/
theorem freeze_accounts {nodeCount : Nat} (hstart : Started config nodeCount store)
    {actions : List StoreAction}
    (hsince : ∀ action ∈ actions, action.SinceReset store.compressors.length)
    (hmemory : ∀ answer ∈ (store.run actions).1, answer.isExhausted = false) {lists : Lists}
    (hfreeze : (store.run actions).2.freeze = .ok lists) :
    lists.adjacency.size = ((store.run actions).1.map StoreAnswer.written).sum ∧
      lists.propertyMemory = ((actions.zip (store.run actions).1).map fun entry =>
        entry.1.propertiesWritten config.layoutRule entry.2).sum ∧
      ∀ entry ∈ actions.zip (store.run actions).1,
        entry.1.Measured config.layoutRule entry.2 := by
  have hfirst : store.Accounted 0 0 := by
    have hcurrent := hstart.current
    exact ⟨by rw [hcurrent]; rfl, by rw [hcurrent]; rfl, fun _ => rfl⟩
  have hfinal := hstart.run_sound hsince fun answer hanswer =>
    StoreAnswer.not_outOfPages (hmemory answer hanswer) config
  obtain ⟨rfl, -, hsound⟩ := hstart.sound
  obtain ⟨⟨hadjacency, hproperties, habsent⟩, hmeasured⟩ :=
    run_accounted hsound hfirst hsince hmemory
  rw [Nat.zero_add] at hadjacency hproperties habsent
  obtain ⟨adjacency, properties, harena, harena', rfl⟩ := freeze_eq_ok_iff.mp hfreeze
  refine ⟨(Allocators.freeze_size hfinal.arenas.adjacency harena).2.trans hadjacency, ?_, hmeasured⟩
  unfold Lists.propertyMemory
  by_cases hzero : (store.run actions).2.config.channelCount = 0
  · rw [habsent hzero]
    simp only [if_pos hzero]
  · simp only [if_neg hzero]
    exact (Allocators.freeze_size hfinal.arenas.properties harena').2.trans hproperties

/-- A block and a tail of two bits each take 18 bytes and two varints 11, and their values take 524
bytes where they are packed and 32 where they are not. -/
theorem freeze_accounts_mixedNodes :
    ∃ lists, (mixedNodes.run compressMixed).2.freeze = .ok lists ∧
      lists.adjacency.size = 18 + 11 ∧ lists.propertyMemory = 524 + 32 := by
  obtain ⟨lists, hfreeze⟩ := compressMixed_freezes
  have hanswers : (∀ answer ∈ (mixedNodes.run compressMixed).1, answer.isExhausted = false) ∧
      ((mixedNodes.run compressMixed).1.map StoreAnswer.written).sum = 18 + 11 ∧
      ((compressMixed.zip (mixedNodes.run compressMixed).1).map fun entry =>
        entry.1.propertiesWritten mixedNodes.config.layoutRule entry.2).sum = 524 + 32 := by
    decide +kernel
  obtain ⟨hmemory, hneighbors, hvalues⟩ := hanswers
  obtain ⟨hadjacency, hproperties, -⟩ :=
    freeze_accounts mixedNodes_started (by decide) hmemory hfreeze
  exact ⟨lists, hfreeze, hadjacency.trans hneighbors, hproperties.trans hvalues⟩

end Store

end CompactAdjacency
