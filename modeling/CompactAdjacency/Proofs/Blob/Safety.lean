import Mathlib
import CompactAdjacency.Proofs.Blob.Checking

/-!
# Accepted blobs are safe to read

A blob may come from anywhere. `Lists.ReadsSafely` collects what reading a structure may ask for: a
cursor that was positioned never ends in a fault, and a node has as many neighbors and values as its
degree says. `ofBytes_readsSafely` gives all of it for the structure of any byte string that is
accepted, and adds that this structure is no larger than the bytes it was read from, which bounds
every sum in `Lists.stats` and the blob that `Lists.toBytes` writes.
-/

namespace CompactAdjacency

/-- The channel that an operation moves to. -/
def ValueAction.channel? : ValueAction → Option Nat
  | .moveTo _ channel | .reuse _ channel => some channel
  | _ => none

/-! ## Answers of places -/

namespace Place

/-- A cursor at a place stays at one, and answers without a fault. -/
theorem neighborStep_some (contents : Nat → List UInt64) (place : Place UInt64)
    (action : NeighborAction) :
    ∃ moved, (neighborStep contents (some place) action).2 = some moved ∧
      ∀ fault, (neighborStep contents (some place) action).1 ≠ .error (.fault fault) := by
  cases action <;> exact ⟨_, rfl, by intro fault; simp [neighborStep]⟩

/-- A cursor at a place answers no operation with a fault. -/
theorem neighborRun_ne_fault (contents : Nat → List UInt64) (place : Place UInt64)
    (actions : List NeighborAction) (fault : Fault) :
    .error (.fault fault) ∉ neighborRun contents (some place) actions := by
  induction actions generalizing place with
  | nil => simp [neighborRun]
  | cons action rest ih =>
      obtain ⟨moved, hmoved, hanswer⟩ := neighborStep_some contents place action
      simp only [neighborRun, hmoved, List.mem_cons, not_or]
      exact ⟨fun heq => hanswer fault heq.symm, ih moved⟩

/-- A value cursor at a place stays at one and answers, unless it is moved to a channel that is not
stored. -/
theorem valueStep_some {channelCount : Nat} (contents : Nat → Nat → List Binary64)
    (place : Place Binary64) {action : ValueAction}
    (hchannel : ∀ channel, action.channel? = some channel → channel < channelCount) :
    ∃ moved, (valueStep channelCount contents (some place) action).2 = some moved ∧
      ∀ fault, (valueStep channelCount contents (some place) action).1 ≠ .error fault := by
  cases action with
  | moveTo node channel =>
      simp only [valueStep, if_neg (Nat.not_le.mpr (hchannel channel rfl))]
      exact ⟨_, rfl, by simp⟩
  | reuse node channel =>
      simp only [valueStep, if_neg (Nat.not_le.mpr (hchannel channel rfl))]
      exact ⟨_, rfl, by simp⟩
  | length => exact ⟨_, rfl, by simp [valueStep]⟩
  | remaining => exact ⟨_, rfl, by simp [valueStep]⟩
  | hasNext => exact ⟨_, rfl, by simp [valueStep]⟩
  | next => exact ⟨_, rfl, by simp [valueStep]⟩

/-- A value cursor at a place that is only moved to stored channels never ends in a fault. -/
theorem valueRun_ne_fault {channelCount : Nat} (contents : Nat → Nat → List Binary64)
    (place : Place Binary64) {actions : List ValueAction}
    (hchannels : ∀ action ∈ actions, ∀ channel, action.channel? = some channel →
      channel < channelCount) (fault : Fault) :
    .error fault ∉ valueRun channelCount contents (some place) actions := by
  induction actions generalizing place with
  | nil => simp [valueRun]
  | cons action rest ih =>
      obtain ⟨moved, hmoved, hanswer⟩ :=
        valueStep_some contents place (hchannels action (by simp))
      simp only [valueRun, hmoved, List.mem_cons, not_or]
      exact ⟨fun heq => hanswer fault heq.symm,
        ih moved fun other hother => hchannels other (by simp [hother])⟩

end Place

/-! ## Structures -/

/-- Whatever is read of a structure ends in an answer, and nodes have as many neighbors and values
as their degrees say. -/
structure Lists.ReadsSafely (lists : Lists) : Prop where
  /-- A neighbor cursor is a place in lists as long as the degrees. -/
  neighborCursor : ∃ contents : Nat → List UInt64,
    (∀ node, (contents node).length = lists.degree node) ∧
      ∀ actions, (NeighborCursor.raw.run lists actions).1 =
        Place.neighborRun contents none actions
  /-- Once it is positioned, a neighbor cursor never ends in a fault. -/
  neighborAnswers : ∀ node actions fault,
    .error (.fault fault) ∉ (NeighborCursor.raw.run lists (.moveTo node :: actions)).1
  /-- A node is drained to as many neighbors as its degree says. -/
  neighbors : ∀ node, ∃ targets,
    lists.neighbors node = .ok targets ∧ targets.length = lists.degree node
  /-- A value cursor is a place in lists as long as the degrees. -/
  valueCursor : ∀ properties, lists.properties = some properties →
    ∃ contents : Nat → Nat → List Binary64,
      (∀ node, ∀ channel < properties.channelCount.toNat,
        (contents node channel).length = lists.degree node) ∧
      ∀ actions, (ValueCursor.raw.run lists properties actions).1 =
        Place.valueRun properties.channelCount.toNat contents none actions
  /-- Once it is positioned, a value cursor that is moved to stored channels never ends in a
  fault. -/
  valueAnswers : ∀ properties, lists.properties = some properties →
    ∀ node channel actions, channel < properties.channelCount.toNat →
      (∀ action ∈ actions, ∀ channel, action.channel? = some channel →
        channel < properties.channelCount.toNat) →
      ∀ fault, .error fault ∉
        (ValueCursor.raw.run lists properties (.moveTo node channel :: actions)).1
  /-- A node is drained to as many values of each channel as its degree says. -/
  values : ∀ properties, lists.properties = some properties →
    ∀ node, ∀ channel < properties.channelCount.toNat, ∃ values,
      lists.values properties node channel = .ok values ∧ values.length = lists.degree node

/-- A structure that holds neighbors and values for every node is safe to read. -/
theorem Lists.readsSafely_of_holds {lists : Lists}
    (hneighbors : ∀ node, ∃ targets, lists.HoldsNeighbors node targets)
    (hvalues : ∀ properties, lists.properties = some properties → ∀ node,
      ∀ channel < properties.channelCount.toNat,
        ∃ values, lists.HoldsValues properties node channel values) :
    lists.ReadsSafely := by
  choose contents hcontents using hneighbors
  have hrun := fun actions => NeighborCursor.run_represents hcontents
    NeighborCursor.raw_represents actions
  refine ⟨⟨contents, fun node => (hcontents node).degree.symm, hrun⟩, ?_, ?_, ?_, ?_, ?_⟩
  · intro node actions fault
    rw [hrun]
    simp only [Place.neighborRun, Place.neighborStep, List.mem_cons, not_or]
    exact ⟨by simp, Place.neighborRun_ne_fault contents _ actions fault⟩
  · intro node
    exact ⟨contents node, (hcontents node).neighbors, (hcontents node).degree.symm⟩
  · intro properties hproperties
    choose! values hholds using hvalues properties hproperties
    exact ⟨values, fun node channel hchannel => (hholds node channel hchannel).degree.symm,
      fun actions => ValueCursor.run_represents hholds ValueCursor.raw_represents actions⟩
  · intro properties hproperties node channel actions hchannel hchannels fault
    choose! values hholds using hvalues properties hproperties
    rw [ValueCursor.run_represents hholds ValueCursor.raw_represents]
    simp only [Place.valueRun, Place.valueStep, if_neg (Nat.not_le.mpr hchannel), List.mem_cons,
      not_or]
    exact ⟨by simp, Place.valueRun_ne_fault values _ hchannels fault⟩
  · intro properties hproperties node channel hchannel
    obtain ⟨values, hholds⟩ := hvalues properties hproperties node channel hchannel
    exact ⟨values, hholds.values hchannel, hholds.degree.symm⟩

/-! ## Blobs -/

namespace Blob

/-- The pages of an arena are written behind each other, with a number before each. -/
theorem size_le_length_writeArena (arena : Arena) : arena.size ≤ (writeArena arena).length := by
  have hpages : arena.pages.flatten.length ≤
      (arena.pages.flatMap fun page => littleEndian 8 page.length ++ page).length := by
    induction arena.pages with
    | nil => simp
    | cons page pages ih =>
        simp only [List.flatten_cons, List.flatMap_cons, List.length_append]
        omega
  simp only [Arena.size, writeArena, writeList, List.length_append]
  omega

/-- A blob is as long as its arenas and its directory at least. -/
theorem size_le_length_write {blob : Blob} (haligned : blob.directory.isAligned = true) :
    blob.adjacency.size + (blob.properties.map Arena.size).getD 0 + blob.directory.byteSize ≤
      blob.write.length := by
  have hdirectory : blob.directory.byteSize ≤ (writeDirectory blob.directory).length := by
    simp only [Directory.isAligned, Bool.and_eq_true, decide_eq_true_eq] at haligned
    simp only [Directory.byteSize, Directory.entrySize, Directory.nodeCount, writeDirectory,
      writeList, List.length_append, List.length_flatMap, length_littleEndian, List.map_const',
      List.sum_replicate, Array.length_toList, haligned.1, haligned.2, smul_eq_mul]
    omega
  have hadjacency := size_le_length_writeArena blob.adjacency
  unfold write
  cases blob.properties with
  | none =>
      simp only [List.length_append, Option.map_none, Option.getD_none]
      omega
  | some arena =>
      have hproperties := size_le_length_writeArena arena
      simp only [List.length_append, Option.map_some, Option.getD_some]
      omega

/-- The structure of a blob without a problem declares the same blob. -/
theorem ofLists_toLists {blob : Blob} (h : blob.problem? = none) : ofLists blob.toLists = blob := by
  have hchannels := (declared_of_problem? h).1
  obtain ⟨rule, relationshipCount, channelCount, directory, adjacency, properties⟩ := blob
  cases properties with
  | none =>
      -- the structure forgets how many channels are declared, but without properties there are none
      have hzero : channelCount = 0 := by
        simpa using hchannels
      subst hzero
      rfl
  | some arena => rfl

end Blob

/-- The structure of an accepted byte string is safe to read. The bytes begin with its blob, and its
statistics sum up parts of them. -/
theorem ofBytes_readsSafely {bytes : Bytes} {lists : Lists} (h : Lists.ofBytes bytes = .ok lists) :
    lists.ReadsSafely ∧ lists.toBytes <+: bytes ∧
      lists.stats.adjacencyBytes + lists.stats.propertyBytes + lists.stats.directoryBytes ≤
        bytes.length := by
  unfold Lists.ofBytes at h
  cases hread : Blob.read bytes with
  | error cause => simp [hread] at h
  | ok result =>
      obtain ⟨blob, rest⟩ := result
      cases hproblem : blob.problem? with
      | some cause => simp [hread, hproblem] at h
      | none =>
          obtain rfl : blob.toLists = lists := by simpa [hread, hproblem] using h
          have hbytes := Blob.read_inverts _ _ _ hread
          have hsize := Blob.size_le_length_write (Blob.declared_of_problem? hproblem).2.1
          refine ⟨Lists.readsSafely_of_holds (Blob.exists_holdsNeighbors hproblem) ?_, ?_, ?_⟩
          · intro properties hproperties node channel hchannel
            obtain ⟨arena, harena, rfl⟩ := Option.map_eq_some_iff.mp hproperties
            exact Blob.exists_holdsValues hproblem harena node hchannel
          · rw [Lists.toBytes, Blob.ofLists_toLists hproblem, hbytes]
            exact List.prefix_append _ _
          · rw [hbytes, List.length_append]
            have hproperties : blob.toLists.stats.propertyBytes =
                (blob.properties.map Arena.size).getD 0 := by
              simp only [Lists.stats, Lists.propertyMemory, Blob.toLists]
              cases blob.properties with
              | none => rfl
              | some arena => rfl
            rw [hproperties]
            exact hsize.trans (Nat.le_add_right _ _)

/-- One node with 64 relationships to node 0, whose values are all zero: two blocks of width
zero. -/
def Lists.parallelZeros : Lists :=
  { rule := ⟨.packed, 0⟩
    relationshipCount := 64
    directory := ⟨#[64], #[.zero], #[.zero]⟩
    adjacency := ⟨[[0]]⟩
    properties := some ⟨⟨[[0]]⟩, 1⟩ }

/-- The blob of 64 parallel relationships is accepted, also with bytes after it. -/
theorem ofBytes_readsSafely_parallelZeros :
    Lists.ofBytes (Lists.parallelZeros.toBytes ++ [1, 2, 3]) = .ok Lists.parallelZeros ∧
      Lists.parallelZeros.ReadsSafely :=
  have h : Lists.ofBytes (Lists.parallelZeros.toBytes ++ [1, 2, 3]) = .ok Lists.parallelZeros := by
    decide +kernel
  ⟨h, (ofBytes_readsSafely h).1⟩

end CompactAdjacency
