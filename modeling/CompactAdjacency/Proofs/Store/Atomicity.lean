import Mathlib
import CompactAdjacency.Proofs.Store.Arenas
import CompactAdjacency.Proofs.Store.Refusals

/-!
# A compression happens or it does not

What a compression is refused for is found before anything is written: `Failure.Refuses` lists these
failures, and after one of them the targets and the whole store are as they were. The last of the
checks is the order of the targets, whose failure names the first target that is smaller than the
one before it. A compression that succeeds writes the gaps over the targets it was given, enters its
node into the directory and no other one, and counts its relationships. `compress_atomic` says both,
for every strategy and for compressors of any generation. The store may hold anything, as long as
the three columns of its directory are equally long: they are created so
(`Directory.ofNodeCount_spec`) and no entry changes their lengths (`Directory.set_spec`).
-/

namespace CompactAdjacency

/-- Failures that refuse what is to be compressed. -/
def Failure.Refuses : Failure → Prop
  | .nodeOutOfPartition _ _ _ | .degreeMismatch _ _ _ | .channelCount _ _ | .channelLength _ _ _ _
  | .unsortedTargets _ _ => True
  | _ => False

theorem Failure.Refuses.not_ofStorage {failure : Failure} (h : failure.Refuses) :
    ¬ failure.OfStorage := by
  cases failure <;> simp_all [Refuses, OfStorage]

namespace EncodedNode

variable {config : Config} {part : Partition} {node : Nat} {targets : List UInt64}
  {channels : List (List Binary64)} {degree : Nat}

/-- The order of the targets is none of the things that are checked before it. -/
theorem check_ne_unsortedTargets {channelCount : Nat} (named position : Nat) :
    check channelCount part node targets channels degree ≠
      .error (.unsortedTargets named position) := by
  intro h
  rcases bind_eq_error_iff.mp h with hlocate | ⟨index, -, h⟩
  · unfold Partition.locate at hlocate
    split at hlocate <;> simp at hlocate
  · split at h
    case isTrue hdegree => simp at h
    case isFalse hdegree =>
      split at h
      case isTrue hchannels => simp at h
      case isFalse hchannels => split at h <;> simp at h

/-- Targets are refused for their order exactly if everything else can be encoded, and the position
named is that of the first one smaller than the one before it. -/
theorem ofTargets_unsortedTargets_iff {named position : Nat} :
    ofTargets config part node targets channels degree =
        .error (.unsortedTargets named position) ↔
      named = node ∧ Acceptable config.channelCount.toNat part node targets channels degree ∧
        Gaps.firstDescent (targets.take degree) = some position := by
  have hcheck : check config.channelCount.toNat part node targets channels degree ≠
      .error (.unsortedTargets named position) := check_ne_unsortedTargets named position
  simp only [ofTargets, bind_eq_error_iff, hcheck, false_or]
  constructor
  · rintro ⟨⟨⟩, haccept, hgaps | ⟨gaps, -, hpure⟩⟩
    · unfold Gaps.encode at hgaps
      split at hgaps
      case h_1 found hfound =>
        obtain ⟨rfl, rfl⟩ := Failure.unsortedTargets.inj (Except.error.inj hgaps)
        exact ⟨rfl, check_eq_ok_iff.mp haccept, hfound⟩
      case h_2 hascent => simp at hgaps
    · simp [pure, Except.pure] at hpure
  · rintro ⟨rfl, haccept, hfound⟩
    exact ⟨(), check_eq_ok_iff.mpr haccept, .inl (by simp only [Gaps.encode, hfound])⟩

end EncodedNode

namespace Store

variable {store : Store} {part : Partition} {node degree : Nat}

/-- A node that is written successfully is entered with its degree, and its relationships are
counted in the generation of the compressor. -/
theorem commit_ok (haligned : store.directory.isAligned = true) {compressor : Compressor}
    (hinside : part.start ≤ node ∧ node < part.stop) (hpart : part.stop ≤ store.nodeCount)
    {encoded : EncodedNode} {length : Nat}
    (h : (store.commit compressor part node degree encoded).1 = .ok length) :
    (∃ entry, store.directory.Entered (store.commit compressor part node degree encoded).2.directory
        node entry ∧ entry.degree = degree.toUInt32) ∧
      ((store.commit compressor part node degree encoded).2.generation?
          compressor.generation).map Generation.relationships =
        (store.generation? compressor.generation).map
          (·.relationships + degree.toUInt64) := by
  rcases commit_inversion haligned compressor hinside hpart degree encoded with
    ⟨rfl, directory, hentered, hcommit⟩ | ⟨-, hcommit⟩ |
      ⟨generation, properties, hfound, -, ⟨failure, later, -, hcommit⟩ |
        ⟨adjacency, property, later, directory, hinsert, hentered, hcommit⟩⟩
  · rw [hcommit]
    refine ⟨⟨_, hentered, rfl⟩, ?_⟩
    have hsame : (fun generation : Generation =>
        generation.relationships + Nat.toUInt64 0) = Generation.relationships :=
      funext fun generation => UInt64.add_zero _
    rw [hsame]
    rfl
  · simp [hcommit] at h
  · simp [hcommit] at h
  · have hcounter := (generation.insert_arenas
      (compressor.allocatorOf (store.config.layoutRule.layout degree)) encoded.adjacency
      properties).2.2
    rw [hinsert] at hcounter
    rw [hcommit]
    refine ⟨⟨⟨degree.toUInt32, adjacency, property⟩, ?_, rfl⟩, ?_⟩
    · rw [setGeneration_directory]
      exact hentered
    · have hfound' : ({ store with directory := directory } : Store).generation?
          compressor.generation = some generation := hfound
      rw [generation?_setGeneration hfound', hfound, Option.map_some, Option.map_some, hcounter]

/-- A compression that is refused leaves the targets, the directory, the arenas and the counters as
they were. It is refused for the order of the targets exactly if nothing else is wrong and they do
not ascend, and then the position named is that of the first target smaller than the one before it.
A compression that succeeds leaves the gaps in place of the first targets and the others as they
were, enters its node into the directory and no other one, and counts its relationships. -/
theorem compress_atomic (haligned : store.directory.isAligned = true) {number : Nat}
    {compressor : Compressor} (hcompressor : store.compressor? number = some compressor)
    {choice : PartitionChoice} (hpart : store.directory.part choice = .ok part)
    (targets : List UInt64) (channels : List (List Binary64)) {compression : Compression}
    (hcompression : store.compress number part node targets channels degree = compression) :
    (∀ failure, compression.outcome = .error failure → failure.Refuses →
      compression.targets = targets ∧ compression.store = store) ∧
    ((∃ named position, compression.outcome = .error (.unsortedTargets named position)) ↔
      EncodedNode.Acceptable store.config.channelCount.toNat part node targets channels degree ∧
        ¬ (targets.take degree).Pairwise (· ≤ ·)) ∧
    (∀ named position, compression.outcome = .error (.unsortedTargets named position) →
      named = node ∧ ∃ index, position = index + 1 ∧
        Gaps.Descends (targets.take degree) index ∧
        ∀ earlier < index, ¬ Gaps.Descends (targets.take degree) earlier) ∧
    ∀ length, compression.outcome = .ok length →
      compression.targets.take degree = Gaps.gaps (targets.take degree) ∧
      compression.targets.drop degree = targets.drop degree ∧
      (∃ entry, store.directory.Entered compression.store.directory node entry ∧
        entry.degree.toNat = degree) ∧
      (compression.store.generation? compressor.generation).map Generation.relationships =
        (store.generation? compressor.generation).map (·.relationships + degree.toUInt64) := by
  have hrefused : ∀ {failure}, compression.outcome = .error failure → failure.Refuses →
      EncodedNode.ofTargets store.config part node targets channels degree = .error failure ∧
        compression = ⟨.error failure, targets, store⟩ := by
    intro failure houtcome hrefuses
    subst hcompression
    exact compress_refused houtcome hrefuses.not_ofStorage
  have hunsorted : ∀ named position,
      compression.outcome = .error (.unsortedTargets named position) ↔
        EncodedNode.ofTargets store.config part node targets channels degree =
          .error (.unsortedTargets named position) := by
    intro named position
    refine ⟨fun houtcome => (hrefused houtcome trivial).1, fun hencoded => ?_⟩
    rw [← hcompression, compress_of_refused hcompressor hencoded]
  refine ⟨?_, ?_, ?_, ?_⟩
  · intro failure houtcome hrefuses
    obtain ⟨-, hsame⟩ := hrefused houtcome hrefuses
    rw [hsame]
    exact ⟨rfl, rfl⟩
  · simp only [hunsorted, EncodedNode.ofTargets_unsortedTargets_iff]
    have hascends : (targets.take degree).Pairwise (· ≤ ·) ↔
        Gaps.firstDescent (targets.take degree) = none := Gaps.descentFrom_eq_none_iff.symm
    rw [hascends, ← ne_eq, Option.ne_none_iff_exists']
    constructor
    · rintro ⟨named, position, rfl, haccept, hfound⟩
      exact ⟨haccept, position, hfound⟩
    · rintro ⟨haccept, position, hfound⟩
      exact ⟨node, position, rfl, haccept, hfound⟩
  · intro named position houtcome
    rw [hunsorted, EncodedNode.ofTargets_unsortedTargets_iff] at houtcome
    obtain ⟨hnamed, -, hfound⟩ := houtcome
    obtain ⟨index, hposition, hindex⟩ := Gaps.descentFrom_eq_some_iff.mp hfound
    exact ⟨hnamed, index, by omega, hindex⟩
  · intro length houtcome
    rw [← hcompression] at houtcome
    obtain ⟨writer, encoded, after, hwriter, hencoded, hafter, hcompress⟩ :=
      exists_encoded_of_compress houtcome
    obtain rfl := Option.some.inj (hcompressor.symm.trans hwriter)
    obtain ⟨haccept, -, hgaps⟩ := EncodedNode.ofTargets_eq_ok_iff.mp hencoded
    rw [hcompress] at houtcome hcompression
    obtain ⟨⟨entry, hentered, hdegree⟩, hcounter⟩ := commit_ok haligned haccept.inside
      (Directory.stop_le_of_part hpart) houtcome
    have hlength : (Gaps.gaps (targets.take degree)).length = degree := by
      rw [EncodedNode.length_gaps, List.length_take_of_le haccept.enoughTargets]
    subst hcompression hgaps
    refine ⟨List.take_left' hlength, List.drop_left' hlength, ⟨entry, ?_, ?_⟩, ?_⟩
    · rw [hafter.directory]
      exact hentered
    · rw [hdegree, Nat.toUInt32, UInt32.toNat_ofNat', Nat.mod_eq_of_lt haccept.countable]
    · rw [hafter.generation?]
      exact hcounter

/-- Two of three targets ascend and are compressed. All three are refused, at the last of them. -/
theorem compress_atomic_twoNodes :
    (∃ compression, twoNodes.createCompressor.compress 0 ⟨0, 2⟩ 1 [3, 5, 4] [[⟨1⟩, ⟨2⟩, ⟨3⟩]] 2 =
        compression ∧
      compression.outcome = .ok 2 ∧ compression.targets.take 2 = [3, 2] ∧
      compression.targets.drop 2 = [4] ∧
      (∃ entry, twoNodes.directory.Entered compression.store.directory 1 entry ∧
        entry.degree.toNat = 2) ∧
      (compression.store.generation? 0).map Generation.relationships = some 2) ∧
    ∃ compression, twoNodes.createCompressor.compress 0 ⟨0, 2⟩ 1 [3, 5, 4] [[⟨1⟩, ⟨2⟩, ⟨3⟩]] 3 =
        compression ∧
      compression.outcome = .error (.unsortedTargets 1 2) ∧ compression.targets = [3, 5, 4] ∧
      compression.store = twoNodes.createCompressor := by
  have haligned : twoNodes.createCompressor.directory.isAligned = true := rfl
  have hcompressor : twoNodes.createCompressor.compressor? 0 = some ⟨0, 0⟩ := rfl
  have hpart : twoNodes.createCompressor.directory.part .whole = .ok ⟨0, 2⟩ := rfl
  obtain ⟨-, -, -, hok⟩ := compress_atomic haligned hcompressor hpart [3, 5, 4] [[⟨1⟩, ⟨2⟩, ⟨3⟩]]
    (show twoNodes.createCompressor.compress 0 ⟨0, 2⟩ 1 _ _ 2 = _ from rfl)
  obtain ⟨hrefused, -⟩ := compress_atomic haligned hcompressor hpart [3, 5, 4] [[⟨1⟩, ⟨2⟩, ⟨3⟩]]
    (show twoNodes.createCompressor.compress 0 ⟨0, 2⟩ 1 _ _ 3 = _ from rfl)
  have hwritten : (twoNodes.createCompressor.compress 0 ⟨0, 2⟩ 1 [3, 5, 4]
      [[⟨1⟩, ⟨2⟩, ⟨3⟩]] 2).outcome = .ok 2 := by
    decide +kernel
  have hunsorted : (twoNodes.createCompressor.compress 0 ⟨0, 2⟩ 1 [3, 5, 4]
      [[⟨1⟩, ⟨2⟩, ⟨3⟩]] 3).outcome = .error (.unsortedTargets 1 2) := by
    decide +kernel
  obtain ⟨htargets, hothers, hentered, hcounter⟩ := hok 2 hwritten
  exact ⟨⟨_, rfl, hwritten, htargets, hothers, hentered, hcounter⟩,
    _, rfl, hunsorted, hrefused _ hunsorted trivial⟩

end Store

end CompactAdjacency
