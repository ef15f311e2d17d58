import Mathlib
import CompactAdjacency.Proofs.Batch.Reference
import CompactAdjacency.Proofs.Storage.Pages
import CompactAdjacency.Proofs.Store.Buffers

/-!
# Why a compression fails

Once the check before it has passed, a compression fails only for want of memory or of a compressor,
`Failure.OfStorage`, in whatever state the store is. Any other failure is one of that check, and
then neither the targets nor the store are changed, `compress_refused`. Some of these failures are
mistakes of whoever drives a store, `Failure.Internal`: targets that were not sorted, a degree that
was not counted, a node of another partition, a page that was not returned. A batch that ascends and
has one value per target in every channel passes the check unless it has a wrong number of channels.
-/

namespace CompactAdjacency

/-- Failures of the storage itself: there is no memory, or nothing where something is looked up. -/
def Failure.OfStorage : Failure → Prop
  | .capacityExhausted _ | .fault _ => True
  | _ => False

/-- Failures that only a mistake of whoever drives a store brings about. -/
def Failure.Internal : Failure → Prop
  | .unsortedTargets _ _ | .degreeMismatch _ _ _ | .nodeOutOfPartition _ _ _ | .unsealedPage _ =>
      True
  | _ => False

variable {failure : Failure}

theorem Failure.OfStorage.not_internal (h : failure.OfStorage) : ¬ failure.Internal := by
  cases failure <;> simp_all [OfStorage, Internal]

/-! ## Writing -/

/-- An allocator may be missing or find no memory. -/
theorem Allocators.insert_ofStorage {workers : Allocators} {worker : Nat} {record : Bytes}
    (h : (workers.insert worker record).1 = .error failure) : failure.OfStorage := by
  by_cases hworker : worker < workers.current.length
  · obtain ⟨capacity, rfl⟩ := insert_error hworker record failure h
    trivial
  · simp only [insert, List.getElem?_eq_none (Nat.not_lt.mp hworker), Except.error.injEq] at h
    subst h
    trivial

theorem Generation.insert_ofStorage {generation : Generation} {allocator : Nat}
    {adjacency : Bytes} {properties : Option Bytes}
    (h : (generation.insert allocator adjacency properties).1 = .error failure) :
    failure.OfStorage := by
  unfold insert at h
  split at h
  case h_1 failure' arena hinsert =>
    obtain rfl := Except.error.inj h
    exact Allocators.insert_ofStorage (congrArg Prod.fst hinsert)
  case h_2 address arena hinsert =>
    dsimp only at h
    split at h
    case h_1 => simp at h
    case h_2 record =>
      split at h
      case h_1 failure' arena' hinsert' =>
        obtain rfl := Except.error.inj h
        exact Allocators.insert_ofStorage (congrArg Prod.fst hinsert')
      case h_2 => simp at h

/-- Entering a node of the partition may find a column too short. -/
theorem Directory.set_ofStorage {directory : Directory} {part : Partition} {node : Nat}
    {entry : DirectoryEntry} (hinside : part.start ≤ node ∧ node < part.stop)
    (h : (directory.set part node entry).1 = .error failure) : failure.OfStorage := by
  have hlocate : part.locate node = .ok (node - part.start) :=
    Partition.locate_eq_ok_iff.mpr ⟨hinside, rfl⟩
  simp only [set, hlocate] at h
  split at h
  case isTrue hadjacency =>
    obtain rfl := Except.error.inj h
    trivial
  case isFalse hadjacency =>
    split at h
    case isTrue hproperties =>
      obtain rfl := Except.error.inj h
      trivial
    case isFalse hproperties => simp at h

namespace Store

variable {store : Store} {part : Partition} {node degree : Nat}

theorem enter_ofStorage {entry : DirectoryEntry}
    (hinside : part.start ≤ node ∧ node < part.stop)
    (h : (store.enter part node entry).1 = .error failure) : failure.OfStorage :=
  Directory.set_ofStorage hinside h

/-- Writing a node of the partition. -/
theorem commit_ofStorage {compressor : Compressor} {encoded : EncodedNode}
    (hinside : part.start ≤ node ∧ node < part.stop)
    (h : (store.commit compressor part node degree encoded).1 = .error failure) :
    failure.OfStorage := by
  unfold commit at h
  split at h
  case isTrue hzero =>
    split at h
    case h_1 failure' after henter =>
      obtain rfl := Except.error.inj h
      exact enter_ofStorage hinside (congrArg Prod.fst henter)
    case h_2 after henter => simp at h
  case isFalse hpos =>
    dsimp only at h
    split at h
    case h_1 hmissing =>
      obtain rfl := Except.error.inj h
      trivial
    case h_2 generation hfound =>
      split at h
      case h_1 failure' generation' hinsert =>
        obtain rfl := Except.error.inj h
        exact Generation.insert_ofStorage (congrArg Prod.fst hinsert)
      case h_2 adjacency property generation' hinsert =>
        split at h
        case h_1 failure' after henter =>
          obtain rfl := Except.error.inj h
          exact enter_ofStorage hinside (congrArg Prod.fst henter)
        case h_2 after henter => simp at h

/-- A failure that is none of the storage was found before anything was written, so that neither
the targets nor the store were changed. -/
theorem compress_refused {number : Nat} {targets : List UInt64} {channels : List (List Binary64)}
    (h : (store.compress number part node targets channels degree).outcome = .error failure)
    (hfailure : ¬ failure.OfStorage) :
    EncodedNode.ofTargets store.config part node targets channels degree = .error failure ∧
      store.compress number part node targets channels degree =
        ⟨.error failure, targets, store⟩ := by
  rcases store.compress_cases number part node targets channels degree with
    ⟨-, hcompress⟩ | ⟨compressor, -,
      ⟨failure', hrefused, hcompress⟩ | ⟨encoded, after, hencoded, -, hcompress⟩⟩
  · rw [hcompress] at h
    obtain rfl := Except.error.inj h
    exact absurd trivial hfailure
  · rw [hcompress] at h
    obtain rfl := Except.error.inj h
    exact ⟨hrefused, hcompress⟩
  · rw [hcompress] at h
    obtain ⟨haccept, -⟩ := EncodedNode.ofTargets_eq_ok_iff.mp hencoded
    exact absurd (commit_ofStorage haccept.inside h) hfailure

/-- A mistake that a compression reports is one that was found before anything was written. -/
theorem compress_internal {number : Nat} {targets : List UInt64} {channels : List (List Binary64)}
    (h : (store.compress number part node targets channels degree).outcome = .error failure)
    (hinternal : failure.Internal) :
    EncodedNode.ofTargets store.config part node targets channels degree = .error failure :=
  (compress_refused h fun hstorage => hstorage.not_internal hinternal).1

/-- A store is not created if its configuration cannot be followed or for want of memory. -/
theorem create_not_internal {config : Config} {nodeCount : Nat}
    (h : create config nodeCount = .error failure) : ¬ failure.Internal := by
  rcases bind_eq_error_iff.mp h with hcheck | ⟨-, -, h⟩
  · unfold Config.check at hcheck
    split at hcheck
    case h_1 cause hcause =>
      obtain rfl := Except.error.inj hcheck
      exact id
    case h_2 hfits => simp at hcheck
  rcases bind_eq_error_iff.mp h with hdirectory | ⟨directory, -, h⟩
  · unfold Directory.ofNodeCount at hdirectory
    split at hdirectory
    case isTrue hlarge =>
      obtain rfl := Except.error.inj hdirectory
      exact id
    case isFalse hsmall =>
      split at hdirectory
      case isTrue hlarge =>
        obtain rfl := Except.error.inj hdirectory
        exact id
      case isFalse hsmall' => simp at hdirectory
  · simp [pure, Except.pure] at h

end Store

/-! ## Encoding -/

/-- A batch that is ready to be encoded, apart from the number of its channels: its targets ascend
and can be counted, and every channel has one value for each. -/
structure Batch.Ready (batch : Batch) : Prop where
  ascending : batch.targets.Pairwise (· ≤ ·)
  countable : batch.targets.length < UInt32.size
  rectangular : batch.Rectangular

namespace EncodedNode

variable {part : Partition} {node : Nat} {batch : Batch}

/-- With as many channels as the store has, such a batch is encoded. -/
theorem exists_ofTargets_of_ready (config : Config) (h : batch.Ready)
    (hinside : part.start ≤ node ∧ node < part.stop)
    (hchannels : batch.channels.length = config.channelCount.toNat) :
    ∃ encoded, ofTargets config part node batch.targets batch.channels batch.targets.length =
      .ok encoded := by
  refine ⟨_, ofTargets_eq_ok_iff.mpr ⟨?_, ?_, rfl⟩⟩
  · exact ⟨hinside, Nat.le_refl _, h.countable, hchannels,
      fun values hvalues => (h.rectangular values hvalues).ge⟩
  · rw [List.take_length]
    exact Gaps.descentFrom_eq_none_iff.mpr h.ascending

/-- With another number of channels it is refused for it. -/
theorem ofTargets_error_of_ready (config : Config) (h : batch.Ready)
    (hinside : part.start ≤ node ∧ node < part.stop)
    (hchannels : batch.channels.length ≠ config.channelCount.toNat) :
    ofTargets config part node batch.targets batch.channels batch.targets.length =
      .error (.channelCount config.channelCount.toNat batch.channels.length) := by
  have hlocate : part.locate node = .ok (node - part.start) :=
    Partition.locate_eq_ok_iff.mpr ⟨hinside, rfl⟩
  have hdegree : ¬ (batch.targets.length > batch.targets.length ∨
      batch.targets.length ≥ UInt32.size) := by
    rw [not_or, not_lt, ge_iff_le, not_le]
    exact ⟨Nat.le_refl _, h.countable⟩
  simp only [ofTargets, check, hlocate, bind, Except.bind, if_neg hdegree, if_pos hchannels]

/-- So no mistake is found in such a batch. -/
theorem not_internal_of_ready {config : Config} (h : batch.Ready)
    (hinside : part.start ≤ node ∧ node < part.stop) {failure : Failure}
    (hrefused : ofTargets config part node batch.targets batch.channels batch.targets.length =
      .error failure) : ¬ failure.Internal := by
  by_cases hchannels : batch.channels.length = config.channelCount.toNat
  · obtain ⟨encoded, hencoded⟩ := exists_ofTargets_of_ready config h hinside hchannels
    simp [hencoded] at hrefused
  · rw [ofTargets_error_of_ready config h hinside hchannels] at hrefused
    obtain rfl := Except.error.inj hrefused
    exact id

end EncodedNode

end CompactAdjacency
