import Mathlib
import CompactAdjacency.Proofs.Blob.RoundTrip

/-!
# Nodes that are compressed again

A store accepts a node that it has compressed before, and counts the relationships once more, while
its directory forgets those that were there. `counts_agree_iff` says what comes of it: the two
counts of a frozen store differ by what was replaced, and its own blob is refused for this, unless
the difference is a multiple of the size of a word. One node that is compressed twice is enough,
`counts_differ_oneNode`.
-/

namespace CompactAdjacency

/-- Adding to a word leads back to it exactly by multiples of the size of words. -/
theorem toNat_toUInt64_add_eq_iff {word extra : Nat} (hword : word < UInt64.size) :
    (word + extra).toUInt64.toNat = word ↔ UInt64.size ∣ extra := by
  have hsize : (word + extra).toUInt64.toNat = (word + extra) % UInt64.size := by
    rw [Nat.toUInt64, UInt64.toNat_ofNat']
  rw [hsize]
  constructor
  · intro hword'
    have hmod : word + extra ≡ word + 0 [MOD UInt64.size] := by
      rw [Nat.ModEq, hword', Nat.add_zero, Nat.mod_eq_of_lt hword]
    exact Nat.modEq_zero_iff_dvd.mp (Nat.ModEq.add_left_cancel' word hmod)
  · rintro ⟨times, rfl⟩
    rw [Nat.add_mul_mod_self_left, Nat.mod_eq_of_lt hword]

namespace Store

variable {store : Store} {config : Config}

/-- A frozen store counted the relationships of its directory and those that were replaced, in any
order of compressions. So the two counts agree, and the blob of the store is accepted, exactly if
the number of those replaced vanishes as a word. -/
theorem counts_agree_iff {nodeCount : Nat} (hstart : Started config nodeCount store)
    (actions : List StoreAction)
    (hsince : ∀ action ∈ actions, action.SinceReset store.compressors.length)
    (hpages : ∀ answer ∈ (store.run actions).1, ¬ answer.OutOfPages config) {lists : Lists}
    (hfreeze : (store.run actions).2.freeze = .ok lists) :
    let extra := replaced (fun _ => .empty config.channelCount.toNat)
      (actions.zip (store.run actions).1)
    lists.relationshipCount = (lists.directory.relationshipCount + extra).toUInt64 ∧
      (lists.relationshipCount.toNat = lists.directory.relationshipCount ↔
        UInt64.size ∣ extra) ∧
      ∀ rest, Lists.ofBytes (lists.toBytes ++ rest) =
        if UInt64.size ∣ extra then .ok lists
        else .error (.blob (.relationshipsDisagree lists.relationshipCount.toNat
          lists.directory.relationshipCount)) := by
  intro extra
  have hsound := hstart.run_sound hsince hpages
  obtain ⟨hcount, hroom⟩ := (hstart.run_counted hsince hpages).freeze hfreeze
  have hagree : lists.relationshipCount.toNat = lists.directory.relationshipCount ↔
      UInt64.size ∣ extra := by
    rw [hcount]
    exact toNat_toUInt64_add_eq_iff lists.directory.relationshipCount_lt
  refine ⟨hcount, hagree, ?_⟩
  intro rest
  rw [hsound.ofBytes_of_freeze (hstart.run_bounded hsince) hfreeze hroom rest]
  exact if_congr hagree rfl rfl

/-- Three relationships of node 0 were replaced by one, and are still counted. -/
theorem counts_agree_iff_twoNodes :
    ∃ lists, (twoNodes.run compressTwice).2.freeze = .ok lists ∧
      lists.relationshipCount = (lists.directory.relationshipCount + 3).toUInt64 ∧
      lists.relationshipCount.toNat ≠ lists.directory.relationshipCount ∧
      ∀ other, Lists.ofBytes lists.toBytes ≠ .ok other := by
  have hsince : ∀ action ∈ compressTwice, action.SinceReset twoNodes.compressors.length := by
    decide +kernel
  have hpages : ∀ answer ∈ (twoNodes.run compressTwice).1,
      ¬ answer.OutOfPages { Config.default 1 with channelCount := 1 } := by
    decide +kernel
  obtain ⟨lists, hfreeze⟩ := (twoNodes_started.run_sound hsince hpages).exists_freeze
    fun number _ => compressTwice_closed number
  obtain ⟨hcount, hagree, hbytes⟩ :=
    counts_agree_iff twoNodes_started compressTwice hsince hpages hfreeze
  have hextra : replaced (fun _ => .empty 1)
      (compressTwice.zip (twoNodes.run compressTwice).1) = 3 := by
    decide +kernel
  have hdvd : ¬ UInt64.size ∣ 3 := by decide
  refine ⟨lists, hfreeze, hextra ▸ hcount, fun heq => hdvd (hextra ▸ hagree.mp heq), ?_⟩
  intro other hother
  have hrefused := hbytes []
  rw [List.append_nil, hother, if_neg (hextra ▸ hdvd)] at hrefused
  simp at hrefused

/-- A compressor that compresses the node twice, with one relationship each time. -/
def compressAgain : List StoreAction :=
  [.createCompressor, .compress 0 .whole 0 [5] [] 1, .compress 0 .whole 0 [7] [] 1, .close 0]

/-- What is built then: the second record is read, both are counted. -/
def recountedLists : Lists :=
  { rule := (Config.default 1).layoutRule
    relationshipCount := 2
    directory := ⟨#[1], #[⟨0, 1⟩], #[.zero]⟩
    adjacency := ⟨[[5, 7]]⟩
    properties := none }

/-- Both compressions succeed, the two counts are 2 and 1, and the blob of what was built is
refused. -/
theorem counts_differ_oneNode :
    Started (.default 1) 1 oneNode ∧
      compressedNodes (compressAgain.zip (oneNode.run compressAgain).1) = [0, 0] ∧
      (oneNode.run compressAgain).2.freeze = .ok recountedLists ∧
      recountedLists.relationshipCount = 2 ∧ recountedLists.directory.relationshipCount = 1 ∧
      Lists.ofBytes recountedLists.toBytes = .error (.blob (.relationshipsDisagree 2 1)) := by
  refine ⟨oneNode_started, ?_, ?_, rfl, ?_, ?_⟩
  · decide +kernel
  · decide +kernel
  · decide +kernel
  · decide +kernel

end Store

end CompactAdjacency
