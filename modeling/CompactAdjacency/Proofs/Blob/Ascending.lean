import Mathlib
import CompactAdjacency.Proofs.Blob.Canonical
import CompactAdjacency.Proofs.Blob.RoundTrip

/-!
# When neighbors ascend

Neighbors are the running sums of the gaps that a record stores, and sums wrap at 64 bits. They
ascend exactly as long as none of them wraps, `Gaps.sumsFrom_ascend_iff`. In a structure that was
built the gaps are those of an ascending list, so that they add up to its last target. The check of
a blob looks at the lengths of records and not at what they add up to: it says that a node has gaps,
and whether its neighbors ascend depends on them, `Lists.neighbors_ascend_iff`.
-/

namespace CompactAdjacency

namespace Gaps

/-- A sum of two words that fits a word is the sum of their numbers. -/
theorem toNat_add_of_fits {value gap : UInt64} (h : value.toNat + gap.toNat < UInt64.size) :
    (value + gap).toNat = value.toNat + gap.toNat := by
  rw [UInt64.toNat_add]
  exact Nat.mod_eq_of_lt h

/-- A sum of two words is no smaller than the first one exactly if it fits a word. -/
theorem le_add_iff (value gap : UInt64) :
    value ≤ value + gap ↔ value.toNat + gap.toNat < UInt64.size := by
  rw [UInt64.le_iff_toNat_le]
  rcases Nat.lt_or_ge (value.toNat + gap.toNat) UInt64.size with hfits | hwraps
  · rw [toNat_add_of_fits hfits]
    omega
  · -- what is left of the sum after it wraps is less than the gap lacks to a whole word
    have hgap : gap.toNat < UInt64.size := gap.toNat_lt
    have hwrapped : (value + gap).toNat = value.toNat + gap.toNat - UInt64.size := by
      have hvalue : value.toNat < UInt64.size := value.toNat_lt
      rw [UInt64.toNat_add]
      show (value.toNat + gap.toNat) % UInt64.size = _
      rw [Nat.mod_eq_sub_mod hwraps, Nat.mod_eq_of_lt (by omega)]
    omega

/-- Running sums ascend from where they start exactly if all gaps together do not wrap. -/
theorem sumsFrom_ascend_from_iff (start : UInt64) (gaps : List UInt64) :
    (start :: sumsFrom start gaps).Pairwise (· ≤ ·) ↔
      start.toNat + (gaps.map UInt64.toNat).sum < UInt64.size := by
  induction gaps generalizing start with
  | nil => simpa [sumsFrom] using start.toNat_lt
  | cons gap gaps ih =>
      have hchain : (start :: (start + gap) :: sumsFrom (start + gap) gaps).Pairwise (· ≤ ·) ↔
          start ≤ start + gap ∧
            ((start + gap) :: sumsFrom (start + gap) gaps).Pairwise (· ≤ ·) := by
        rw [← List.isChain_iff_pairwise, ← List.isChain_iff_pairwise, List.isChain_cons_cons]
      rw [sumsFrom, hchain, ih, le_add_iff, List.map_cons, List.sum_cons]
      constructor
      · rintro ⟨hfits, hrest⟩
        rwa [toNat_add_of_fits hfits, Nat.add_assoc] at hrest
      · intro htotal
        have hfits : start.toNat + gap.toNat < UInt64.size := by omega
        rw [toNat_add_of_fits hfits, Nat.add_assoc]
        exact ⟨hfits, htotal⟩

/-- The running sums of gaps ascend exactly if the gaps together do not wrap. -/
theorem sumsFrom_ascend_iff (gaps : List UInt64) :
    (sumsFrom 0 gaps).Pairwise (· ≤ ·) ↔ (gaps.map UInt64.toNat).sum < UInt64.size := by
  have h := sumsFrom_ascend_from_iff 0 gaps
  rw [List.pairwise_cons, UInt64.toNat_zero, Nat.zero_add] at h
  rw [← h]
  exact ⟨fun hsums => ⟨fun _ _ => UInt64.zero_le, hsums⟩, fun hsums => hsums.2⟩

end Gaps

namespace Lists

/-- The neighbors of every node of a structure that was built ascend. Those of a node of a structure
that was read from a blob are the running sums of the gaps that its record stores, and they ascend
exactly if the gaps together do not wrap. -/
theorem neighbors_ascend_iff (lists : Lists) :
    (∀ channelCount contents, lists.Compressed channelCount contents →
      ∀ node, ∃ targets, lists.neighbors node = .ok targets ∧ targets.Pairwise (· ≤ ·)) ∧
    ∀ bytes, ofBytes bytes = .ok lists → ∀ node, ∃ gaps, lists.HoldsGaps node gaps ∧
      lists.neighbors node = .ok (Gaps.sumsFrom 0 gaps) ∧
      ((Gaps.sumsFrom 0 gaps).Pairwise (· ≤ ·) ↔
        (gaps.map UInt64.toNat).sum < UInt64.size) := by
  refine ⟨?_, ?_⟩
  · intro channelCount contents hcompressed node
    obtain ⟨store, founded, hsound, hfreeze, -⟩ := hcompressed.exists_sound
    exact ⟨_, (hsound.holdsNeighbors_of_freeze hfreeze node).neighbors,
      (hsound.holds node).ascending⟩
  · intro bytes hbytes node
    obtain ⟨blob, -, -, hproblem, rfl⟩ := ofBytes_eq_ok_iff.mp hbytes
    obtain ⟨gaps, hgaps⟩ := Blob.exists_holdsGaps hproblem node
    exact ⟨gaps, hgaps, hgaps.holdsNeighbors.neighbors, Gaps.sumsFrom_ascend_iff gaps⟩

/-- The neighbors of packed records ascend, also after they were written to a blob and read from it,
so that their gaps do not wrap. -/
theorem neighbors_ascend_iff_mixedNodes :
    ∃ lists targets, (Store.mixedNodes.run Store.compressMixed).2.freeze = .ok lists ∧
      lists.neighbors 0 = .ok targets ∧ targets.Pairwise (· ≤ ·) ∧
      ∃ gaps, lists.HoldsGaps 0 gaps ∧ (gaps.map UInt64.toNat).sum < UInt64.size := by
  obtain ⟨lists, hfreeze⟩ := Store.compressMixed_freezes
  have honce : (compressedNodes (Store.compressMixed.zip
      (Store.mixedNodes.run Store.compressMixed).1)).Nodup := by
    decide +kernel
  have hrestored := Store.mixedNodes_started.ofBytes_of_freeze (by decide)
    Store.compressMixed_runs.2.2 honce hfreeze []
  obtain ⟨hbuilt, hread⟩ := neighbors_ascend_iff lists
  obtain ⟨targets, htargets, hascending⟩ := hbuilt _ _
    (.store Store.mixedNodes_started (by decide) Store.compressMixed_runs.2.2 hfreeze) 0
  obtain ⟨gaps, hgaps, hsums, hiff⟩ := hread _ hrestored 0
  obtain rfl := Except.ok.inj (htargets.symm.trans hsums)
  exact ⟨lists, _, hfreeze, htargets, hascending, gaps, hgaps, hiff.mp hascending⟩

/-- One node with two gaps that wrap together. -/
def wrappedGaps : Lists :=
  { rule := ⟨.varint, 0⟩
    relationshipCount := 2
    directory := ⟨#[2], #[.zero], #[.zero]⟩
    adjacency := ⟨[[5, 255, 255, 255, 255, 255, 255, 255, 255, 255, 1]]⟩
    properties := none }

/-- The blob of gaps that wrap is accepted, and the neighbors read from it descend. -/
theorem neighbors_descend_wrappedGaps :
    ofBytes wrappedGaps.toBytes = .ok wrappedGaps ∧ wrappedGaps.neighbors 0 = .ok [5, 4] ∧
      ¬ ([5, 4] : List UInt64).Pairwise (· ≤ ·) := by
  refine ⟨?_, ?_, ?_⟩
  · decide +kernel
  · decide +kernel
  · decide

end Lists

end CompactAdjacency
