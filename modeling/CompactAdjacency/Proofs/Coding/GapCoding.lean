import Mathlib
import CompactAdjacency.Proofs.Coding.VarintBuffers
import CompactAdjacency.Proofs.Record.Lengths

/-!
# Ascending lists as varints

An ascending list is kept as the varints of its gaps. Taking the gaps in place never takes a value
from a smaller one, because a list that descends anywhere is refused before it is touched,
`Gaps.encodeInPlace?_eq`. Adding the gaps up again never wraps, as every sum is a value of the list,
and may stop and go on anywhere: `decodeChunks?_encodeAll` cuts a run of varints into chunks of any
sizes, and `encodeInPlace?_restores` puts the whole of it together.
-/

namespace CompactAdjacency

/-! ## Gaps -/

namespace Gaps

variable {previous : UInt64} {values : List UInt64}

/-- No value of an ascending list is taken from a smaller one. -/
theorem differencesFrom?_eq (h : (previous :: values).Pairwise (· ≤ ·)) :
    differencesFrom? previous values = some (gapsFrom previous values) := by
  induction values generalizing previous with
  | nil => rfl
  | cons value rest ih =>
      obtain ⟨hfirst, hrest⟩ := List.pairwise_cons.mp h
      rw [differencesFrom?, if_pos (hfirst value List.mem_cons_self), ih hrest]
      rfl

/-- The gaps up to a value of an ascending list add up to it, and not to more than a word. -/
theorem map_toNat_eq_sums (h : (previous :: values).Pairwise (· ≤ ·)) :
    values.map UInt64.toNat = (List.range values.length).map fun index =>
      previous.toNat + (((gapsFrom previous values).take (index + 1)).map UInt64.toNat).sum := by
  induction values generalizing previous with
  | nil => rfl
  | cons value rest ih =>
      obtain ⟨hfirst, hrest⟩ := List.pairwise_cons.mp h
      have hle : previous ≤ value := hfirst value List.mem_cons_self
      have hgap : previous.toNat + (value - previous).toNat = value.toNat := by
        rw [UInt64.toNat_sub_of_le _ _ hle]
        exact Nat.add_sub_cancel' (UInt64.le_iff_toNat_le.mp hle)
      rw [List.map_cons, ih hrest, List.length_cons, List.range_succ_eq_map, List.map_cons,
        List.map_map, gapsFrom]
      refine congrArg₂ List.cons ?_ (List.map_congr_left fun index _ => ?_)
      · simpa using hgap.symm
      · rw [Function.comp_apply, List.take_succ_cons, List.map_cons, List.sum_cons,
          ← Nat.add_assoc, hgap]

theorem pairwise_zero_cons (h : values.Pairwise (· ≤ ·)) : (0 :: values).Pairwise (· ≤ ·) :=
  List.pairwise_cons.mpr ⟨fun _ _ => UInt64.zero_le, h⟩

/-- Taking gaps in place comes to the gaps, or leaves the list as it is. -/
theorem encodeInPlace?_eq (node : Nat) (values : List UInt64) :
    encodeInPlace? node values = some
      (match encode node values with
        | .ok gaps => (.ok (), gaps)
        | .error failure => (.error failure, values)) := by
  unfold encodeInPlace? encode
  cases hdescent : firstDescent values with
  | some position => rfl
  | none =>
      have hascending := pairwise_zero_cons (descentFrom_eq_none_iff.mp hdescent)
      simp only [differencesFrom?_eq hascending, Option.map_some, gaps]

/-- Any other list is refused for the first value that is smaller than the one before it. -/
theorem encode_of_not_ascending (node : Nat) (h : ¬ values.Pairwise (· ≤ ·)) :
    ∃ index, Descends values index ∧ (∀ earlier < index, ¬ Descends values earlier) ∧
      encode node values = .error (.unsortedTargets node (index + 1)) := by
  obtain ⟨position, hposition⟩ :=
    Option.ne_none_iff_exists'.mp (mt descentFrom_eq_none_iff.mp h : firstDescent values ≠ none)
  obtain ⟨index, hindex, hdescends, hfirst⟩ := descentFrom_eq_some_iff.mp hposition
  rw [Nat.zero_add] at hindex
  exact ⟨index, hdescends, hfirst, by simp only [encode, hposition, hindex]⟩

end Gaps

namespace Varint

/-! ## Single words -/

/-- A word takes one byte at least and ten at most. -/
theorem length_bounds (value : UInt64) : 1 ≤ length value ∧ length value ≤ maxLength := by
  have hbits := Block.bitLength_le value
  unfold Block.bitLength at hbits
  unfold length maxLength
  omega

/-- A word is read at the position where it was written, up to its end. -/
theorem readAt?_encode (before : Bytes) (value : UInt64) (after : Bytes) :
    readAt? (before ++ (encode value ++ after)) before.length =
      some (value, before.length + (encode value).length) := by
  have hlast : (before ++ (encode value ++ after)).length - after.length =
      before.length + (encode value).length := by
    simp only [List.length_append]
    omega
  rw [readAt?_eq, List.drop_left, read?_encode, Option.map_some, hlast]

/-! ## Chunks -/

/-- Decodes running sums from a position on in chunks of the given sizes. Every chunk is decoded on
its own, behind the one before it and from the last sum before it. What is answered is the chunks
and the position behind them. -/
def decodeChunks? (bytes : Bytes) (position : Nat) (previous : UInt64) :
    List Nat → Option (List (List UInt64) × Nat)
  | [] => some ([], position)
  | count :: counts => do
      let (_, following) ← cut? position bytes
      let (sums, consumed) ← decodeSums? following previous count
      let (chunks, last) ←
        decodeChunks? bytes (position + consumed) (sums.getLastD previous) counts
      pure (sums :: chunks, last)

/-- A run that was written is decoded to its running sums, up to its end. -/
theorem decodeSums?_encodeAll (previous : UInt64) (values : List UInt64) (rest : Bytes) :
    decodeSums? (encodeAll values ++ rest) previous values.length =
      some (Gaps.sumsFrom previous values, (encodeAll values).length) := by
  have hdecode := decode?_of_measure? (measure?_encodeAll values rest)
  rw [readRun_encodeAll] at hdecode
  rw [decodeSums?, decodeSumsFrom?_eq, ← decode?, hdecode, Option.map_some]

theorem encodeAll_append (front back : List UInt64) :
    encodeAll (front ++ back) = encodeAll front ++ encodeAll back :=
  List.flatMap_append

/-- However a run that was written is cut into chunks, they make up its running sums and end where
it does. -/
theorem decodeChunks?_encodeAll {counts : List Nat} {gaps : List UInt64}
    (hcounts : counts.sum = gaps.length) (before after : Bytes) (previous : UInt64) :
    ∃ chunks, decodeChunks? (before ++ (encodeAll gaps ++ after)) before.length previous counts =
        some (chunks, before.length + (encodeAll gaps).length) ∧
      chunks.flatten = Gaps.sumsFrom previous gaps ∧ chunks.map List.length = counts := by
  induction counts generalizing gaps before previous with
  | nil =>
      obtain rfl := List.eq_nil_of_length_eq_zero hcounts.symm
      exact ⟨[], rfl, rfl, rfl⟩
  | cons count counts ih =>
      rw [List.sum_cons] at hcounts
      obtain ⟨front, back, rfl, rfl⟩ : ∃ front back, gaps = front ++ back ∧ front.length = count :=
        ⟨gaps.take count, gaps.drop count, (List.take_append_drop _ _).symm,
          List.length_take_of_le (by omega)⟩
      rw [List.length_append] at hcounts
      -- the chunks behind the first one see it in front of them, and go on from its last sum
      obtain ⟨chunks, hchunks, hflatten, hlengths⟩ := ih (Nat.add_left_cancel hcounts)
        (before ++ encodeAll front) ((Gaps.sumsFrom previous front).getLastD previous)
      refine ⟨Gaps.sumsFrom previous front :: chunks, ?_, ?_, ?_⟩
      · rw [List.length_append, List.append_assoc] at hchunks
        simp only [decodeChunks?, cut?_append, encodeAll_append, List.append_assoc,
          decodeSums?_encodeAll, hchunks, bind, Option.bind_some, pure, List.length_append,
          Nat.add_assoc]
      · rw [List.flatten_cons, hflatten, Gaps.sumsFrom_append]
      · rw [List.map_cons, hlengths, Gaps.length_sumsFrom]

/-! ## The round trip -/

/-- Targets are replaced by their gaps exactly if they ascend, and no value is taken from a smaller
one on the way. Otherwise they stay as they are, and the first value smaller than the one before it
is named. The gaps up to a target add up to it without wrapping. Appended to any bytes as varints,
with any bytes behind them, they are decoded to the targets and up to their end, in chunks of
whatever sizes. Every word is appended in as many bytes as its length says, which are one to ten,
and read at its position up to its end. -/
theorem encodeInPlace?_restores (node : Nat) (values : List UInt64) :
    ((∃ gaps, Gaps.encodeInPlace? node values = some (.ok (), gaps)) ↔
      values.Pairwise (· ≤ ·)) ∧
    (¬ values.Pairwise (· ≤ ·) →
      ∃ index, Gaps.Descends values index ∧ (∀ earlier < index, ¬ Gaps.Descends values earlier) ∧
        Gaps.encode node values = .error (.unsortedTargets node (index + 1)) ∧
        Gaps.encodeInPlace? node values =
          some (.error (.unsortedTargets node (index + 1)), values)) ∧
    (values.Pairwise (· ≤ ·) →
      ∃ gaps, Gaps.encode node values = .ok gaps ∧
        Gaps.encodeInPlace? node values = some (.ok (), gaps) ∧
        (values.map UInt64.toNat = (List.range values.length).map fun index =>
          ((gaps.take (index + 1)).map UInt64.toNat).sum) ∧
        ∀ (before after : Bytes) (counts : List Nat), counts.sum = values.length →
          writeAllOnto before gaps = ((encodeAll gaps).length, before ++ encodeAll gaps) ∧
          ∃ chunks,
            decodeChunks? (before ++ (encodeAll gaps ++ after)) before.length 0 counts =
              some (chunks, before.length + (encodeAll gaps).length) ∧
            chunks.flatten = values ∧ chunks.map List.length = counts) ∧
    ∀ (value : UInt64) (before after : Bytes),
      writeOnto before value = (length value, before ++ encode value) ∧
      (encode value).length = length value ∧ 1 ≤ length value ∧ length value ≤ maxLength ∧
      readAt? (before ++ (encode value ++ after)) before.length =
        some (value, before.length + length value) := by
  have hplace := Gaps.encodeInPlace?_eq node values
  refine ⟨?_, ?_, ?_, ?_⟩
  · constructor
    · rintro ⟨gaps, hgaps⟩
      by_contra hdescends
      obtain ⟨index, -, -, hrefused⟩ := Gaps.encode_of_not_ascending node hdescends
      rw [hplace, hrefused] at hgaps
      simp at hgaps
    · intro hascending
      rw [Gaps.encode_of_ascending node hascending] at hplace
      exact ⟨_, hplace⟩
  · intro hdescends
    obtain ⟨index, hindex, hfirst, hrefused⟩ := Gaps.encode_of_not_ascending node hdescends
    rw [hrefused] at hplace
    exact ⟨index, hindex, hfirst, hrefused, hplace⟩
  · intro hascending
    have hencode := Gaps.encode_of_ascending node hascending
    have hsums := Gaps.map_toNat_eq_sums (Gaps.pairwise_zero_cons hascending)
    have hrestored : Gaps.sumsFrom 0 (Gaps.gaps values) = values := Gaps.sumsFrom_gapsFrom 0 values
    have hlength : (Gaps.gaps values).length = values.length := by
      conv_rhs => rw [← hrestored, Gaps.length_sumsFrom]
    rw [hencode] at hplace
    simp only [UInt64.toNat_zero, Nat.zero_add] at hsums
    refine ⟨Gaps.gaps values, hencode, hplace, hsums, ?_⟩
    intro before after counts hcounts
    obtain ⟨chunks, hchunks, hflatten, hlengths⟩ :=
      decodeChunks?_encodeAll (hcounts.trans hlength.symm) before after 0
    exact ⟨writeAllOnto_eq before _, chunks, hchunks, hflatten.trans hrestored, hlengths⟩
  · intro value before after
    have hlength := length_encode value
    refine ⟨?_, hlength, (length_bounds value).1, (length_bounds value).2, ?_⟩
    · rw [writeOnto_eq, hlength]
    · rw [readAt?_encode, hlength]

/-- Five targets, two of them equal, are written between other bytes and decoded in three chunks,
one of them empty; a list that descends is refused. -/
theorem encodeInPlace?_restores_chunks :
    ([5, 5, 9, 20, 1000] : List UInt64).Pairwise (· ≤ ·) ∧
      Gaps.encodeInPlace? 7 [5, 5, 9, 20, 1000] = some (.ok (), [5, 0, 4, 11, 980]) ∧
      [2, 0, 3].sum = ([5, 5, 9, 20, 1000] : List UInt64).length ∧
      (∃ encoded chunks, writeAllOnto [1] [5, 0, 4, 11, 980] = (6, [1] ++ encoded) ∧
        decodeChunks? ([1] ++ (encoded ++ [0x80])) 1 0 [2, 0, 3] = some (chunks, 7) ∧
        chunks.flatten = [5, 5, 9, 20, 1000] ∧ chunks.map List.length = [2, 0, 3]) ∧
      ¬ ([1, 4, 3] : List UInt64).Pairwise (· ≤ ·) ∧
      ∃ index, Gaps.Descends [1, 4, 3] index ∧
        Gaps.encodeInPlace? 9 [1, 4, 3] =
          some (.error (.unsortedTargets 9 (index + 1)), [1, 4, 3]) := by
  have hascending : ([5, 5, 9, 20, 1000] : List UInt64).Pairwise (· ≤ ·) := by decide
  have hdescends : ¬ ([1, 4, 3] : List UInt64).Pairwise (· ≤ ·) := by decide
  have hgaps : Gaps.encode 7 [5, 5, 9, 20, 1000] = .ok [5, 0, 4, 11, 980] := by decide
  have hlength : (encodeAll [5, 0, 4, 11, 980]).length = 6 := by decide +kernel
  obtain ⟨-, -, hrestores, -⟩ := encodeInPlace?_restores 7 [5, 5, 9, 20, 1000]
  obtain ⟨-, hrefuses, -, -⟩ := encodeInPlace?_restores 9 [1, 4, 3]
  obtain ⟨gaps, hencode, hplace, -, hwritten⟩ := hrestores hascending
  obtain rfl := Except.ok.inj (hencode.symm.trans hgaps)
  obtain ⟨hwrite, chunks, hchunks, hflatten, hlengths⟩ := hwritten [1] [0x80] [2, 0, 3] rfl
  obtain ⟨index, hindex, -, -, hrefused⟩ := hrefuses hdescends
  rw [hlength] at hwrite hchunks
  exact ⟨hascending, hplace, rfl, ⟨_, chunks, hwrite, hchunks, hflatten, hlengths⟩, hdescends,
    index, hindex, hrefused⟩

end Varint

end CompactAdjacency
