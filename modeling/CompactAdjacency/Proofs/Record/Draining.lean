import Mathlib
import CompactAdjacency.Proofs.Record.Decoding

/-!
# Draining a record

`Decoder.drain` takes steps until one of them decodes nothing, and collects the blocks that the
steps before it decoded. A decoder never takes more or less than a full block while there are that
many values to come, `count_of_step`, so that a drained record is its values cut into blocks of 64
and a shorter last one. `drain_encode` says this of every record that is written, whatever follows
it: the decoder comes to rest right behind the record, and decodes nothing from then on.
-/

namespace CompactAdjacency.Record

namespace Decoder

/-! ## Steps until nothing is decoded -/

/-- What a step that ends without a fault does: nothing at the end of the record, a full block while
the header announces one, and after that up to a block of varints. -/
theorem step_ok {decoder next : Decoder} {buffer block : List UInt64} {count : Nat}
    (h : decoder.step buffer = ⟨next, block, .ok count⟩) :
    (decoder.remaining = 0 ∧ count = 0 ∧ next = decoder) ∨
    decoder.remaining ≠ 0 ∧ next.remaining = decoder.remaining - count ∧
      ((∃ width, decoder.header = width :: next.header ∧ count = blockSize) ∨
        decoder.header = [] ∧ next.header = [] ∧ count = min decoder.remaining blockSize) := by
  unfold step at h
  split at h
  case isTrue hend =>
    obtain ⟨rfl, -, hcount⟩ := Step.mk.inj h
    exact .inl ⟨hend, (Except.ok.inj hcount).symm, rfl⟩
  case isFalse hremaining =>
    refine .inr ⟨hremaining, ?_⟩
    split at h
    case h_1 width header hheader =>
      split at h
      case h_1 fault hunpack => simp at h
      case h_2 packed hunpack =>
        obtain ⟨rfl, -, hcount⟩ := Step.mk.inj h
        obtain rfl := Except.ok.inj hcount
        exact ⟨rfl, .inl ⟨width, hheader, rfl⟩⟩
    case h_2 hheader =>
      dsimp only at h
      split at h
      case h_1 hrest => simp at h
      case h_2 rest hrest =>
        obtain ⟨rfl, -, hcount⟩ := Step.mk.inj h
        obtain rfl := Except.ok.inj hcount
        exact ⟨rfl, .inr ⟨hheader, hheader, rfl⟩⟩

/-- A step that decodes values leaves fewer of them to come. -/
theorem remaining_step_lt {decoder : Decoder} {buffer : List UInt64} {count : Nat}
    (h : (decoder.step buffer).outcome = .ok (count + 1)) :
    (decoder.step buffer).decoder.remaining < decoder.remaining := by
  have hstep : decoder.step buffer =
      ⟨(decoder.step buffer).decoder, (decoder.step buffer).block, .ok (count + 1)⟩ := by
    rw [← h]
  rcases step_ok hstep with ⟨-, hcount, -⟩ | ⟨hremaining, hless, -⟩
  · omega
  · omega

/-- What a decoder leaves when it is read to its end: the blocks that its steps decoded, and the
decoder after the last step. -/
structure Drained where
  blocks : List (List UInt64)
  decoder : Decoder
  deriving DecidableEq, Repr

/-- Steps until one of them decodes nothing. Each step decodes into the buffer that the one before
it left. -/
def drain (decoder : Decoder) (buffer : List UInt64) : Except Fault Drained :=
  match _hstep : (decoder.step buffer).outcome with
  | .error fault => .error fault
  | .ok 0 => .ok ⟨[], (decoder.step buffer).decoder⟩
  | .ok (count + 1) => do
      let others ← (decoder.step buffer).decoder.drain (decoder.step buffer).block
      pure ⟨(decoder.step buffer).block.take (count + 1) :: others.blocks, others.decoder⟩
termination_by decoder.remaining
decreasing_by exact remaining_step_lt _hstep

variable {decoder next : Decoder} {buffer block values : List UInt64} {rest : Bytes}

/-- Nothing is decoded from an empty decoder, and the step changes nothing. -/
theorem step_of_remaining (hend : decoder.remaining = 0) (buffer : List UInt64) :
    decoder.step buffer = ⟨decoder, buffer, .ok 0⟩ := by
  rw [step, if_pos hend]

/-- An empty decoder is drained without a block. -/
theorem drain_of_remaining (hend : decoder.remaining = 0) (buffer : List UInt64) :
    decoder.drain buffer = .ok ⟨[], decoder⟩ := by
  have hstep := step_of_remaining hend buffer
  unfold drain
  split
  case h_1 fault houtcome => simp [hstep] at houtcome
  case h_2 houtcome => rw [hstep]
  case h_3 count houtcome => simp [hstep] at houtcome

/-- A decoder is drained by one step and then the decoder behind it. -/
theorem drain_of_step {stale : List UInt64} (hblock : block ≠ [])
    (hstep : decoder.step buffer = ⟨next, block ++ stale, .ok block.length⟩) {others : Drained}
    (hothers : next.drain (block ++ stale) = .ok others) :
    decoder.drain buffer = .ok ⟨block :: others.blocks, others.decoder⟩ := by
  have hlength : block.length ≠ 0 := by simpa using hblock
  unfold drain
  split
  case h_1 fault houtcome => simp [hstep] at houtcome
  case h_2 houtcome =>
    simp only [hstep, Except.ok.injEq] at houtcome
    exact absurd houtcome hlength
  case h_3 count houtcome =>
    simp only [hstep, Except.ok.injEq] at houtcome
    have hcount : count + 1 = block.length := houtcome.symm
    simp only [hstep, hothers, bind, Except.bind, hcount, List.take_left]
    rfl

/-! ## Blocks of full size -/

/-- There are values to come for every block that the header announces. -/
def Fits (decoder : Decoder) : Prop :=
  decoder.header.length * blockSize ≤ decoder.remaining

/-- A step takes a full block while there are that many values to come, and leaves values for the
blocks behind it. -/
theorem count_of_step (hfits : decoder.Fits) {count : Nat}
    (hstep : decoder.step buffer = ⟨next, block, .ok count⟩) :
    count = min decoder.remaining blockSize ∧ next.Fits := by
  unfold Fits at hfits ⊢
  rcases step_ok hstep with ⟨hend, rfl, rfl⟩ |
    ⟨-, hless, ⟨width, hheader, rfl⟩ | ⟨hheader, hheader', rfl⟩⟩
  · exact ⟨by rw [hend, Nat.zero_min], hfits⟩
  · rw [hheader, List.length_cons, Nat.succ_mul] at hfits
    omega
  · exact ⟨rfl, by simp [hheader']⟩

/-- Blocks that hold values, and 64 of them but for the last one. -/
structure Blocks (blocks : List (List UInt64)) : Prop where
  nonempty : ∀ block ∈ blocks, block ≠ []
  short : ∀ block ∈ blocks, block.length ≤ blockSize
  full : ∀ block ∈ blocks.dropLast, block.length = blockSize

/-- A full block may come before other blocks, and a shorter one alone. -/
theorem Blocks.cons {blocks : List (List UInt64)} (h : Blocks blocks) (hblock : block ≠ [])
    (hshort : block.length ≤ blockSize) (hfull : blocks ≠ [] → block.length = blockSize) :
    Blocks (block :: blocks) := by
  refine ⟨List.forall_mem_cons.mpr ⟨hblock, h.nonempty⟩,
    List.forall_mem_cons.mpr ⟨hshort, h.short⟩, ?_⟩
  cases blocks with
  | nil => simp
  | cons other others =>
      rw [List.dropLast_cons_of_ne_nil (List.cons_ne_nil _ _)]
      exact List.forall_mem_cons.mpr ⟨hfull (List.cons_ne_nil _ _), h.full⟩

/-- A decoder that yields values is drained to blocks of them. -/
theorem Yields.drain (h : decoder.Yields values rest) (hfits : decoder.Fits)
    (buffer : List UInt64) :
    ∃ blocks last, decoder.drain buffer = .ok ⟨blocks, last⟩ ∧ blocks.flatten = values ∧
      Blocks blocks ∧ last.rest = rest ∧ last.remaining = 0 := by
  induction h generalizing buffer with
  | done decoder hend =>
      exact ⟨[], decoder, drain_of_remaining hend buffer, rfl, ⟨by simp, by simp, by simp⟩, rfl,
        hend⟩
  | block decoder next block values rest hblock hremaining hstep hrest ih =>
      obtain ⟨stale, hstep⟩ := hstep buffer
      obtain ⟨hcount, hfits'⟩ := count_of_step hfits hstep
      obtain ⟨blocks, last, hdrain, hflatten, hblocks, hlast⟩ := ih hfits' (block ++ stale)
      refine ⟨block :: blocks, last, drain_of_step hblock hstep hdrain, ?_, ?_, hlast⟩
      · rw [List.flatten_cons, hflatten]
      · refine hblocks.cons hblock (by omega) fun hmore => ?_
        -- more blocks mean more values, of which the step would have taken some
        have hvalues : values ≠ [] := by
          rintro rfl
          obtain ⟨other, others, rfl⟩ := List.exists_cons_of_ne_nil hmore
          have hempty := List.flatten_eq_nil_iff.mp hflatten other List.mem_cons_self
          exact hblocks.nonempty other List.mem_cons_self hempty
        have hlater := List.length_pos_iff.mpr hvalues
        rw [hrest.length_eq] at hlater
        omega

end Decoder

/-! ## Written records -/

/-- What is written for the values of a node: the values, or their gaps if they ascend. -/
def stored (delta : Bool) (node : Nat) (values : List UInt64) : Except Failure (List UInt64) :=
  if delta then Gaps.encode node values else .ok values

/-- Ascending values and values that are not delta-encoded can be written, and what is written
stands for them. -/
theorem exists_stored_values {delta : Bool} (node : Nat) {values : List UInt64}
    (hascent : delta = true → values.Pairwise (· ≤ ·)) :
    ∃ written, stored delta node values = .ok written ∧ written.length = values.length ∧
      resolved delta written = values := by
  cases delta with
  | false => exact ⟨values, rfl, rfl, rfl⟩
  | true =>
      have hresolved : resolved true (Gaps.gaps values) = values := by
        rw [resolved, if_pos rfl, Gaps.gaps, Gaps.sumsFrom_gapsFrom]
      refine ⟨Gaps.gaps values, ?_, ?_, hresolved⟩
      · rw [stored, if_pos rfl, Gaps.encode_of_ascending node (hascent rfl)]
      · rw [← length_resolved true, hresolved]

/-- The decoder of a record has values for every block of its header. -/
theorem Decoder.fits_of_ofRecord {bytes : Bytes} {layout : Layout} {count : Nat} {delta : Bool}
    {decoder : Decoder}
    (h : ofRecord bytes (layout.headerLength count) count delta = .ok decoder) :
    decoder.Fits := by
  unfold ofRecord at h
  split at h
  case h_1 hshort => simp at h
  case h_2 header body hcut =>
    obtain rfl := Except.ok.inj h
    obtain ⟨hlength, -⟩ := eq_append_of_cut? hcut
    have hfits := Layout.headerLength_mul_le layout count
    rwa [hlength] at hfits

/-- A written record is drained to its values, cut into blocks of 64 and a shorter last one,
whatever follows it and whatever the buffer holds. The decoder then stands behind the record, and
no step decodes anything or changes it from then on. -/
theorem drain_encode (layout : Layout) (delta : Bool) (node : Nat) (values : List UInt64)
    (hascent : delta = true → values.Pairwise (· ≤ ·)) (following : Bytes)
    (buffer : List UInt64) :
    ∃ written decoder blocks last,
      stored delta node values = .ok written ∧
      Decoder.ofRecord (encode layout written ++ following) (layout.headerLength values.length)
        values.length delta = .ok decoder ∧
      decoder.drain buffer = .ok ⟨blocks, last⟩ ∧
      blocks.flatten = values ∧ Decoder.Blocks blocks ∧
      last.rest = following ∧ ∀ later, last.step later = ⟨last, later, .ok 0⟩ := by
  obtain ⟨written, hwritten, hlength, hresolved⟩ := exists_stored_values node hascent
  obtain ⟨decoder, hdecoder, hyields⟩ := holds_encode layout delta written following
  rw [length_resolved, hlength] at hdecoder
  rw [hresolved] at hyields
  obtain ⟨blocks, last, hdrain, hflatten, hblocks, hrest, hend⟩ :=
    hyields.drain (Decoder.fits_of_ofRecord hdecoder) buffer
  exact ⟨written, decoder, blocks, last, hwritten, hdecoder, hdrain, hflatten, hblocks, hrest,
    Decoder.step_of_remaining hend⟩

/-- Sixty-four equal values and the greatest one, written as a block of gaps and a varint. -/
theorem drain_encode_blockAndTail :
    (List.replicate 64 3 ++ [18446744073709551615] : List UInt64).Pairwise (· ≤ ·) ∧
      ∃ decoder blocks last,
        Decoder.ofRecord
          (encode .packed (3 :: List.replicate 63 0 ++ [18446744073709551612]) ++ [7]) 1 65
            true = .ok decoder ∧
        decoder.drain [] = .ok ⟨blocks, last⟩ ∧
        blocks.flatten = List.replicate 64 3 ++ [18446744073709551615] ∧
        Decoder.Blocks blocks ∧ last.rest = [7] := by
  have hascent : (List.replicate 64 3 ++ [18446744073709551615] : List UInt64).Pairwise
      (· ≤ ·) := by
    decide
  obtain ⟨written, decoder, blocks, last, hwritten, hdecoder, hdrain, hflatten, hblocks, hrest,
    -⟩ := drain_encode .packed true 0 _ (fun _ => hascent) [7] []
  have hgaps : stored true 0 (List.replicate 64 3 ++ [18446744073709551615]) =
      .ok (3 :: List.replicate 63 0 ++ [18446744073709551612]) := by
    decide +kernel
  obtain rfl := Except.ok.inj (hgaps.symm.trans hwritten)
  exact ⟨hascent, decoder, blocks, last, hdecoder, hdrain, hflatten, hblocks, hrest⟩

end CompactAdjacency.Record
