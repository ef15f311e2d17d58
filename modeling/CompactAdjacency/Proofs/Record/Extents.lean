import Mathlib
import CompactAdjacency.Proofs.Record.Draining

/-!
# Extents are exact

`extent?` adds up widths and looks for final bytes, while a decoder unpacks and decodes. Both walk
the same bytes and come to the same end: `Decoder.leaves_of_drain` takes a decoder that was drained
apart into the blocks and the run of varints that it went through, so that `drains_iff` can say that
an extent is found exactly if the record can be drained, and is then the number of bytes that
draining takes. `extent?_exact` is the same statement in the layouts that records have.
-/

namespace CompactAdjacency.Record

namespace Decoder

variable {decoder next : Decoder} {buffer block values : List UInt64} {rest : Bytes}

/-! ## What was drained -/

/-- A step that decodes values unpacks a block, or reads varints once the header is used up. -/
theorem step_takes {count : Nat} (h : decoder.step buffer = ⟨next, block, .ok (count + 1)⟩) :
    (∃ width packed, decoder.header = width :: next.header ∧
      Block.unpack decoder.rest width.toNat = .ok packed ∧
      next.rest = decoder.rest.drop (Block.packedLength width.toNat)) ∨
    decoder.header = [] ∧ next.header = [] ∧
      (Varint.readRun (count + 1) decoder.rest).rest = some next.rest := by
  unfold step at h
  split at h
  case isTrue hend => simp at h
  case isFalse hremaining =>
    split at h
    case h_1 width header hheader =>
      split at h
      case h_1 fault hunpack => simp at h
      case h_2 packed hunpack =>
        obtain ⟨rfl, -, -⟩ := Step.mk.inj h
        exact .inl ⟨width, packed, hheader, hunpack, rfl⟩
    case h_2 hheader =>
      dsimp only at h
      split at h
      case h_1 hrest => simp at h
      case h_2 rest hrest =>
        obtain ⟨rfl, -, hcount⟩ := Step.mk.inj h
        rw [Except.ok.inj hcount] at hrest
        exact .inr ⟨hheader, hheader, hrest⟩

/-- A drained decoder took no step or took one and was drained behind it. -/
theorem drain_inversion {drained : Drained} (h : decoder.drain buffer = .ok drained) :
    ((decoder.step buffer).outcome = .ok 0 ∧ drained.decoder = (decoder.step buffer).decoder) ∨
    ∃ count others, (decoder.step buffer).outcome = .ok (count + 1) ∧
      (decoder.step buffer).decoder.drain (decoder.step buffer).block = .ok others ∧
      drained.decoder = others.decoder := by
  unfold drain at h
  split at h
  case h_1 fault houtcome => simp at h
  case h_2 houtcome =>
    obtain rfl := Except.ok.inj h
    exact .inl ⟨houtcome, rfl⟩
  case h_3 count houtcome =>
    cases hothers : (decoder.step buffer).decoder.drain (decoder.step buffer).block with
    | error fault => simp [hothers, bind, Except.bind] at h
    | ok others =>
        simp only [hothers, bind, Except.bind, pure, Except.pure, Except.ok.injEq] at h
        subst h
        exact .inr ⟨count, others, houtcome, rfl, rfl⟩

/-- In front of a decoder are blocks that unpack and a run of varints that can be read, and behind
them these bytes. -/
def Leaves (decoder : Decoder) (rest : Bytes) : Prop :=
  ∃ blocks tail, Unpacks decoder.header decoder.rest blocks tail ∧
    (Varint.readRun (decoder.remaining - blocks.length) tail).rest = some rest

/-- A decoder that has nothing to decode leaves everything. -/
theorem leaves_of_remaining (hfits : decoder.Fits) (hremaining : decoder.remaining = 0) :
    decoder.Leaves decoder.rest := by
  have hheader : decoder.header = [] := by
    unfold Fits blockSize at hfits
    exact List.eq_nil_of_length_eq_zero (by omega)
  refine ⟨[], decoder.rest, hheader ▸ .nil _, ?_⟩
  rw [hremaining]
  rfl

/-- A step that decodes values leaves what the decoder behind it leaves. -/
theorem leaves_of_step (hfits : decoder.Fits) {count : Nat}
    (hstep : decoder.step buffer = ⟨next, block, .ok (count + 1)⟩) (hnext : next.Leaves rest) :
    decoder.Leaves rest := by
  obtain ⟨hcount, -⟩ := count_of_step hfits hstep
  obtain ⟨-, hcounted, -⟩ := (step_ok hstep).resolve_left (by omega)
  obtain ⟨blocks, tail, hblocks, hrun⟩ := hnext
  rcases step_takes hstep with ⟨width, packed, hheader, hunpack, hrest⟩ |
    ⟨hheader, hheader', hfirst⟩
  · obtain ⟨-, -, hlength⟩ := Block.unpack_inversion hunpack
    rw [hrest] at hblocks
    refine ⟨packed ++ blocks, tail, ?_, ?_⟩
    · rw [hheader]
      exact .cons _ _ _ _ _ _ hlength hunpack hblocks
    · have hwhole : count + 1 = blockSize := by
        have hpos : decoder.header.length * blockSize ≤ decoder.remaining := hfits
        rw [hheader, List.length_cons, Nat.succ_mul] at hpos
        omega
      rwa [List.length_append, hlength, ← hwhole, ← Nat.sub_sub, ← hcounted]
  · -- a decoder without a header reads varints only
    rw [hheader'] at hblocks
    cases hblocks
    refine ⟨[], decoder.rest, hheader ▸ .nil _, ?_⟩
    have hsum : decoder.remaining - ([] : List UInt64).length =
        count + 1 + (next.remaining - ([] : List UInt64).length) := by
      simp only [List.length_nil]
      omega
    rw [hsum]
    exact Varint.rest_readRun_add hfirst hrun

/-- A decoder that was drained went through blocks that unpack and a run of varints that can be
read, and stands behind them. -/
theorem leaves_of_drain (hfits : decoder.Fits) {drained : Drained}
    (h : decoder.drain buffer = .ok drained) : decoder.Leaves drained.decoder.rest := by
  -- The induction is on the number of values to come, which every step lessens.
  induction hn : decoder.remaining using Nat.strongRecOn generalizing decoder buffer drained with
  | ind n ih =>
      subst hn
      rcases drain_inversion h with ⟨hend, hlast⟩ | ⟨count, others, htaken, hothers, hlast⟩
      · obtain ⟨hcount, -⟩ := count_of_step hfits (show decoder.step buffer =
          ⟨(decoder.step buffer).decoder, (decoder.step buffer).block, .ok 0⟩ by rw [← hend])
        have hremaining : decoder.remaining = 0 := by
          unfold blockSize at hcount
          omega
        rw [hlast, step_of_remaining hremaining]
        exact leaves_of_remaining hfits hremaining
      · have hstep : decoder.step buffer = ⟨(decoder.step buffer).decoder,
            (decoder.step buffer).block, .ok (count + 1)⟩ := by
          rw [← htaken]
        rw [hlast]
        exact leaves_of_step hfits hstep
          (ih _ (remaining_step_lt htaken) (count_of_step hfits hstep).2 hothers rfl)

/-- Blocks that unpack have legal widths, and lie inside of the bytes in front of the tail. -/
theorem Unpacks.inversion {header bytes tail : Bytes} (h : Unpacks header bytes values tail) :
    (∀ width ∈ header, width.toNat ≤ 64) ∧ values.length = header.length * blockSize ∧
      Block.packedBlocksLength header - header.length ≤ bytes.length ∧
      tail = bytes.drop (Block.packedBlocksLength header - header.length) := by
  induction h with
  | nil bytes => simp [Block.packedBlocksLength]
  | cons width header bytes block values tail hlength hblock hrest ih =>
      obtain ⟨hwidths, hvalues, hfits, htail⟩ := ih
      obtain ⟨hwidth, hpacked, -⟩ := Block.unpack_inversion hblock
      have hle := Block.length_le_packedBlocksLength header
      have htotal : Block.packedBlocksLength (width :: header) - (width :: header).length =
          Block.packedLength width.toNat +
            (Block.packedBlocksLength header - header.length) := by
        rw [Block.packedBlocksLength, List.length_cons]
        omega
      rw [List.length_drop] at hfits
      refine ⟨List.forall_mem_cons.mpr ⟨hwidth, hwidths⟩, ?_, ?_, ?_⟩
      · rw [List.length_append, hlength, hvalues, List.length_cons]
        ring
      · omega
      · rw [htail, htotal, List.drop_drop]

end Decoder

/-! ## Extents -/

/-- The record at the front of a byte string can be drained, and draining takes `length` bytes: the
header lies in the bytes and announces legal widths, the decoder comes to the end of the record
inside of the bytes, and no varint behind the blocks is longer than a word may be. -/
structure Drains (bytes : Bytes) (headerLength count : Nat) (delta : Bool) (buffer : List UInt64)
    (length : Nat) : Prop where
  parts : ∃ header body, cut? headerLength bytes = some (header, body) ∧
    (∀ width ∈ header, width.toNat ≤ maxBitWidth) ∧
    ∃ lengths, Varint.lengths? (count - headerLength * blockSize)
        (body.drop (Block.packedBlocksLength header - headerLength)) = some lengths ∧
      ∀ one ∈ lengths, one ≤ Varint.maxLength
  drained : ∃ decoder blocks last,
    Decoder.ofRecord bytes headerLength count delta = .ok decoder ∧
    decoder.drain buffer = .ok ⟨blocks, last⟩ ∧
    length ≤ bytes.length ∧ last.rest = bytes.drop length

/-- A record whose extent was found can be drained, and draining it takes that many bytes. -/
theorem drains_of_extent? {bytes : Bytes} {headerLength count length : Nat}
    (h : extent? bytes headerLength count = some length)
    (hheader : headerLength * blockSize ≤ count) (delta : Bool) (buffer : List UInt64) :
    Drains bytes headerLength count delta buffer length := by
  obtain ⟨values, rfl, hlength, decoder, hdecoder, hyields⟩ := exists_holds h hheader delta
  obtain ⟨header, body, tailLength, hcut, hwidths, -, hmeasure, -⟩ := extent?_eq_some_iff.mp h
  obtain ⟨lengths, hlengths, hlimits, -⟩ := Varint.measure?_eq_some_iff.mp hmeasure
  have hfits : decoder.Fits := by
    simp only [Decoder.ofRecord, hcut, Except.ok.injEq] at hdecoder
    subst hdecoder
    rwa [(eq_append_of_cut? hcut).1] at hheader
  obtain ⟨blocks, last, hdrain, -, -, hrest, -⟩ := hyields.drain hfits buffer
  exact ⟨⟨header, body, hcut, hwidths, lengths, hlengths, hlimits⟩,
    ⟨decoder, blocks, last, hdecoder, hdrain, hlength, hrest⟩⟩

/-- A record that can be drained has an extent. -/
theorem exists_extent?_of_drain {bytes : Bytes} {headerLength count : Nat} {delta : Bool}
    {decoder : Decoder} {buffer : List UInt64} {drained : Decoder.Drained}
    (hheader : headerLength * blockSize ≤ count)
    (hdecoder : Decoder.ofRecord bytes headerLength count delta = .ok decoder)
    (hdrain : decoder.drain buffer = .ok drained) :
    ∃ length, extent? bytes headerLength count = some length := by
  unfold Decoder.ofRecord at hdecoder
  split at hdecoder
  case h_1 hshort => simp at hdecoder
  case h_2 header body hcut =>
    obtain rfl := Except.ok.inj hdecoder
    obtain ⟨rfl, -⟩ := eq_append_of_cut? hcut
    have hfits : Decoder.Fits ⟨header, body, count, delta, 0⟩ := hheader
    obtain ⟨blocks, tail, hblocks, hrun⟩ := Decoder.leaves_of_drain hfits hdrain
    obtain ⟨hwidths, hvalues, hinside, rfl⟩ := hblocks.inversion
    obtain ⟨front, -, -, -, hmeasure, -⟩ := Varint.split_of_readRun hrun
    rw [hvalues] at hmeasure
    exact ⟨_, extent?_eq_some_iff.mpr
      ⟨header, body, front.length, hcut, hwidths, hinside, hmeasure, rfl⟩⟩

/-- An extent is found exactly if the record can be drained, and is what draining takes. -/
theorem drains_iff {bytes : Bytes} {headerLength count length : Nat}
    (hheader : headerLength * blockSize ≤ count) (delta : Bool) (buffer : List UInt64) :
    extent? bytes headerLength count = some length ↔
      Drains bytes headerLength count delta buffer length := by
  constructor
  · intro h
    exact drains_of_extent? h hheader delta buffer
  · rintro ⟨-, decoder, blocks, last, hdecoder, hdrain, hlength, hrest⟩
    obtain ⟨found, hfound⟩ := exists_extent?_of_drain hheader hdecoder hdrain
    obtain ⟨-, decoder', blocks', last', hdecoder', hdrain', hlength', hrest'⟩ :=
      drains_of_extent? hfound hheader delta buffer
    -- there is one decoder and one way to drain it, so that both lengths leave the same bytes
    obtain rfl := Except.ok.inj (hdecoder.symm.trans hdecoder')
    obtain ⟨-, rfl⟩ := Decoder.Drained.mk.inj (Except.ok.inj (hdrain.symm.trans hdrain'))
    have hsame := congrArg List.length (hrest.symm.trans hrest')
    rw [List.length_drop, List.length_drop] at hsame
    rw [hfound]
    congr 1
    omega

/-- The extent of a record is exact. On any bytes it is found if and only if the record can be
drained, with a header of one width for each full block or with none, whether values are gaps or
not, and whatever the buffer holds; it is then the number of bytes that draining takes. On a record
that was written it is the length of the record, whatever follows. -/
theorem extent?_exact :
    (∀ (bytes : Bytes) (layout : Layout) (count length : Nat) (delta : Bool)
        (buffer : List UInt64),
      extent? bytes (layout.headerLength count) count = some length ↔
        Drains bytes (layout.headerLength count) count delta buffer length) ∧
    ∀ (layout : Layout) (values : List UInt64) (following : Bytes),
      extent? (encode layout values ++ following) (layout.headerLength values.length)
        values.length = some (encode layout values).length :=
  ⟨fun _ layout count _ delta buffer => drains_iff (layout.headerLength_mul_le count) delta buffer,
    extent?_encode⟩

end CompactAdjacency.Record
