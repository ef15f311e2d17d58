import Mathlib
import CompactAdjacency.Lists
import CompactAdjacency.Proofs.Record.Decoding

/-!
# Finding a channel in a property record

The channels of a property record follow each other without a separator. A packed channel is found
by skipping the ones before it, which `skipPacked_succ` takes one at a time: where `extent?` finds
an extent, skipping comes to the same place. The two walk over a record by different code, the one
measuring every varint and the other only looking for its last byte. An unpacked channel is found by
its offset. Both are stated for what was written, `skipPacked_encodeChannels` and
`encodeChannels_drop`, and for untrusted bytes, `skipPacked_of_extents?`.
-/

namespace CompactAdjacency.Record

/-- The record of a channel at the front of a byte string holds the given values. -/
def HoldsChannel : Layout → Bytes → List Binary64 → Prop
  | .packed, bytes, values =>
      ∃ rest, Holds bytes (Layout.packed.headerLength values.length) false
        (values.map Binary64.bits) rest
  | .varint, bytes, values => ∃ rest, bytes = values.flatMap Binary64.toBytes ++ rest

@[simp] theorem length_toBytes (value : Binary64) : value.toBytes.length = Binary64.byteCount :=
  length_littleEndian 8 _

/-- Unpacked values take eight bytes each. -/
theorem length_flatMap_toBytes (values : List Binary64) :
    (values.flatMap Binary64.toBytes).length = values.length * Binary64.byteCount := by
  simp [List.length_flatMap]

/-! ## Skipping packed channels -/

/-- Skipping a record ends where its extent ends. -/
theorem skipPacked_succ {bytes : Bytes} {degree length : Nat}
    (h : extent? bytes (Layout.packed.headerLength degree) degree = some length) (count : Nat) :
    Lists.skipPacked degree (count + 1) bytes =
      Lists.skipPacked degree count (bytes.drop length) := by
  obtain ⟨header, body, tailLength, hcut, hwidths, hfits, hmeasure, rfl⟩ :=
    extent?_eq_some_iff.mp h
  obtain ⟨hheader, rfl⟩ := eq_append_of_cut? hcut
  have hle := Block.length_le_packedBlocksLength header
  have hdrop : (header ++ body).drop (Block.packedBlocksLength header) =
      body.drop (Block.packedBlocksLength header - Layout.packed.headerLength degree) := by
    rw [List.drop_append, List.drop_eq_nil_of_le hle, List.nil_append, hheader]
  have hcount : degree - Layout.packed.headerLength degree * blockSize = degree % blockSize := by
    rw [Nat.mod_eq_sub_div_mul, Layout.headerLength]
  rw [hcount] at hmeasure
  obtain ⟨rest, hrest⟩ := Varint.exists_readRun hmeasure
  obtain ⟨front, -, -, -, hmeasure', hskip⟩ := Varint.split_of_readRun hrest
  obtain rfl : front.length = tailLength := Option.some.inj (hmeasure'.symm.trans hmeasure)
  have hblocks : Block.packedBlocksLength header ≤ (header ++ body).length := by
    rw [List.length_append]
    omega
  simp only [Lists.skipPacked, hcut, Block.packedBlocksLength?_eq hwidths, cut?_eq,
    if_pos hblocks, hdrop, hskip, bind, Except.bind]
  rw [← hdrop, List.drop_drop]

/-- In untrusted bytes with the extents of several records, every one of them is found. -/
theorem skipPacked_of_extents? {bytes : Bytes} {degree channels length : Nat}
    (h : extents? bytes (Layout.packed.headerLength degree) degree channels = some length)
    {channel : Nat} (hchannel : channel < channels) :
    ∃ rest, Lists.skipPacked degree channel bytes = .ok rest ∧
      (extent? rest (Layout.packed.headerLength degree) degree).isSome := by
  induction channels generalizing bytes length channel with
  | zero => omega
  | succ channels ih =>
      simp only [extents?, bind, Option.bind_eq_some_iff] at h
      obtain ⟨first, hfirst, others, hothers, -⟩ := h
      -- skipping a channel leaves the bytes that the next extent was found in
      cases channel with
      | zero => exact ⟨bytes, rfl, Option.isSome_of_eq_some hfirst⟩
      | succ channel =>
          rw [skipPacked_succ hfirst]
          exact ih hothers (by omega)

/-- The channels of a written record take the bytes that were written. -/
theorem extents?_encodeChannels {degree : Nat} {channels : List (List Binary64)}
    (hdegree : ∀ values ∈ channels, degree ≤ values.length) (rest : Bytes) :
    extents? (encodeChannels .packed degree channels ++ rest)
      (Layout.packed.headerLength degree) degree channels.length =
        some (encodeChannels .packed degree channels).length := by
  induction channels with
  | nil => rfl
  | cons values channels ih =>
      have hlength : ((values.take degree).map Binary64.bits).length = degree := by
        simpa using hdegree values (by simp)
      have hextent := extent?_encode .packed ((values.take degree).map Binary64.bits)
        (encodeChannels .packed degree channels ++ rest)
      rw [hlength] at hextent
      have hothers := ih fun other hother => hdegree other (List.mem_cons_of_mem _ hother)
      have hbytes : encodeChannels .packed degree (values :: channels) =
          encode .packed ((values.take degree).map Binary64.bits) ++
            encodeChannels .packed degree channels := by
        simp only [encodeChannels, List.flatMap_cons, encodeChannel, encode]
      rw [hbytes, List.append_assoc, List.length_cons, extents?, hextent, Option.bind_eq_bind,
        Option.bind_some, List.drop_left, hothers, List.length_append]
      rfl

/-- In a written record every channel is found. -/
theorem skipPacked_encodeChannels {degree : Nat} {channels : List (List Binary64)}
    (hdegree : ∀ values ∈ channels, degree ≤ values.length) {channel : Nat}
    (hchannel : channel ≤ channels.length) (rest : Bytes) :
    Lists.skipPacked degree channel (encodeChannels .packed degree channels ++ rest) =
      .ok (encodeChannels .packed degree (channels.drop channel) ++ rest) := by
  induction channel generalizing channels with
  | zero => rfl
  | succ channel ih =>
      cases channels with
      | nil => simp at hchannel
      | cons values channels =>
          have hlength : ((values.take degree).map Binary64.bits).length = degree := by
            simpa using hdegree values (by simp)
          have hextent := extent?_encode .packed ((values.take degree).map Binary64.bits)
            (encodeChannels .packed degree channels ++ rest)
          rw [hlength] at hextent
          have hbytes : encodeChannels .packed degree (values :: channels) ++ rest =
              encode .packed ((values.take degree).map Binary64.bits) ++
                (encodeChannels .packed degree channels ++ rest) := by
            simp only [encodeChannels, List.flatMap_cons, encodeChannel, encode, List.append_assoc]
          rw [hbytes, skipPacked_succ hextent, List.drop_left, List.drop_succ_cons]
          exact ih (fun other hother => hdegree other (by simp [hother]))
            (by simpa using hchannel)

/-! ## Unpacked channels -/

/-- Unpacked channels take eight bytes for each value. -/
theorem length_encodeChannels_varint {degree : Nat} {channels : List (List Binary64)}
    (hdegree : ∀ values ∈ channels, degree ≤ values.length) :
    (encodeChannels .varint degree channels).length =
      channels.length * (degree * Binary64.byteCount) := by
  have hsum : ∀ values ∈ channels,
      (encodeChannel .varint (values.take degree)).length = degree * Binary64.byteCount := by
    intro values hvalues
    rw [encodeChannel, length_flatMap_toBytes, List.length_take,
      Nat.min_eq_left (hdegree values hvalues)]
  rw [encodeChannels, List.length_flatMap, List.map_congr_left hsum]
  simp

/-- In a written record every unpacked channel stands at its offset. -/
theorem encodeChannels_drop {degree : Nat} {channels : List (List Binary64)}
    (hdegree : ∀ values ∈ channels, degree ≤ values.length) {channel : Nat}
    (hchannel : channel ≤ channels.length) (rest : Bytes) :
    cut? (channel * degree * Binary64.byteCount) (encodeChannels .varint degree channels ++ rest) =
      some (encodeChannels .varint degree (channels.take channel),
        encodeChannels .varint degree (channels.drop channel) ++ rest) := by
  have hlength : (encodeChannels .varint degree (channels.take channel)).length =
      channel * degree * Binary64.byteCount := by
    rw [length_encodeChannels_varint fun values hvalues =>
      hdegree values (List.mem_of_mem_take hvalues), List.length_take, Nat.min_eq_left hchannel,
      Nat.mul_assoc]
  have hsplit : encodeChannels .varint degree channels ++ rest =
      encodeChannels .varint degree (channels.take channel) ++
        (encodeChannels .varint degree (channels.drop channel) ++ rest) := by
    rw [← List.append_assoc, encodeChannels, encodeChannels, encodeChannels, ← List.flatMap_append,
      List.take_append_drop]
  rw [hsplit, ← hlength, cut?_append]

/-- The first channel of a written record holds its values. -/
theorem holdsChannel_encodeChannels (layout : Layout) (degree : Nat) (values : List Binary64)
    (channels : List (List Binary64)) (rest : Bytes) :
    HoldsChannel layout (encodeChannels layout degree (values :: channels) ++ rest)
      (values.take degree) := by
  cases layout with
  | packed =>
      refine ⟨encodeChannels .packed degree channels ++ rest, ?_⟩
      have hholds := holds_encode .packed false ((values.take degree).map Binary64.bits)
        (encodeChannels .packed degree channels ++ rest)
      rw [List.length_map] at hholds
      simpa only [encodeChannels, List.flatMap_cons, encodeChannel, encode, List.append_assoc,
        resolved, Bool.false_eq_true, if_false] using hholds
  | varint =>
      exact ⟨encodeChannels .varint degree channels ++ rest, by
        simp only [encodeChannels, List.flatMap_cons, encodeChannel, List.append_assoc]⟩

end CompactAdjacency.Record
