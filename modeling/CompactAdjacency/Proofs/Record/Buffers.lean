import Mathlib
import CompactAdjacency.Record.Buffers
import CompactAdjacency.Proofs.Coding.Buffers
import CompactAdjacency.Proofs.Coding.VarintBuffers

/-!
# What is left of a node in reused buffers

Appending a record to a buffer comes to the record behind whatever the buffer holds, and a buffer is
cleared before the records of another node are appended to it. So the records that are left in the
buffers are those of the last node, whatever was in the buffers before: `Buffers.refill?_eq`.
-/

namespace CompactAdjacency.Record

/-! ## Appending records -/

theorem encodePackedOnto?_eq (buffer : Bytes) (values : List UInt64) :
    encodePackedOnto? buffer values = .ok (buffer ++ encodePacked values) := by
  simp only [encodePackedOnto?, Block.packBlocksOnto?_eq, Varint.writeAllOnto_eq, encodePacked,
    bind, Except.bind, pure, Except.pure, List.append_assoc]

/-- A record is appended as it is written alone. -/
theorem encodeOnto?_eq (layout : Layout) (buffer : Bytes) (values : List UInt64) :
    encodeOnto? layout buffer values = .ok (buffer ++ encode layout values) := by
  cases layout with
  | packed => exact encodePackedOnto?_eq buffer values
  | varint => exact congrArg (Except.ok ·.2) (Varint.writeAllOnto_eq buffer values)

theorem firstValues?_eq {degree : Nat} {channel : List Binary64} (h : degree ≤ channel.length) :
    firstValues? degree channel = .ok (channel.take degree) :=
  if_pos h

/-! ## Buffers -/

namespace Buffers

/-- Only the words of the channel itself are packed, whatever words were packed before. -/
theorem appendPacked?_eq (buffers : Buffers) (values : List Binary64) :
    buffers.appendPacked? values =
      .ok { buffers with
        properties := buffers.properties ++ encodeChannel .packed values
        scratch := values.map Binary64.bits } := by
  simp only [appendPacked?, clearScratch, List.nil_append, encodePackedOnto?_eq, encodeChannel,
    bind, Except.bind, pure, Except.pure]

theorem appendRaw_eq (buffers : Buffers) (values : List Binary64) :
    buffers.appendRaw values =
      { buffers with properties := buffers.properties ++ encodeChannel .varint values } := by
  have hloop (output : Bytes) : values.foldl (fun output value => output ++ value.toBytes) output =
      output ++ values.flatMap Binary64.toBytes := by
    induction values generalizing output with
    | nil => simp
    | cons value values ih => rw [List.foldl_cons, ih, List.flatMap_cons, List.append_assoc]
  rw [appendRaw, hloop, encodeChannel]

/-- A channel is appended to the property record, and nothing else shows but the words it was packed
by way of. -/
theorem appendChannel?_eq (layout : Layout) {degree : Nat} (buffers : Buffers)
    {channel : List Binary64} (h : degree ≤ channel.length) :
    ∃ scratch, appendChannel? layout degree buffers channel =
      .ok { buffers with
        properties := buffers.properties ++ encodeChannel layout (channel.take degree)
        scratch := scratch } := by
  simp only [appendChannel?, firstValues?_eq h, bind, Except.bind]
  cases layout with
  | packed => exact ⟨_, appendPacked?_eq buffers (channel.take degree)⟩
  | varint => exact ⟨buffers.scratch, congrArg Except.ok (appendRaw_eq buffers _)⟩

/-- Several channels are appended one after the other. -/
theorem foldlM_appendChannel? (layout : Layout) {degree : Nat} (buffers : Buffers)
    {channels : List (List Binary64)} (h : ∀ channel ∈ channels, degree ≤ channel.length) :
    ∃ scratch, channels.foldlM (appendChannel? layout degree) buffers =
      .ok { buffers with
        properties := buffers.properties ++ encodeChannels layout degree channels
        scratch := scratch } := by
  induction channels generalizing buffers with
  | nil => exact ⟨buffers.scratch, by simp [encodeChannels, pure, Except.pure]⟩
  | cons channel channels ih =>
      obtain ⟨hchannel, hchannels⟩ := List.forall_mem_cons.mp h
      obtain ⟨words, hfirst⟩ := appendChannel?_eq layout buffers hchannel
      obtain ⟨scratch, hothers⟩ := ih { buffers with
        properties := buffers.properties ++ encodeChannel layout (channel.take degree)
        scratch := words } hchannels
      refine ⟨scratch, ?_⟩
      rw [List.foldlM_cons, hfirst]
      refine hothers.trans ?_
      simp only [encodeChannels, List.flatMap_cons, List.append_assoc]

/-- The records that the buffers hold afterwards are those of the node, and what the buffers held
before plays no part. -/
theorem refill?_eq (buffers : Buffers) (layout : Layout) (gaps : List UInt64) {degree : Nat}
    {channels : List (List Binary64)} (h : ∀ channel ∈ channels, degree ≤ channel.length) :
    ∃ scratch, buffers.refill? layout gaps channels degree =
      .ok ⟨encode layout gaps, encodeChannels layout degree channels, scratch⟩ := by
  obtain ⟨scratch, hchannels⟩ :=
    foldlM_appendChannel? layout ⟨encode layout gaps, [], buffers.scratch⟩ h
  refine ⟨scratch, ?_⟩
  simp only [refill?, clearAdjacency, clearProperties, encodeOnto?_eq, List.nil_append, bind,
    Except.bind]
  exact hchannels

end Buffers

end CompactAdjacency.Record
