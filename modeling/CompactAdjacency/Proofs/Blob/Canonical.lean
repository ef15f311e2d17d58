import Mathlib
import CompactAdjacency.Proofs.Blob.Safety

/-!
# A structure has one blob

A reader takes a front off a byte string and looks at nothing behind it, and it refuses bytes that
are too few for no other reason than that. `Streaming` states both of one reader; chains of readers
inherit it, so that every lemma below follows a reader through the fields it reads. As what was read
is also what is written for it, `Blob.read_inverts`, the blob of an accepted structure is the front
of the bytes it was accepted from, and nothing shorter is accepted: `Lists.ofBytes_canonical`.
-/

namespace CompactAdjacency

namespace Blob

variable {α β : Type} {read : Reader α}

/-! ## Readers that look no further than they read -/

/-- What a reader takes off is a front of the bytes, which it would take off whatever came after it,
and what it refuses it refuses with more bytes as well, unless there were too few. -/
structure Streaming (read : Reader α) : Prop where
  front : ∀ bytes value rest, read bytes = .ok (value, rest) →
    ∃ front, bytes = front ++ rest ∧ ∀ more, read (front ++ more) = .ok (value, more)
  refusal : ∀ bytes cause more, read bytes = .error cause → cause ≠ .unexpectedEnd →
    read (bytes ++ more) = .error cause

/-- More bytes are left over. -/
theorem Streaming.append (h : Streaming read) {bytes rest : Bytes} {value : α}
    (hread : read bytes = .ok (value, rest)) (more : Bytes) :
    read (bytes ++ more) = .ok (value, rest ++ more) := by
  obtain ⟨front, rfl, hfront⟩ := h.front bytes value rest hread
  rw [List.append_assoc]
  exact hfront (rest ++ more)

/-- Where a reader takes all of the bytes, it finds too few in every shorter front of them. -/
theorem Streaming.unexpectedEnd (h : Streaming read) {front back : Bytes} {value : α}
    (hread : read (front ++ back) = .ok (value, [])) (hback : back ≠ []) :
    read front = .error .unexpectedEnd := by
  cases hfront : read front with
  | ok result =>
      obtain ⟨value', rest⟩ := result
      have hmore := (h.append hfront back).symm.trans hread
      have hnil : rest ++ back = [] := (Prod.mk.inj (Except.ok.inj hmore)).2
      exact absurd (List.append_eq_nil_iff.mp hnil).2 hback
  | error cause =>
      by_contra hcause
      have hmore := h.refusal front cause back hfront fun hend => hcause (hend ▸ rfl)
      rw [hread] at hmore
      simp at hmore

/-- Answering without reading. -/
theorem streaming_pure (value : α) : Streaming (fun bytes => pure (value, bytes)) := by
  refine ⟨?_, by simp [pure, Except.pure]⟩
  intro bytes value' rest hread
  obtain ⟨rfl, rfl⟩ := Prod.mk.inj (pure_eq_ok_iff.mp hread)
  exact ⟨[], rfl, fun more => rfl⟩

/-- Refusing without reading. -/
theorem streaming_error (cause : BlobCause) : Streaming (fun _ => .error cause : Reader α) :=
  ⟨by simp, fun _ _ _ hread _ => hread⟩

/-- Reading one value and, depending on it, another one. -/
theorem Streaming.bind {next : α → Reader β} (hread : Streaming read)
    (hnext : ∀ value, Streaming (next value)) :
    Streaming fun bytes => read bytes >>= fun result => next result.1 result.2 := by
  constructor
  · intro bytes value rest h
    obtain ⟨⟨first, middle⟩, hfirst, hsecond⟩ := bind_eq_ok_iff.mp h
    obtain ⟨front, rfl, hfront⟩ := hread.front bytes first middle hfirst
    obtain ⟨back, rfl, hback⟩ := (hnext first).front middle value rest hsecond
    refine ⟨front ++ back, (List.append_assoc front back rest).symm, ?_⟩
    intro more
    rw [List.append_assoc, hfront]
    exact hback more
  · intro bytes cause more h hcause
    refine bind_eq_error_iff.mpr ?_
    rcases bind_eq_error_iff.mp h with hfirst | ⟨⟨first, middle⟩, hfirst, hsecond⟩
    · exact .inl (hread.refusal bytes cause more hfirst hcause)
    · exact .inr ⟨_, hread.append hfirst more,
        (hnext first).refusal middle cause more hsecond hcause⟩

/-! ## The readers of a blob -/

/-- Cutting off so many bytes. -/
theorem streaming_cut (count : Nat) (make : Bytes → α) :
    Streaming fun bytes =>
      match cut? count bytes with
      | none => .error .unexpectedEnd
      | some (front, rest) => .ok (make front, rest) := by
  constructor
  · intro bytes value rest h
    split at h
    case h_1 hcut => simp at h
    case h_2 front rest' hcut =>
      obtain ⟨rfl, rfl⟩ := Prod.mk.inj (Except.ok.inj h)
      obtain ⟨rfl, rfl⟩ := eq_append_of_cut? hcut
      exact ⟨front, rfl, fun more => by simp only [cut?_append]⟩
  · intro bytes cause more h hcause
    split at h
    case h_1 hcut => exact absurd (Except.error.inj h).symm hcause
    case h_2 front rest hcut => simp at h

theorem streaming_readNumber (width : Nat) : Streaming (readNumber width) :=
  streaming_cut width ofLittleEndian

theorem streaming_readMany (hread : Streaming read) (count : Nat) :
    Streaming (readMany read count) := by
  induction count with
  | zero => exact streaming_pure []
  | succ count ih =>
      exact hread.bind fun item => ih.bind fun items => streaming_pure (item :: items)

theorem streaming_readList (hread : Streaming read) : Streaming (readList read) :=
  (streaming_readNumber 8).bind fun count => streaming_readMany hread count

theorem streaming_readPage : Streaming readPage :=
  (streaming_readNumber 8).bind fun length => streaming_cut length id

theorem streaming_readArena : Streaming readArena :=
  (streaming_readList streaming_readPage).bind fun pages => streaming_pure (Arena.mk pages)

theorem streaming_readAddress : Streaming readAddress :=
  (streaming_readNumber 8).bind fun word => streaming_pure (Address.ofWord word.toUInt64)

theorem streaming_readDegree : Streaming readDegree :=
  (streaming_readNumber 4).bind fun degree => streaming_pure degree.toUInt32

theorem streaming_readDirectory : Streaming readDirectory :=
  (streaming_readList streaming_readDegree).bind fun degrees =>
    (streaming_readList streaming_readAddress).bind fun adjacency =>
      (streaming_readList streaming_readAddress).bind fun properties =>
        streaming_pure
          (Directory.mk degrees.toArray adjacency.toArray properties.toArray)

/-- A tag that stands for no strategy is refused, whatever follows it. -/
theorem streaming_threshold (tag : Nat) :
    Streaming (fun bytes =>
      match Strategy.ofTag? tag with
      | none => .error (.unknownStrategy tag)
      | some strategy => do
          let (threshold, bytes) ← readNumber 8 bytes
          pure (LayoutRule.mk strategy threshold.toUInt64, bytes)) := by
  cases Strategy.ofTag? tag with
  | none => exact streaming_error (.unknownStrategy tag)
  | some strategy =>
      exact (streaming_readNumber 8).bind fun threshold =>
        streaming_pure (LayoutRule.mk strategy threshold.toUInt64)

theorem streaming_readRule : Streaming readRule :=
  (streaming_readNumber 4).bind streaming_threshold

/-- A number that is neither that of an absent arena nor that of one present is refused. -/
theorem streaming_option (tag : Nat) :
    Streaming (fun bytes =>
      match tag with
      | 0 => pure (none, bytes)
      | 1 => do
          let (arena, bytes) ← readArena bytes
          pure (some arena, bytes)
      | _ => .error (.unknownOption tag)) := by
  split
  case h_1 => exact streaming_pure none
  case h_2 => exact streaming_readArena.bind fun arena => streaming_pure (some arena)
  case h_3 => exact streaming_error (.unknownOption tag)

theorem streaming_readProperties : Streaming readProperties :=
  (streaming_readNumber 1).bind streaming_option

theorem streaming_read : Streaming Blob.read :=
  streaming_readRule.bind fun rule =>
    (streaming_readNumber 8).bind fun relationshipCount =>
      (streaming_readNumber 8).bind fun channelCount =>
        streaming_readDirectory.bind fun directory =>
          streaming_readArena.bind fun adjacency =>
            streaming_readProperties.bind fun properties =>
              streaming_pure
                (Blob.mk rule relationshipCount.toUInt64 channelCount.toUInt64 directory adjacency
                  properties)

/-- The blob of what was read, at the front of any bytes, is read as the same again. -/
theorem read_write_append {bytes rest : Bytes} {blob : Blob}
    (h : Blob.read bytes = .ok (blob, rest)) (more : Bytes) :
    Blob.read (blob.write ++ more) = .ok (blob, more) := by
  obtain ⟨front, hbytes, hfront⟩ := streaming_read.front bytes blob rest h
  have hwrite : blob.write = front :=
    List.append_cancel_right ((read_inverts _ _ _ h).symm.trans hbytes)
  rw [hwrite]
  exact hfront more

end Blob

/-! ## Accepted bytes -/

namespace Lists

variable {bytes : Bytes} {lists : Lists}

/-- Bytes are accepted exactly if a blob without a problem is read off their front. -/
theorem ofBytes_eq_ok_iff :
    ofBytes bytes = .ok lists ↔
      ∃ blob rest, Blob.read bytes = .ok (blob, rest) ∧ blob.problem? = none ∧
        blob.toLists = lists := by
  unfold ofBytes
  cases Blob.read bytes with
  | error cause => simp
  | ok result =>
      obtain ⟨blob, rest⟩ := result
      cases hproblem : blob.problem? with
      | some cause => simp [hproblem]
      | none => simp [hproblem]

/-- The bytes that a structure was accepted from begin with the blob of the structure, and may go
on as they like. The blob alone is accepted as well, and no shorter front of it. -/
theorem ofBytes_canonical (h : ofBytes bytes = .ok lists) :
    lists.toBytes <+: bytes ∧ ofBytes lists.toBytes = .ok lists ∧
      (∀ more, ofBytes (bytes ++ more) = .ok lists) ∧
      ∀ front, front <+: lists.toBytes → front ≠ lists.toBytes →
        ofBytes front = .error (.blob .unexpectedEnd) := by
  obtain ⟨blob, rest, hread, hproblem, rfl⟩ := ofBytes_eq_ok_iff.mp h
  have hwrite : blob.toLists.toBytes = blob.write := by
    rw [toBytes, Blob.ofLists_toLists hproblem]
  have hbytes : bytes = blob.write ++ rest := Blob.read_inverts _ _ _ hread
  have hblob : Blob.read blob.write = .ok (blob, []) := by
    simpa using Blob.read_write_append hread []
  rw [hwrite]
  refine ⟨⟨rest, hbytes.symm⟩, ofBytes_eq_ok_iff.mpr ⟨blob, [], hblob, hproblem, rfl⟩, ?_, ?_⟩
  · intro more
    exact ofBytes_eq_ok_iff.mpr
      ⟨blob, rest ++ more, Blob.streaming_read.append hread more, hproblem, rfl⟩
  · rintro front ⟨back, hback⟩ hshort
    have hne : back ≠ [] := fun hnil => hshort (by simpa [hnil] using hback)
    have hend := Blob.streaming_read.unexpectedEnd (hback ▸ hblob) hne
    rw [ofBytes, hend]

/-- The blob of 64 parallel relationships, without the bytes after it and without its last byte. -/
theorem ofBytes_canonical_parallelZeros :
    ofBytes (parallelZeros.toBytes ++ [1, 2, 3]) = .ok parallelZeros ∧
      ofBytes parallelZeros.toBytes = .ok parallelZeros ∧
      parallelZeros.toBytes.dropLast <+: parallelZeros.toBytes ∧
      parallelZeros.toBytes.dropLast ≠ parallelZeros.toBytes ∧
      ofBytes parallelZeros.toBytes.dropLast = .error (.blob .unexpectedEnd) := by
  have haccepted : ofBytes (parallelZeros.toBytes ++ [1, 2, 3]) = .ok parallelZeros := by
    decide +kernel
  have hstrict : parallelZeros.toBytes.dropLast ≠ parallelZeros.toBytes := by
    decide +kernel
  obtain ⟨-, hexact, -, hshort⟩ := ofBytes_canonical haccepted
  have hfront := List.dropLast_prefix parallelZeros.toBytes
  exact ⟨haccepted, hexact, hfront, hstrict, hshort _ hfront hstrict⟩

end Lists

end CompactAdjacency
