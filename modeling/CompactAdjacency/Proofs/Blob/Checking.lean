import Mathlib
import CompactAdjacency.Proofs.Blob.Reading
import CompactAdjacency.Proofs.Cursor.Neighbors
import CompactAdjacency.Proofs.Cursor.Values

/-!
# What the check of a blob is worth

`Blob.problem?` walks every record that the directory points to. A blob without a problem therefore
holds neighbors for every node and values for every channel of it, whatever its bytes are. So both
cursors on the structure of an accepted blob are places in lists whose lengths are the degrees, and
`ofBytes_readsSafely` says what follows: after it is positioned a cursor never ends in a fault.
-/

namespace CompactAdjacency

/-- A node has neighbors only if it is in range. -/
theorem Directory.lt_nodeCount_of_degree {directory : Directory} {node : Nat}
    (h : directory.degree node ≠ 0) : node < directory.nodeCount := by
  by_contra hge
  apply h
  have hnone : directory.degrees[node]? = none :=
    Array.getElem?_eq_none (Nat.not_lt.mp hge)
  rw [degree, hnone]
  rfl

/-- As many bytes as some values take are the bytes of values. -/
theorem Record.exists_flatMap_toBytes {count : Nat} {bytes : Bytes}
    (h : count * Binary64.byteCount ≤ bytes.length) :
    ∃ (values : List Binary64) (rest : Bytes), values.length = count ∧
      bytes = values.flatMap Binary64.toBytes ++ rest := by
  induction count generalizing bytes with
  | zero => exact ⟨[], bytes, rfl, rfl⟩
  | succ count ih =>
      have hone : Binary64.byteCount ≤ bytes.length := by
        rw [Nat.succ_mul] at h
        omega
      have hothers : count * Binary64.byteCount ≤ (bytes.drop Binary64.byteCount).length := by
        rw [List.length_drop]
        rw [Nat.succ_mul] at h
        omega
      obtain ⟨values, rest, hlength, hrest⟩ := ih hothers
      have hfront : (bytes.take Binary64.byteCount).length = 8 :=
        List.length_take_of_le hone
      have hbytes : (⟨(ofLittleEndian (bytes.take 8)).toUInt64⟩ : Binary64).toBytes =
          bytes.take Binary64.byteCount := by
        rw [Binary64.toBytes, toNat_ofLittleEndian_take]
        have := littleEndian_ofLittleEndian (bytes.take Binary64.byteCount)
        rwa [hfront] at this
      refine ⟨⟨(ofLittleEndian (bytes.take 8)).toUInt64⟩ :: values, rest, congrArg (· + 1) hlength,
        ?_⟩
      rw [List.flatMap_cons, hbytes, List.append_assoc, ← hrest, List.take_append_drop]

/-- Channel records that were measured hold values in every channel. -/
theorem Record.exists_holdsChannel_packed {bytes : Bytes} {degree count channel length : Nat}
    (h : extents? bytes (Layout.packed.headerLength degree) degree count = some length)
    (hchannel : channel < count) :
    ∃ values rest, values.length = degree ∧ Lists.skipPacked degree channel bytes = .ok rest ∧
      HoldsChannel .packed rest values := by
  obtain ⟨rest, hskip, hextent⟩ := skipPacked_of_extents? h hchannel
  obtain ⟨extent, hextent⟩ := Option.isSome_iff_exists.mp hextent
  obtain ⟨words, hcount, -, hholds⟩ :=
    exists_holds hextent (Layout.headerLength_mul_le _ _) false
  have hwords : (words.map Binary64.mk).map Binary64.bits = words := by
    rw [List.map_map]
    exact List.map_id words
  refine ⟨words.map Binary64.mk, rest, ?_, hskip, rest.drop extent, ?_⟩
  · rw [List.length_map, hcount]
  · rw [hwords, List.length_map, hcount]
    exact hholds

/-- As many bytes as all channels take hold values in every channel. -/
theorem Record.exists_holdsChannel_varint {bytes : Bytes} {degree count channel : Nat}
    (h : count * (degree * Binary64.byteCount) ≤ bytes.length) (hchannel : channel < count) :
    ∃ values front rest, values.length = degree ∧
      cut? (channel * degree * Binary64.byteCount) bytes = some (front, rest) ∧
      HoldsChannel .varint rest values := by
  have hnext : (channel + 1) * (degree * Binary64.byteCount) ≤ bytes.length :=
    (Nat.mul_le_mul_right _ hchannel).trans h
  rw [Nat.succ_mul, ← Nat.mul_assoc] at hnext
  have hbehind : degree * Binary64.byteCount ≤
      (bytes.drop (channel * degree * Binary64.byteCount)).length := by
    rw [List.length_drop]
    omega
  obtain ⟨values, rest, hcount, hrest⟩ := exists_flatMap_toBytes hbehind
  exact ⟨values, _, _, hcount, (cut?_eq _ _).trans (if_pos (le_of_add_le_left hnext)), rest, hrest⟩

namespace Blob

variable {blob : Blob}

/-! ## One node -/

/-- Where a column leads to bytes that pass a test, an address is found and the bytes behind it. -/
theorem leadsTo_eq_true {arena : Arena} {column : Array Address} {node : Nat}
    {test : Bytes → Bool} (h : leadsTo arena column node test = true) :
    ∃ address bytes, Directory.lookup column node = .ok address ∧
      arena.bytesAt address = .ok bytes ∧ test bytes = true := by
  unfold leadsTo at h
  cases hbytes : column[node]?.bind arena.bytesAt? with
  | none => simp [hbytes] at h
  | some bytes =>
      obtain ⟨address, haddress, hat⟩ := Option.bind_eq_some_iff.mp hbytes
      refine ⟨address, bytes, ?_, ?_, ?_⟩
      · simp only [Directory.lookup, haddress]
      · simp only [Arena.bytesAt, hat]
      · simpa [hbytes] using h

/-- What the check of one node says about it. -/
theorem fits_of_nodeProblem? {node : Nat} (h : blob.nodeProblem? node = none)
    (hdegree : blob.directory.degree node ≠ 0) :
    blob.adjacencyFits node = true ∧
      ∀ arena, blob.properties = some arena → blob.propertiesFit arena node = true := by
  unfold nodeProblem? at h
  rw [if_neg hdegree] at h
  cases hfits : blob.adjacencyFits node with
  | false => simp [hfits] at h
  | true =>
      refine ⟨rfl, ?_⟩
      intro arena harena
      simpa [hfits, harena] using h

/-- In a blob without a problem every node passes the check. -/
theorem nodeProblem?_of_problem? (h : blob.problem? = none) {node : Nat}
    (hnode : node < blob.directory.nodeCount) : blob.nodeProblem? node = none := by
  unfold problem? at h
  split at h
  case isTrue hchannels => simp at h
  split at h
  case isTrue harrays => simp at h
  split at h
  case isTrue hrelationships => simp at h
  exact List.findSome?_eq_none_iff.mp h node (List.mem_range.mpr hnode)

/-- The declared numbers of a blob without a problem agree with each other. -/
theorem declared_of_problem? (h : blob.problem? = none) :
    (blob.properties.isSome ↔ blob.channelCount > 0) ∧ blob.directory.isAligned = true ∧
      blob.directory.relationshipCount = blob.relationshipCount.toNat := by
  unfold problem? at h
  split at h
  case isTrue hchannels => simp at h
  case isFalse hchannels =>
    split at h
    case isTrue harrays => simp at h
    case isFalse harrays =>
      split at h
      case isTrue hrelationships => simp at h
      case isFalse hrelationships =>
        refine ⟨?_, by simpa using harrays, not_not.mp hrelationships⟩
        rw [not_not] at hchannels
        exact iff_of_eq hchannels

/-! ## Records -/

/-- A blob without a problem stores gaps for every node. -/
theorem exists_holdsGaps (h : blob.problem? = none) (node : Nat) :
    ∃ gaps, blob.toLists.HoldsGaps node gaps := by
  by_cases hdegree : blob.directory.degree node = 0
  · exact ⟨[], hdegree, fun hne => absurd rfl hne⟩
  · have hnode := nodeProblem?_of_problem? h (Directory.lt_nodeCount_of_degree hdegree)
    obtain ⟨address, bytes, haddress, hbytes, htest⟩ :=
      leadsTo_eq_true (fits_of_nodeProblem? hnode hdegree).1
    obtain ⟨length, hlength⟩ := Option.isSome_iff_exists.mp htest
    obtain ⟨gaps, hcount, -, hholds⟩ :=
      Record.exists_stored hlength (Layout.headerLength_mul_le _ _)
    refine ⟨gaps, hcount.symm, fun _ => ⟨bytes, bytes.drop length, ?_, ?_⟩⟩
    · exact Lists.record_of_lookup hdegree haddress hbytes
    · rw [hcount]
      exact hholds

/-- So it holds neighbors for every node. -/
theorem exists_holdsNeighbors (h : blob.problem? = none) (node : Nat) :
    ∃ targets, blob.toLists.HoldsNeighbors node targets := by
  obtain ⟨gaps, hgaps⟩ := exists_holdsGaps h node
  exact ⟨_, hgaps.holdsNeighbors⟩

/-- A blob without a problem holds values for every node in every channel it declares. -/
theorem exists_holdsValues (h : blob.problem? = none) {arena : Arena}
    (harena : blob.properties = some arena) (node : Nat) {channel : Nat}
    (hchannel : channel < blob.channelCount.toNat) :
    ∃ values, blob.toLists.HoldsValues ⟨arena, blob.channelCount⟩ node channel values := by
  by_cases hdegree : blob.directory.degree node = 0
  · exact ⟨[], hdegree, fun hne => absurd rfl hne⟩
  · have hnode := nodeProblem?_of_problem? h (Directory.lt_nodeCount_of_degree hdegree)
    obtain ⟨address, bytes, haddress, hbytes, htest⟩ :=
      leadsTo_eq_true ((fits_of_nodeProblem? hnode hdegree).2 arena harena)
    -- the layout of the node decides which of the two walks the check took
    have hlayout : blob.toLists.layout node = blob.rule.layout (blob.directory.degree node) := rfl
    cases hcase : blob.rule.layout (blob.directory.degree node) with
    | packed =>
        rw [hcase] at htest hlayout
        obtain ⟨length, hlength⟩ := Option.isSome_iff_exists.mp htest
        obtain ⟨values, rest, hcount, hskip, hholds⟩ :=
          Record.exists_holdsChannel_packed hlength hchannel
        refine ⟨values, hcount.symm, fun _ => ⟨rest, ?_, hlayout ▸ hholds⟩⟩
        exact Lists.channelRecord_of_packed hdegree haddress hbytes hlayout hskip
    | varint =>
        rw [hcase] at htest hlayout
        obtain ⟨values, front, rest, hcount, hcut, hholds⟩ :=
          Record.exists_holdsChannel_varint (by simpa using htest) hchannel
        refine ⟨values, hcount.symm, fun _ => ⟨rest, ?_, hlayout ▸ hholds⟩⟩
        exact Lists.channelRecord_of_varint hdegree haddress hbytes hlayout hcut

end Blob

end CompactAdjacency
