import Mathlib
import CompactAdjacency.Proofs.Blob.Canonical

/-!
# What an accepted blob can declare

The numbers that a blob declares are whatever its writer chose. But a block of 64 values takes a
byte for its width even if it takes none for its values, and a varint takes a byte at least, so that
a record holds at most 64 values for each of its bytes: `Record.count_le_of_extent?`. Every channel
record of a node with relationships therefore takes a byte of its own, and `Record.walk`, which goes
over as many of them as the blob declares, gives up soon after it has used up the bytes:
`Record.walk_rounds`. `Lists.ofBytes_bounds_declared` says how much this leaves for a blob to
declare.
-/

namespace CompactAdjacency

/-! ## Records -/

/-- A measured run takes at least a byte for each number, and no more bytes than there are. -/
theorem Varint.count_le_of_measure? {count length : Nat} {bytes : Bytes}
    (h : measure? count bytes = some length) : count ≤ length ∧ length ≤ bytes.length := by
  obtain ⟨rest, hrest⟩ := exists_readRun h
  obtain ⟨front, rfl, hcount, -, hmeasure, -⟩ := split_of_readRun hrest
  obtain rfl : front.length = length := Option.some.inj (hmeasure.symm.trans h)
  exact ⟨hcount, by simp⟩

namespace Record

variable {bytes : Bytes} {headerLength count channels length start : Nat}

/-- A record holds at most 64 values for each of its bytes. -/
theorem count_le_of_extent? (h : extent? bytes headerLength count = some length) :
    count ≤ 64 * length := by
  obtain ⟨header, body, tailLength, hcut, -, -, hmeasure, rfl⟩ := extent?_eq_some_iff.mp h
  have hheader : headerLength = header.length := (eq_append_of_cut? hcut).1
  have hblocks := Block.length_le_packedBlocksLength header
  have htail := (Varint.count_le_of_measure? hmeasure).1
  unfold blockSize at htail
  omega

/-- So the record of a node with relationships takes a byte at least. -/
theorem length_pos_of_extent? (h : extent? bytes headerLength count = some length)
    (hcount : count ≠ 0) : 0 < length := by
  have := count_le_of_extent? h
  omega

/-- The extents of several records are the first one and those behind it. -/
theorem extents?_succ (h : extent? bytes headerLength count = some length) (channels : Nat) :
    extents? bytes headerLength count (channels + 1) =
      (extents? (bytes.drop length) headerLength count channels).map (length + ·) := by
  simp only [extents?, h, bind, pure, Option.bind_some, Option.map_eq_bind]
  rfl

/-- Channel records take a byte each, and no more bytes than there are. -/
theorem channels_le_of_extents? (h : extents? bytes headerLength count channels = some length)
    (hheader : headerLength * blockSize ≤ count) (hcount : count ≠ 0) :
    channels ≤ length ∧ length ≤ bytes.length := by
  induction channels generalizing bytes length with
  | zero =>
      obtain rfl := Option.some.inj h
      exact ⟨Nat.le_refl 0, Nat.zero_le _⟩
  | succ channels ih =>
      simp only [extents?, bind, pure, Option.bind_eq_some_iff, Option.some.injEq] at h
      obtain ⟨first, hfirst, others, hothers, rfl⟩ := h
      obtain ⟨-, -, hinside, -⟩ := exists_stored hfirst hheader
      have hpos := length_pos_of_extent? hfirst hcount
      obtain ⟨hchannels, hrest⟩ := ih hothers
      rw [List.length_drop] at hrest
      omega

/-! ## Walking over the channels of a node -/

/-- Goes over records of one shape from a position on, up to the first one that does not fit. What
is answered is the position behind the records, if all of them fit, and the number of records that
were looked at. -/
def walk (bytes : Bytes) (headerLength count start : Nat) : Nat → Option Nat × Nat
  | 0 => (some start, 0)
  | channels + 1 =>
      match (cut? start bytes).bind fun pieces => extent? pieces.2 headerLength count with
      | none => (none, 1)
      | some length =>
          let (last, rounds) := walk bytes headerLength count (start + length) channels
          (last, rounds + 1)

/-- A record that does not fit ends the walk. -/
theorem walk_of_extent?_eq_none (hstart : start ≤ bytes.length)
    (h : extent? (bytes.drop start) headerLength count = none) (channels : Nat) :
    walk bytes headerLength count start (channels + 1) = (none, 1) := by
  simp only [walk, cut?_eq, if_pos hstart, Option.bind_some, h]

/-- Behind a record that fits the walk goes on. -/
theorem walk_of_extent? (hstart : start ≤ bytes.length)
    (h : extent? (bytes.drop start) headerLength count = some length) (channels : Nat) :
    walk bytes headerLength count start (channels + 1) =
      ((walk bytes headerLength count (start + length) channels).1,
        (walk bytes headerLength count (start + length) channels).2 + 1) := by
  simp only [walk, cut?_eq, if_pos hstart, Option.bind_some, h]

/-- The walk ends behind the records whose extents add up. -/
theorem walk_eq (hheader : headerLength * blockSize ≤ count) (hstart : start ≤ bytes.length)
    (channels : Nat) :
    (walk bytes headerLength count start channels).1 =
      (extents? (bytes.drop start) headerLength count channels).map (start + ·) := by
  induction channels generalizing start with
  | zero => rfl
  | succ channels ih =>
      cases hfirst : extent? (bytes.drop start) headerLength count with
      | none =>
          rw [walk_of_extent?_eq_none hstart hfirst]
          simp [extents?, hfirst]
      | some first =>
          obtain ⟨-, -, hinside, -⟩ := exists_stored hfirst hheader
          rw [List.length_drop] at hinside
          rw [walk_of_extent? hstart hfirst]
          dsimp only
          rw [ih (by omega), extents?_succ hfirst, List.drop_drop, Option.map_map]
          simp only [Function.comp_def, Nat.add_assoc]

/-- The walk looks at no more records than there are bytes, and one. -/
theorem walk_rounds (hheader : headerLength * blockSize ≤ count) (hcount : count ≠ 0)
    (hstart : start ≤ bytes.length) (channels : Nat) :
    (walk bytes headerLength count start channels).2 ≤ bytes.length - start + 1 := by
  induction channels generalizing start with
  | zero => exact Nat.zero_le _
  | succ channels ih =>
      cases hfirst : extent? (bytes.drop start) headerLength count with
      | none =>
          rw [walk_of_extent?_eq_none hstart hfirst]
          omega
      | some first =>
          -- the record takes a byte, so that fewer are left for the rounds behind it
          have hpos := length_pos_of_extent? hfirst hcount
          obtain ⟨-, -, hinside, -⟩ := exists_stored hfirst hheader
          rw [List.length_drop] at hinside
          have hrounds : (walk bytes headerLength count (start + first) channels).2 ≤
              bytes.length - (start + first) + 1 := ih (by omega)
          rw [walk_of_extent? hstart hfirst]
          dsimp only
          omega

/-- More channel records than there are bytes do not fit. -/
theorem walk_of_length_lt (hheader : headerLength * blockSize ≤ count) (hcount : count ≠ 0)
    (hchannels : bytes.length < channels) :
    (walk bytes headerLength count 0 channels).1 = none := by
  rw [walk_eq hheader (Nat.zero_le _), Option.map_eq_none_iff, List.drop_zero]
  by_contra hfits
  obtain ⟨length, hlength⟩ := Option.ne_none_iff_exists'.mp hfits
  have := channels_le_of_extents? hlength hheader hcount
  omega

end Record

/-! ## Blobs -/

namespace Blob

variable {blob : Blob} {node behind : Nat}

/-- An address column leads a node into a page of an arena, and this many bytes are behind its
address in the page. -/
def BytesBehind (arena : Arena) (column : Array Address) (node behind : Nat) : Prop :=
  ∃ address page, column[node]? = some address ∧ arena.pages[address.page.toNat]? = some page ∧
    address.offset.toNat ≤ page.length ∧ behind = page.length - address.offset.toNat

/-- Where a column leads to bytes that pass a test, they are those behind the address. -/
theorem exists_bytesBehind {arena : Arena} {column : Array Address} {test : Bytes → Bool}
    (h : leadsTo arena column node test = true) :
    ∃ bytes, BytesBehind arena column node bytes.length ∧ test bytes = true := by
  unfold leadsTo at h
  cases hbytes : column[node]?.bind arena.bytesAt? with
  | none => simp [hbytes] at h
  | some bytes =>
      obtain ⟨address, haddress, hat⟩ := Option.bind_eq_some_iff.mp hbytes
      obtain ⟨page, hpage, hinside⟩ := Option.bind_eq_some_iff.mp hat
      split at hinside
      case isFalse houtside => simp at hinside
      case isTrue hoffset =>
        obtain rfl := Option.some.inj hinside
        exact ⟨_, ⟨address, page, haddress, hpage, hoffset, List.length_drop⟩, by
          simpa [hbytes] using h⟩

/-- No more bytes are behind an address than the arena holds. -/
theorem BytesBehind.le_size {arena : Arena} {column : Array Address}
    (h : BytesBehind arena column node behind) : behind ≤ arena.size := by
  obtain ⟨address, page, -, hpage, -, rfl⟩ := h
  have hsublist := List.sublist_flatten_of_mem (List.mem_of_getElem? hpage)
  exact (Nat.sub_le _ _).trans hsublist.length_le

/-- A neighbor record that fits holds at most 64 targets for each byte behind its address. -/
theorem degree_le_of_adjacencyFits (h : blob.adjacencyFits node = true) :
    ∃ behind, BytesBehind blob.adjacency blob.directory.adjacency node behind ∧
      blob.directory.degree node ≤ 64 * behind := by
  obtain ⟨bytes, hbehind, htest⟩ := exists_bytesBehind h
  obtain ⟨length, hlength⟩ := Option.isSome_iff_exists.mp htest
  obtain ⟨-, -, hinside, -⟩ := Record.exists_stored hlength (Layout.headerLength_mul_le _ _)
  exact ⟨bytes.length, hbehind,
    (Record.count_le_of_extent? hlength).trans (Nat.mul_le_mul_left 64 hinside)⟩

/-- A property record that fits has at most one channel for each byte behind its address. -/
theorem channelCount_le_of_propertiesFit {arena : Arena}
    (h : blob.propertiesFit arena node = true) (hdegree : blob.directory.degree node ≠ 0) :
    ∃ behind, BytesBehind arena blob.directory.properties node behind ∧
      blob.channelCount.toNat ≤ behind := by
  obtain ⟨bytes, hbehind, htest⟩ := exists_bytesBehind h
  refine ⟨bytes.length, hbehind, ?_⟩
  cases hlayout : blob.rule.layout (blob.directory.degree node) with
  | packed =>
      rw [hlayout] at htest
      obtain ⟨length, hlength⟩ := Option.isSome_iff_exists.mp htest
      obtain ⟨hchannels, hinside⟩ :=
        Record.channels_le_of_extents? hlength (Layout.headerLength_mul_le _ _) hdegree
      exact hchannels.trans hinside
  | varint =>
      rw [hlayout] at htest
      have hfits : blob.channelCount.toNat *
          (blob.directory.degree node * Binary64.byteCount) ≤ bytes.length := by
        simpa using htest
      have hvalue : 0 < blob.directory.degree node * Binary64.byteCount :=
        Nat.mul_pos (Nat.pos_of_ne_zero hdegree) (by decide)
      exact (Nat.le_mul_of_pos_right _ hvalue).trans hfits

/-- A blob with a node is longer than its arenas. -/
theorem size_lt_length_write (haligned : blob.directory.isAligned = true)
    (hnode : node < blob.directory.nodeCount) :
    blob.adjacency.size + (blob.properties.map Arena.size).getD 0 < blob.write.length := by
  have hsize := size_le_length_write haligned
  have hentry : 0 < blob.directory.byteSize := by
    unfold Directory.byteSize Directory.entrySize
    omega
  omega

end Blob

/-! ## Accepted bytes -/

namespace Lists

variable {bytes : Bytes} {lists : Lists} {node : Nat}

/-- What an accepted blob declares for a node with relationships is bounded by the bytes behind its
addresses, of which there are fewer than the blob has. -/
theorem bounds_of_ofBytes (h : ofBytes bytes = .ok lists) (hdegree : lists.degree node ≠ 0) :
    (∃ behind, Blob.BytesBehind lists.adjacency lists.directory.adjacency node behind ∧
      lists.degree node ≤ 64 * behind ∧ behind < bytes.length) ∧
    ∀ properties, lists.properties = some properties →
      ∃ behind, Blob.BytesBehind properties.arena lists.directory.properties node behind ∧
        properties.channelCount.toNat ≤ behind ∧ behind < bytes.length := by
  obtain ⟨blob, rest, hread, hproblem, rfl⟩ := ofBytes_eq_ok_iff.mp h
  have hnode : node < blob.directory.nodeCount := Directory.lt_nodeCount_of_degree hdegree
  obtain ⟨hadjacency, hproperties⟩ :=
    Blob.fits_of_nodeProblem? (Blob.nodeProblem?_of_problem? hproblem hnode) hdegree
  have hsize : blob.adjacency.size + (blob.properties.map Arena.size).getD 0 < bytes.length := by
    have hwrite := Blob.size_lt_length_write (Blob.declared_of_problem? hproblem).2.1 hnode
    rw [Blob.read_inverts _ _ _ hread, List.length_append]
    omega
  constructor
  · obtain ⟨behind, hbehind, hle⟩ := Blob.degree_le_of_adjacencyFits hadjacency
    have := hbehind.le_size
    exact ⟨behind, hbehind, hle, by omega⟩
  · intro properties hsome
    obtain ⟨arena, harena, rfl⟩ := Option.map_eq_some_iff.mp hsome
    obtain ⟨behind, hbehind, hle⟩ :=
      Blob.channelCount_le_of_propertiesFit (hproperties arena harena) hdegree
    have := hbehind.le_size
    rw [harena, Option.map_some, Option.getD_some] at hsize
    exact ⟨behind, hbehind, hle, by omega⟩

/-- Of bytes that are accepted, whatever numbers they declare: the degree of a node is at most 64
times the number of bytes from its address to the end of the page, and if there are properties, a
node with relationships has at least as many bytes behind its property address as there are
channels. So the degree is less than 64 times the length of the bytes, and the number of channels
is less than that length; bytes that declare as many channels as they have bytes, or more, are
refused if there is a property arena and a node with relationships. The reason is in each of its
records, which takes a byte at least and holds at most 64 values for each byte: going over more
channels than there are bytes fails, and looks at no more records than there are bytes, and one. -/
theorem ofBytes_bounds_declared (bytes : Bytes) :
    (∀ lists, ofBytes bytes = .ok lists → ∀ node, lists.degree node ≠ 0 →
      (∃ behind, Blob.BytesBehind lists.adjacency lists.directory.adjacency node behind ∧
        lists.degree node ≤ 64 * behind ∧ behind < bytes.length) ∧
      ∀ properties, lists.properties = some properties →
        ∃ behind, Blob.BytesBehind properties.arena lists.directory.properties node behind ∧
          properties.channelCount.toNat ≤ behind ∧ behind < bytes.length) ∧
    (∀ blob rest, Blob.read bytes = .ok (blob, rest) → blob.properties.isSome →
      (∃ node, blob.directory.degree node ≠ 0) → bytes.length ≤ blob.channelCount.toNat →
        ∃ cause, ofBytes bytes = .error (.blob cause)) ∧
    ∀ (layout : Layout) (degree : Nat) (following : Bytes), degree ≠ 0 →
      (∀ length, Record.extent? following (layout.headerLength degree) degree = some length →
        1 ≤ length ∧ degree ≤ 64 * length ∧ length ≤ following.length) ∧
      ∀ channels,
        (Record.walk following (layout.headerLength degree) degree 0 channels).1 =
          Record.extents? following (layout.headerLength degree) degree channels ∧
        (Record.walk following (layout.headerLength degree) degree 0 channels).2 ≤
          following.length + 1 ∧
        (following.length < channels →
          (Record.walk following (layout.headerLength degree) degree 0 channels).1 = none) := by
  refine ⟨fun lists h node hdegree => bounds_of_ofBytes h hdegree, ?_, ?_⟩
  · rintro blob rest hread hproperties ⟨node, hdegree⟩ hchannels
    cases hproblem : blob.problem? with
    | some cause => exact ⟨cause, by simp only [ofBytes, hread, hproblem]⟩
    | none =>
        obtain ⟨arena, harena⟩ := Option.isSome_iff_exists.mp hproperties
        have haccepted : ofBytes bytes = .ok blob.toLists :=
          ofBytes_eq_ok_iff.mpr ⟨blob, rest, hread, hproblem, rfl⟩
        obtain ⟨-, hbounds⟩ := bounds_of_ofBytes haccepted hdegree
        obtain ⟨behind, -, hle, hlt⟩ :=
          hbounds ⟨arena, blob.channelCount⟩ (by simp only [Blob.toLists, harena, Option.map_some])
        exact absurd (hle.trans_lt hlt) (Nat.not_lt.mpr hchannels)
  · intro layout degree following hdegree
    have hheader := layout.headerLength_mul_le degree
    refine ⟨?_, fun channels => ⟨?_, ?_, Record.walk_of_length_lt hheader hdegree⟩⟩
    · intro length hlength
      obtain ⟨-, -, hinside, -⟩ := Record.exists_stored hlength hheader
      exact ⟨Record.length_pos_of_extent? hlength hdegree, Record.count_le_of_extent? hlength,
        hinside⟩
    · rw [Record.walk_eq hheader (Nat.zero_le _), List.drop_zero]
      simp
    · exact Record.walk_rounds hheader hdegree (Nat.zero_le _) channels

/-- The structure of 64 parallel relationships, with another number of channels. -/
def zerosDeclaring (channelCount : UInt64) : Lists :=
  { parallelZeros with properties := some ⟨⟨[[0]]⟩, channelCount⟩ }

/-- One byte behind each address is enough for 64 relationships and for one channel. The same bytes
with the largest number of channels are refused, and the walk over so many channels looks at no more
than two records. -/
theorem ofBytes_bounds_declared_manyChannels :
    ofBytes (zerosDeclaring 1).toBytes = .ok (zerosDeclaring 1) ∧
      (zerosDeclaring 1).degree 0 ≠ 0 ∧
      (∃ behind,
        Blob.BytesBehind (zerosDeclaring 1).adjacency (zerosDeclaring 1).directory.adjacency 0
            behind ∧
          (zerosDeclaring 1).degree 0 ≤ 64 * behind) ∧
      (∃ cause, ofBytes (zerosDeclaring 0xFFFFFFFFFFFFFFFF).toBytes = .error (.blob cause)) ∧
      (Record.walk [0] 1 64 0 0xFFFFFFFFFFFFFFFF).1 = none ∧
      (Record.walk [0] 1 64 0 0xFFFFFFFFFFFFFFFF).2 ≤ 2 := by
  have haccepted : ofBytes (zerosDeclaring 1).toBytes = .ok (zerosDeclaring 1) := by decide +kernel
  have hdegree : (zerosDeclaring 1).degree 0 ≠ 0 := by decide +kernel
  have hread : Blob.read (zerosDeclaring 0xFFFFFFFFFFFFFFFF).toBytes =
      .ok (Blob.ofLists (zerosDeclaring 0xFFFFFFFFFFFFFFFF), []) := by decide +kernel
  obtain ⟨hbounds, -, hrecords⟩ := ofBytes_bounds_declared (zerosDeclaring 1).toBytes
  obtain ⟨-, hrefuses, -⟩ := ofBytes_bounds_declared (zerosDeclaring 0xFFFFFFFFFFFFFFFF).toBytes
  obtain ⟨⟨behind, hbehind, hle, -⟩, -⟩ := hbounds _ haccepted 0 hdegree
  obtain ⟨-, hwalks⟩ := hrecords .packed 64 [0] (by decide)
  obtain ⟨-, hrounds, hnone⟩ := hwalks 0xFFFFFFFFFFFFFFFF
  exact ⟨haccepted, hdegree, ⟨behind, hbehind, hle⟩,
    hrefuses _ _ hread rfl ⟨0, by decide +kernel⟩ (by decide +kernel), hnone (by decide), hrounds⟩

end Lists

end CompactAdjacency
