import Mathlib
import CompactAdjacency.Record.Decoder
import CompactAdjacency.Record.Encoding
import CompactAdjacency.Record.Extent
import CompactAdjacency.Proofs.Coding.PackedBlocks
import CompactAdjacency.Proofs.Coding.VarintRuns

/-!
# What a decoder yields

`Decoder.Yields decoder values rest` says that a decoder read to its end goes through `values`,
block by block and whatever its buffer holds, and stops in front of `rest`. It is the whole
interface of a record to the cursors. Two theorems establish it: `holds_encode` for what was
written, and `exists_holds` for untrusted bytes whose extent was found. They share
`Decoder.yields_of_unpacks`, because a record of either kind is a row of blocks that unpack and a
run of varints that can be read.
-/

namespace CompactAdjacency.Record

namespace Decoder

/-- Read to its end, a decoder goes through the given values and stops in front of `rest`. -/
inductive Yields : Decoder → List UInt64 → Bytes → Prop where
  | done (decoder : Decoder) (hend : decoder.remaining = 0) : Yields decoder [] decoder.rest
  | block (decoder next : Decoder) (block values : List UInt64) (rest : Bytes)
      (hblock : block ≠ [])
      (hremaining : decoder.remaining = block.length + next.remaining)
      (hstep : ∀ buffer, ∃ stale, decoder.step buffer = ⟨next, block ++ stale, .ok block.length⟩)
      (hrest : Yields next values rest) : Yields decoder (block ++ values) rest

variable {decoder : Decoder} {values : List UInt64} {rest : Bytes}

/-- A decoder counts the values that it yields. -/
theorem Yields.length_eq (h : decoder.Yields values rest) : values.length = decoder.remaining := by
  induction h with
  | done decoder hend => exact hend.symm
  | block decoder next block values rest hblock hremaining hstep hrest ih =>
      rw [List.length_append, ih, hremaining]

/-! ## Values and gaps -/

@[simp] theorem length_resolve (decoder : Decoder) (values : List UInt64) :
    (decoder.resolve values).length = values.length := by
  unfold resolve
  split <;> simp

/-- The decoder behind a block, whose values are resolved. -/
def behind (decoder : Decoder) (header rest : Bytes) (block : List UInt64) : Decoder :=
  { header := header
    rest := rest
    remaining := decoder.remaining - block.length
    delta := decoder.delta
    last := block.getLastD decoder.last }

/-- The values behind a block are resolved from where it ends. -/
theorem resolve_append (decoder : Decoder) (front values : List UInt64) (header rest : Bytes) :
    decoder.resolve (front ++ values) = decoder.resolve front ++
      (decoder.behind header rest (decoder.resolve front)).resolve values := by
  by_cases hdelta : decoder.delta
  · simp [resolve, behind, hdelta, Gaps.sumsFrom_append]
  · simp [resolve, behind, hdelta]

/-! ## Varints -/

/-- A decoder without blocks takes up to a block of varints at a time. -/
theorem step_varints (hheader : decoder.header = []) (hremaining : decoder.remaining ≠ 0)
    {run : List UInt64} {middle : Bytes} (hlength : run.length = min decoder.remaining blockSize)
    (hrun : Varint.readRun (min decoder.remaining blockSize) decoder.rest = ⟨run, some middle⟩)
    (buffer : List UInt64) :
    ∃ stale, decoder.step buffer = ⟨decoder.behind [] middle (decoder.resolve run),
      decoder.resolve run ++ stale, .ok (decoder.resolve run).length⟩ := by
  refine ⟨buffer.drop (decoder.resolve run).length, ?_⟩
  simp only [step, if_neg hremaining, hheader, hrun, behind, length_resolve, hlength]

/-- A decoder without blocks yields the varints in front of it, if they can be read. -/
theorem yields_varints (hheader : decoder.header = []) {run : List UInt64}
    (hrun : Varint.readRun decoder.remaining decoder.rest = ⟨run, some rest⟩) :
    decoder.Yields (decoder.resolve run) rest := by
  -- The induction is on the number of values to come: a step takes at most a block of them.
  induction hn : decoder.remaining using Nat.strongRecOn generalizing decoder run with
  | ind n ih =>
      subst hn
      by_cases hremaining : decoder.remaining = 0
      · rw [hremaining] at hrun
        obtain ⟨rfl, hrest⟩ := Varint.Run.mk.inj hrun
        obtain rfl : decoder.rest = rest := Option.some.inj hrest
        simpa [resolve, Gaps.sumsFrom] using Yields.done decoder hremaining
      · -- the run is cut behind its first block, and both parts can be read
        have hsum : decoder.remaining =
            min decoder.remaining blockSize +
              (decoder.remaining - min decoder.remaining blockSize) := by
          omega
        have hcomplete : (Varint.readRun decoder.remaining decoder.rest).rest = some rest := by
          rw [hrun]
        rw [hsum] at hcomplete hrun
        obtain ⟨middle, hfirst, hsecond, hvalues⟩ := Varint.readRun_add hcomplete
        obtain ⟨-, -, -, hlength, -⟩ := Varint.split_of_readRun hfirst
        rw [hrun] at hvalues
        subst hvalues
        rw [resolve_append decoder _ _ [] middle]
        have hlength' : (decoder.resolve (Varint.readRun (min decoder.remaining blockSize)
            decoder.rest).values).length = min decoder.remaining blockSize := by
          rw [length_resolve, hlength]
        refine .block _ _ _ _ _ ?_ ?_ (step_varints hheader hremaining hlength ?_)
          (ih _ ?_ rfl ?_ rfl)
        · intro hnil
          rw [hnil] at hlength'
          simp only [List.length_nil, blockSize] at hlength'
          omega
        · simp only [behind, hlength']
          omega
        · rw [← hfirst]
        · simp only [behind, hlength']
          unfold blockSize
          omega
        · simp only [behind, hlength']
          rw [← hsecond]

/-! ## Blocks -/

/-- The blocks announced by a header unpack to the given values, and `tail` follows them. -/
inductive Unpacks : Bytes → Bytes → List UInt64 → Bytes → Prop where
  | nil (bytes : Bytes) : Unpacks [] bytes [] bytes
  | cons (width : UInt8) (header bytes : Bytes) (block values : List UInt64) (tail : Bytes)
      (hlength : block.length = blockSize) (hblock : Block.unpack bytes width.toNat = .ok block)
      (hrest : Unpacks header (bytes.drop (Block.packedLength width.toNat)) values tail) :
      Unpacks (width :: header) bytes (block ++ values) tail

/-- A decoder in front of a block takes all of it at once. -/
theorem step_block {width : UInt8} {header : Bytes} (hheader : decoder.header = width :: header)
    (hremaining : decoder.remaining ≠ 0) {block : List UInt64} (hlength : block.length = blockSize)
    (hblock : Block.unpack decoder.rest width.toNat = .ok block) (buffer : List UInt64) :
    ∃ stale, decoder.step buffer =
      ⟨decoder.behind header (decoder.rest.drop (Block.packedLength width.toNat))
          (decoder.resolve block),
        decoder.resolve block ++ stale, .ok (decoder.resolve block).length⟩ := by
  refine ⟨[], ?_⟩
  simp only [step, if_neg hremaining, hheader, hblock, behind, length_resolve, hlength,
    List.append_nil]

/-- A decoder in front of blocks that unpack and varints that can be read yields both. -/
theorem yields_of_unpacks {header bytes : Bytes} {blocks : List UInt64} {tail : Bytes}
    (hblocks : Unpacks header bytes blocks tail) {run : List UInt64} {count : Nat}
    (hrun : Varint.readRun count tail = ⟨run, some rest⟩) (hheader : decoder.header = header)
    (hbytes : decoder.rest = bytes) (hremaining : decoder.remaining = blocks.length + count) :
    decoder.Yields (decoder.resolve (blocks ++ run)) rest := by
  -- one step of the decoder for each block of the header, and varints behind the last one
  induction hblocks generalizing decoder with
  | nil bytes =>
      subst hbytes
      rw [List.length_nil, Nat.zero_add] at hremaining
      rw [List.nil_append]
      exact yields_varints hheader (by rw [hremaining, hrun])
  | cons width header bytes block values tail hlength hblock hrest ih =>
      subst hbytes
      rw [List.length_append, hlength] at hremaining
      have hpos : 0 < blockSize := by decide
      rw [List.append_assoc, resolve_append decoder block _ header
        (decoder.rest.drop (Block.packedLength width.toNat))]
      refine .block _ _ _ _ _ ?_ ?_ (step_block hheader (by omega) hlength hblock)
        (ih hrun rfl rfl ?_)
      · intro hnil
        have := length_resolve decoder block
        rw [hnil, hlength] at this
        simp only [List.length_nil] at this
        omega
      · simp only [behind, length_resolve, hlength]
        omega
      · simp only [behind, length_resolve, hlength]
        omega

/-- Packed blocks unpack to their values. -/
theorem unpacks_pack {blocks : List (List UInt64)}
    (hblocks : ∀ block ∈ blocks, block.length = blockSize) (tail : Bytes) :
    Unpacks (Block.header blocks) (Block.body blocks ++ tail) blocks.flatten tail := by
  induction blocks with
  | nil => exact .nil tail
  | cons block blocks ih =>
      have hlength := hblocks block (by simp)
      rw [Block.body_cons, List.append_assoc]
      refine .cons _ _ _ _ _ _ hlength ?_ ?_
      · rw [Block.toNat_header]
        exact Block.unpack_pack _ hlength (fun _ => Block.toNat_lt_two_pow_bitsNeeded) _
      · rw [Block.toNat_header, ← Block.length_pack (Block.bitsNeeded_le block) hlength,
          List.drop_left]
        exact ih fun other hother => hblocks other (by simp [hother])

/-- Blocks of legal widths for which there are enough bytes unpack. -/
theorem exists_unpacks {header bytes : Bytes} (hheader : ∀ width ∈ header, width.toNat ≤ 64)
    (hbytes : Block.packedBlocksLength header - header.length ≤ bytes.length) :
    ∃ values, values.length = header.length * blockSize ∧
      Unpacks header bytes values
        (bytes.drop (Block.packedBlocksLength header - header.length)) := by
  induction header generalizing bytes with
  | nil => exact ⟨[], rfl, .nil bytes⟩
  | cons width header ih =>
      have hle := Block.length_le_packedBlocksLength header
      have htotal : Block.packedBlocksLength (width :: header) - (width :: header).length =
          Block.packedLength width.toNat +
            (Block.packedBlocksLength header - header.length) := by
        rw [Block.packedBlocksLength, List.length_cons]
        omega
      rw [htotal] at hbytes ⊢
      obtain ⟨block, hlength, hblock⟩ :=
        Block.exists_unpack (hheader width (by simp)) (by omega : _ ≤ bytes.length)
      have hbehind : Block.packedBlocksLength header - header.length ≤
          (bytes.drop (Block.packedLength width.toNat)).length := by
        rw [List.length_drop]
        omega
      obtain ⟨values, hvalues, hrest⟩ :=
        ih (fun other hother => hheader other (by simp [hother])) hbehind
      refine ⟨block ++ values, ?_, ?_⟩
      · rw [List.length_append, hlength, hvalues, List.length_cons]
        ring
      · rw [List.drop_drop] at hrest
        exact .cons _ _ _ _ _ _ hlength hblock hrest

end Decoder

/-! ## Whole records -/

/-- The values that a record stands for, as they are or as the running sums of gaps. -/
def resolved (delta : Bool) (values : List UInt64) : List UInt64 :=
  if delta then Gaps.sumsFrom 0 values else values

/-- The record at the front of a byte string holds the given values, and `rest` follows it. -/
def Holds (bytes : Bytes) (headerLength : Nat) (delta : Bool) (values : List UInt64)
    (rest : Bytes) : Prop :=
  ∃ decoder, Decoder.ofRecord bytes headerLength values.length delta = .ok decoder ∧
    decoder.Yields values rest

@[simp] theorem length_resolved (delta : Bool) (values : List UInt64) :
    (resolved delta values).length = values.length := by
  unfold resolved
  split <;> simp

/-- The parts of a packed record in the order they are read. -/
theorem encode_packed_append (values : List UInt64) (rest : Bytes) :
    encode .packed values ++ rest = Block.header (Block.fullBlocks values) ++
      (Block.body (Block.fullBlocks values) ++
        (Varint.encodeAll (Block.tail values) ++ rest)) := by
  simp only [encode, encodePacked, Block.packBlocks_eq, List.append_assoc]

theorem length_header (values : List UInt64) :
    (Block.header (Block.fullBlocks values)).length =
      Layout.packed.headerLength values.length := by
  simp [Block.header, Layout.headerLength]

/-- A header, the blocks it announces and a run of varints are a record. -/
theorem holds_of_unpacks {header body : Bytes} {blocks run : List UInt64} {tail rest : Bytes}
    (hunpacks : Decoder.Unpacks header body blocks tail)
    (hrun : Varint.readRun run.length tail = ⟨run, some rest⟩) (delta : Bool) :
    Holds (header ++ body) header.length delta (resolved delta (blocks ++ run)) rest := by
  refine ⟨⟨header, body, (blocks ++ run).length, delta, 0⟩, ?_, ?_⟩
  · simp only [Decoder.ofRecord, cut?_append, length_resolved]
  · exact Decoder.yields_of_unpacks hunpacks hrun rfl rfl List.length_append

/-- A written record holds its values, whatever follows it. -/
theorem holds_encode (layout : Layout) (delta : Bool) (values : List UInt64) (rest : Bytes) :
    Holds (encode layout values ++ rest) (layout.headerLength values.length) delta
      (resolved delta values) rest := by
  cases layout with
  | packed =>
      have hfull : ∀ block ∈ Block.fullBlocks values, block.length = blockSize :=
        fun _ => Block.length_of_mem_fullBlocks
      have hholds := holds_of_unpacks
        (Decoder.unpacks_pack hfull (Varint.encodeAll (Block.tail values) ++ rest))
        (Varint.readRun_encodeAll _ rest) delta
      rwa [Block.flatten_fullBlocks_append_tail, length_header, ← encode_packed_append] at hholds
  | varint =>
      exact holds_of_unpacks (.nil _) (Varint.readRun_encodeAll values rest) delta

/-! ## Extents -/

/-- A header is refused exactly if one of its widths is no width of a word. -/
theorem any_wide_eq_false_iff {header : Bytes} :
    header.any (fun width => width.toNat > maxBitWidth) = false ↔
      ∀ width ∈ header, width.toNat ≤ 64 := by
  simp [List.any_eq_false, maxBitWidth]

/-- What an extent is made of: a header of legal widths, the blocks it announces, and varints. -/
theorem extent?_eq_some_iff {bytes : Bytes} {headerLength count length : Nat} :
    extent? bytes headerLength count = some length ↔
      ∃ header body tailLength, cut? headerLength bytes = some (header, body) ∧
        (∀ width ∈ header, width.toNat ≤ 64) ∧
        Block.packedBlocksLength header - headerLength ≤ body.length ∧
        Varint.measure? (count - headerLength * blockSize)
          (body.drop (Block.packedBlocksLength header - headerLength)) = some tailLength ∧
        length = Block.packedBlocksLength header + tailLength := by
  constructor
  · intro h
    simp only [extent?, bind, Option.bind_eq_some_iff] at h
    obtain ⟨⟨header, body⟩, hcut, h⟩ := h
    cases hwide : header.any (fun width => width.toNat > maxBitWidth) with
    | true => simp [hwide] at h
    | false =>
        simp only [hwide, Bool.false_eq_true, if_false, Option.bind_eq_some_iff] at h
        obtain ⟨⟨front, tail⟩, htail, tailLength, hmeasure, h⟩ := h
        rw [cut?_eq] at htail
        split at htail
        case isFalse hshort => simp at htail
        case isTrue hfits =>
          obtain ⟨-, rfl⟩ := Prod.mk.inj (Option.some.inj htail)
          exact ⟨header, body, tailLength, hcut, any_wide_eq_false_iff.mp hwide, hfits, hmeasure,
            (Option.some.inj h).symm⟩
  · rintro ⟨header, body, tailLength, hcut, hwidths, hfits, hmeasure, rfl⟩
    simp only [extent?, hcut, any_wide_eq_false_iff.mpr hwidths, cut?_eq, if_pos hfits, hmeasure,
      bind, Option.bind_some, Bool.false_eq_true, if_false]
    rfl

/-- Untrusted bytes whose extent was found are a record of that extent: they store values, which are
decoded as they are or as gaps. -/
theorem exists_stored {bytes : Bytes} {headerLength count length : Nat}
    (h : extent? bytes headerLength count = some length)
    (hheader : headerLength * blockSize ≤ count) :
    ∃ stored : List UInt64, stored.length = count ∧ length ≤ bytes.length ∧
      ∀ delta, Holds bytes headerLength delta (resolved delta stored) (bytes.drop length) := by
  obtain ⟨header, body, tailLength, hcut, hwidths, hfits, hmeasure, rfl⟩ :=
    extent?_eq_some_iff.mp h
  obtain ⟨rfl, rfl⟩ := eq_append_of_cut? hcut
  obtain ⟨blocks, hblocks, hunpacks⟩ := Decoder.exists_unpacks hwidths hfits
  obtain ⟨rest, hrest⟩ := Varint.exists_readRun hmeasure
  obtain ⟨front, hsplit, -, hrun, hmeasure', -⟩ := Varint.split_of_readRun hrest
  obtain rfl : front.length = tailLength := Option.some.inj (hmeasure'.symm.trans hmeasure)
  have hholds := holds_of_unpacks hunpacks (by rw [hrun, ← hrest])
  have hle := Block.length_le_packedBlocksLength header
  have hdrop : (header ++ body).drop (Block.packedBlocksLength header + front.length) = rest := by
    rw [show Block.packedBlocksLength header + front.length = header.length +
      (Block.packedBlocksLength header - header.length + front.length) by omega,
      List.drop_length_add_append, ← List.drop_drop, hsplit, List.drop_left]
  refine ⟨_, ?_, ?_, by rwa [hdrop]⟩
  · rw [List.length_append, hblocks, hrun]
    omega
  · have := congrArg List.length hsplit
    rw [List.length_drop, List.length_append] at this
    rw [List.length_append]
    omega

/-- So they hold a record of that extent. -/
theorem exists_holds {bytes : Bytes} {headerLength count length : Nat}
    (h : extent? bytes headerLength count = some length)
    (hheader : headerLength * blockSize ≤ count) (delta : Bool) :
    ∃ values, values.length = count ∧ length ≤ bytes.length ∧
      Holds bytes headerLength delta values (bytes.drop length) := by
  obtain ⟨stored, hcount, hlength, hholds⟩ := exists_stored h hheader
  exact ⟨_, (length_resolved delta stored).trans hcount, hlength, hholds delta⟩

/-- The extent of a written record is its length, whatever follows it. -/
theorem extent?_encode (layout : Layout) (values : List UInt64) (rest : Bytes) :
    extent? (encode layout values ++ rest) (layout.headerLength values.length) values.length =
      some (encode layout values).length := by
  rw [extent?_eq_some_iff]
  cases layout with
  | packed =>
      have hfull : ∀ block ∈ Block.fullBlocks values, block.length = blockSize :=
        fun _ => Block.length_of_mem_fullBlocks
      have hblocks := Block.packedBlocksLength_header hfull
      have hbody : Block.packedBlocksLength (Block.header (Block.fullBlocks values)) -
          Layout.packed.headerLength values.length =
          (Block.body (Block.fullBlocks values)).length := by
        rw [hblocks, Layout.headerLength, Block.length_fullBlocks, Nat.add_sub_cancel_left]
      have htail : values.length - Layout.packed.headerLength values.length * blockSize =
          (Block.tail values).length := by
        rw [Block.length_tail, Nat.mod_eq_sub_div_mul, Layout.headerLength]
      refine ⟨Block.header (Block.fullBlocks values),
        Block.body (Block.fullBlocks values) ++ (Varint.encodeAll (Block.tail values) ++ rest),
        (Varint.encodeAll (Block.tail values)).length, ?_, ?_, ?_, ?_, ?_⟩
      · rw [encode_packed_append, ← length_header, cut?_append]
      · intro width hwidth
        obtain ⟨block, -, rfl⟩ := List.mem_map.mp hwidth
        rw [Block.toNat_header]
        exact Block.bitsNeeded_le block
      · rw [hbody, List.length_append]
        omega
      · rw [hbody, htail, List.drop_left]
        exact Varint.measure?_encodeAll _ _
      · simp only [hblocks, encode, encodePacked, Block.packBlocks_eq, List.length_append,
          length_header, Layout.headerLength, Block.length_fullBlocks]
  | varint =>
      refine ⟨[], encode .varint values ++ rest, (Varint.encodeAll values).length,
        cut?_append [] _, by simp, by simp [Block.packedBlocksLength], ?_, ?_⟩
      · simpa [Layout.headerLength, Block.packedBlocksLength, encode] using
          Varint.measure?_encodeAll values rest
      · simp [Block.packedBlocksLength, encode]

end CompactAdjacency.Record
