import Mathlib
import CompactAdjacency.Proofs.Record.Decoding

/-!
# The block in front of a cursor

Both cursors keep one decoded block, an index into it, and the decoder of the blocks after it.
`Window` says which values are ahead of such a triple: what is left of the block, followed by what
the decoder yields. The buffer may hold more values behind those of the block; they are left over
from earlier blocks and are never read.
-/

namespace CompactAdjacency

/-- The values ahead are those left in the block and those that the decoder yields. -/
def Window (decoder : Record.Decoder) (block : List UInt64) (blockLength index : Nat)
    (ahead : List UInt64) : Prop :=
  ∃ ready later stale rest, ahead = ready ++ later ∧ block.drop index = ready ++ stale ∧
    blockLength = index + ready.length ∧ decoder.Yields later rest

namespace Window

variable {decoder : Record.Decoder} {block : List UInt64} {blockLength index : Nat}

/-- In front of a decoder without values there is nothing. -/
theorem of_remaining (hend : decoder.remaining = 0) (block : List UInt64) :
    Window decoder block 0 0 [] :=
  ⟨[], [], block, decoder.rest, rfl, rfl, rfl, .done decoder hend⟩

/-- The next value is at the index, and moving the index leaves the values after it ahead. -/
theorem consume {value : UInt64} {ahead : List UInt64}
    (h : Window decoder block blockLength index (value :: ahead)) (hindex : index ≠ blockLength) :
    block[index]? = some value ∧ Window decoder block blockLength (index + 1) ahead := by
  obtain ⟨ready, later, stale, rest, hahead, hblock, hlength, hyields⟩ := h
  cases ready with
  | nil =>
      rw [List.length_nil] at hlength
      omega
  | cons first ready =>
      obtain ⟨rfl, rfl⟩ := List.cons.inj hahead
      refine ⟨?_, ready, later, stale, rest, rfl, ?_, ?_, hyields⟩
      · rw [← List.head?_drop, hblock]
        rfl
      · rw [← List.drop_drop, hblock]
        rfl
      · rw [hlength, List.length_cons]
        omega

/-- The decoder at the start of a list decodes a block that has its first values. -/
theorem of_yields {ahead : List UInt64} {rest : Bytes} (h : decoder.Yields ahead rest)
    (hahead : ahead ≠ []) (buffer : List UInt64) :
    ∃ next block length, decoder.step buffer = ⟨next, block, .ok length⟩ ∧ length ≠ 0 ∧
      Window next block length 0 ahead := by
  cases h with
  | done decoder hend => exact absurd rfl hahead
  | block decoder next ready later rest hready hremaining hstep hrest =>
      obtain ⟨stale, hstale⟩ := hstep buffer
      exact ⟨next, ready ++ stale, ready.length, hstale, by simpa using hready,
        ready, later, stale, rest, rfl, rfl, by simp, hrest⟩

/-- When the block is used up, the decoder decodes one that has the values ahead. -/
theorem refill {ahead : List UInt64} (h : Window decoder block blockLength blockLength ahead)
    (hahead : ahead ≠ []) (buffer : List UInt64) :
    ∃ next block length, decoder.step buffer = ⟨next, block, .ok length⟩ ∧ length ≠ 0 ∧
      Window next block length 0 ahead := by
  obtain ⟨ready, later, stale, rest, rfl, hblock, hlength, hyields⟩ := h
  obtain rfl : ready = [] := by
    apply List.eq_nil_of_length_eq_zero
    omega
  exact of_yields hyields hahead buffer

end Window

end CompactAdjacency
