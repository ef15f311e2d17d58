import CompactAdjacency.Bytes
import CompactAdjacency.Failure

/-!
# Bit streams

Numbers of any width up to 64 bits are laid end to end, least significant bit first, with no padding
between them; only the last byte is padded, with zeros. `BitWriter` collects bits in a word and
hands it on eight bytes at a time, `BitReader` loads up to eight bytes at a time and serves reads
from them, and reading past the end yields zero bits. Both keep fewer than 64 bits in hand, and
every shift takes a proof that its amount is below 64, so that no shift is ever reduced modulo the
width.
-/

namespace CompactAdjacency

/-! ## Words -/

/-- The word whose `length` lowest bits are set; all of them from 64 on. -/
def lowMask (length : Nat) : UInt64 :=
  if length ≥ 64 then 0xFFFFFFFFFFFFFFFF else (1 <<< length.toUInt64) - 1

/-- The word moved `amount` places towards its most significant bit. -/
def shiftUp (word : UInt64) (amount : Nat) (_amount_lt : amount < 64) : UInt64 :=
  word <<< amount.toUInt64

/-- The word moved `amount` places towards its least significant bit. -/
def shiftDown (word : UInt64) (amount : Nat) (_amount_lt : amount < 64) : UInt64 :=
  word >>> amount.toUInt64

/-! ## Writing -/

/-- A bit stream being written: the whole words handed on, the bits still in hand, and the total. -/
structure BitWriter where
  output : Bytes
  pending : UInt64
  filled : Nat
  written : Nat
  filled_lt : filled < 64

namespace BitWriter

/-- A writer that appends to a buffer. -/
def onto (buffer : Bytes) : BitWriter := ⟨buffer, 0, 0, 0, by decide⟩

/-- Appends the `length` lowest bits of a value; the bits above them are ignored. -/
def push (writer : BitWriter) (value : UInt64) (length : Nat) (length_le : length ≤ 64) :
    BitWriter :=
  have filled_lt := writer.filled_lt
  if length_pos : length = 0 then writer
  else
    let field := value &&& lowMask length
    let merged := writer.pending ||| shiftUp field writer.filled filled_lt
    if room : writer.filled + length < 64 then
      { output := writer.output
        pending := merged
        filled := writer.filled + length
        written := writer.written + length
        filled_lt := room }
    else
      let spill := writer.filled + length - 64
      { output := writer.output ++ littleEndian 8 merged.toNat
        pending :=
          if spilled : spill = 0 then 0 else shiftDown field (length - spill) (by omega)
        filled := spill
        written := writer.written + length
        filled_lt := by omega }

/-- Appends the `length` lowest bits of a value, or refuses a field wider than a word. -/
def push? (writer : BitWriter) (value : UInt64) (length : Nat) : Except Fault BitWriter :=
  if length_le : length ≤ 64 then .ok (writer.push value length length_le)
  else .error (.writeWidth length)

/-- Appends the `length` lowest bits of a value and answers the number of bits appended, or refuses
a field wider than a word. -/
def append? (writer : BitWriter) (value : UInt64) (length : Nat) :
    Except Fault (Nat × BitWriter) :=
  (writer.push? value length).map fun next => (length, next)

/-- The number of bytes that hold everything written. -/
def byteCount (writer : BitWriter) : Nat := (writer.written + 7) / 8

/-- The buffer with the bits in hand written out, the last byte padded with zeros. -/
def finish (writer : BitWriter) : Bytes :=
  writer.output ++ (littleEndian 8 writer.pending.toNat).take ((writer.filled + 7) / 8)

end BitWriter

/-! ## Reading -/

/-- A bit stream being read: the bytes not loaded yet, the bits in hand, and the total read. -/
structure BitReader where
  input : Bytes
  pending : UInt64
  filled : Nat
  read : Nat
  filled_lt : filled < 64

namespace BitReader

/-- A reader at the first bit of a byte string. -/
def ofBytes (input : Bytes) : BitReader := ⟨input, 0, 0, 0, by decide⟩

/-- The bits that loading the next word yields: eight for each of up to eight bytes, and 64 zero
bits once the input is used up. -/
def loadable (input : Bytes) : Nat :=
  if input = [] then 64 else 8 * min input.length 8

theorem loadable_le (input : Bytes) : loadable input ≤ 64 := by
  unfold loadable
  split <;> omega

/-- Reads the next `length` bits as a number. -/
def next (reader : BitReader) (length : Nat) (length_le : length ≤ 64) : UInt64 × BitReader :=
  have filled_lt := reader.filled_lt
  if length_zero : length = 0 then (0, reader)
  else if inHand : length ≤ reader.filled then
    (reader.pending &&& lowMask length,
      { input := reader.input
        pending := shiftDown reader.pending length (by omega)
        filled := reader.filled - length
        read := reader.read + length
        filled_lt := by omega })
  else
    let need := length - reader.filled
    let word := (ofLittleEndian (reader.input.take 8)).toUInt64
    (reader.pending ||| shiftUp (word &&& lowMask need) reader.filled filled_lt,
      { input := reader.input.drop 8
        pending := if whole : need = 64 then 0 else shiftDown word need (by omega)
        filled := loadable reader.input - need
        read := reader.read + length
        filled_lt := by have := loadable_le reader.input; omega })

/-- Reads the next `length` bits as a number, or refuses a field wider than a word. -/
def next? (reader : BitReader) (length : Nat) : Except Fault (UInt64 × BitReader) :=
  if length_le : length ≤ 64 then .ok (reader.next length length_le)
  else .error (.readWidth length)

/-- The number of bytes touched by what was read. -/
def byteCount (reader : BitReader) : Nat := (reader.read + 7) / 8

end BitReader

end CompactAdjacency
