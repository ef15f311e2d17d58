import CompactAdjacency.Coding.Bits
import CompactAdjacency.Coding.Varint

/-!
# Varints in buffers

A word is appended to a buffer seven bits at a time, and read from a position in a buffer by moving
seven bits at a time above those read before. Nothing limits the bytes that are read: a read beyond
the buffer, or a move by as many bits as a word has, is no answer at all. Several words are decoded
one after the other, as they are or as running sums.
-/

namespace CompactAdjacency.Varint

/-! ## Writing -/

/-- Moving a word down by seven bits drops its lowest seven. -/
theorem toNat_shiftRight_seven (value : UInt64) : (value >>> 7).toNat = value.toNat / 128 := by
  rw [UInt64.toNat_shiftRight, Nat.shiftRight_eq_div_pow]
  rfl

/-- A word of more than seven bits is made smaller by that. -/
theorem toNat_shiftRight_lt {value : UInt64} (h : value > 0x7F) :
    (value >>> 7).toNat < value.toNat := by
  have hpos : 0 < value.toNat := Nat.lt_of_le_of_lt (Nat.zero_le _) (UInt64.lt_iff_toNat_lt.mp h)
  rw [toNat_shiftRight_seven]
  exact Nat.div_lt_self hpos (by decide)

/-- Appends the bytes of a word to a buffer and counts them, the last one being counted already. -/
def writeFrom (written : Nat) (buffer : Bytes) (value : UInt64) : Nat × Bytes :=
  if value > 0x7F then
    writeFrom (written + 1) (buffer ++ [(value &&& 0x7F).toUInt8 ||| 0x80]) (value >>> 7)
  else (written, buffer ++ [value.toUInt8])
termination_by value.toNat
decreasing_by exact toNat_shiftRight_lt ‹_›

/-- Appends a word to a buffer. What is answered is the number of bytes appended, and the buffer as
it is then. -/
def writeOnto (buffer : Bytes) (value : UInt64) : Nat × Bytes := writeFrom 1 buffer value

/-- Appends several words to a buffer, and answers the number of bytes appended to it. -/
def writeAllOnto (buffer : Bytes) : List UInt64 → Nat × Bytes
  | [] => (0, buffer)
  | value :: values =>
      let (written, buffer) := writeOnto buffer value
      let (others, buffer) := writeAllOnto buffer values
      (written + others, buffer)

/-! ## Reading -/

/-- Reads on in a number whose bits below `shift` have been read. What is answered is the word and
the position behind it; `none` if a byte is read that is not there, or the bits of a byte are moved
up by 64 or more. -/
def readFrom? (bytes : Bytes) (position shift : Nat) (value : UInt64) : Option (UInt64 × Nat) :=
  if inside : position < bytes.length then
    if amount_lt : shift < 64 then
      let byte := bytes[position]
      let value := value ||| shiftUp (byte.toUInt64 &&& 0x7F) shift amount_lt
      if byte &&& 0x80 = 0 then some (value, position + 1)
      else readFrom? bytes (position + 1) (shift + 7) value
    else none
  else none
termination_by bytes.length - position

/-- Reads the word at a position of a buffer. -/
def readAt? (bytes : Bytes) (position : Nat) : Option (UInt64 × Nat) :=
  readFrom? bytes position 0 0

/-- Decodes `count` words from a position on, and answers them with the position behind them. -/
def decodeFrom? (bytes : Bytes) (position : Nat) : Nat → Option (List UInt64 × Nat)
  | 0 => some ([], position)
  | count + 1 => do
      let (value, position) ← readAt? bytes position
      let (values, position) ← decodeFrom? bytes position count
      pure (value :: values, position)

/-- Decodes `count` words and answers them with the number of bytes they took. -/
def decode? (bytes : Bytes) (count : Nat) : Option (List UInt64 × Nat) :=
  decodeFrom? bytes 0 count

/-- Decodes `count` words from a position on, each added to the sum before it, and answers the sums
with the position behind the words. -/
def decodeSumsFrom? (bytes : Bytes) (position : Nat) (previous : UInt64) :
    Nat → Option (List UInt64 × Nat)
  | 0 => some ([], position)
  | count + 1 => do
      let (gap, position) ← readAt? bytes position
      let value := previous + gap
      let (values, position) ← decodeSumsFrom? bytes position value count
      pure (value :: values, position)

/-- Decodes `count` words as running sums that start at `previous`, and answers the sums with the
number of bytes that the words took. -/
def decodeSums? (bytes : Bytes) (previous : UInt64) (count : Nat) : Option (List UInt64 × Nat) :=
  decodeSumsFrom? bytes 0 previous count

end CompactAdjacency.Varint
