import CompactAdjacency.Bytes

/-!
# Property values

A property value is a binary64 floating-point number, identified with its 64 bits: copying a value
keeps its sign of zero and the payload of a NaN. Only addition and the two orderings compute with
the number, and they fix which operand or NaN comes out where the arithmetic leaves it open.
-/

namespace CompactAdjacency

/-- A binary64 floating-point number, by its bits. -/
structure Binary64 where
  bits : UInt64
  deriving DecidableEq, Repr, Inhabited

namespace Binary64

/-- The number of bytes of a value. -/
def byteCount : Nat := 8

/-- The number one. -/
def one : Binary64 := ⟨0x3FF0000000000000⟩

/-- The bit in front of the 52 bits of a fraction. -/
def hiddenBit : Nat := 1 <<< 52

/-- The bits of positive infinity. -/
def infinityBits : UInt64 := 0x7FF0000000000000

/-- The bit that holds the sign. -/
def signBit : UInt64 := 0x8000000000000000

/-- The bit that tells a quiet NaN. -/
def quietBit : UInt64 := 0x0008000000000000

/-- Whether the bits denote no number. -/
def isNaN (value : Binary64) : Bool := value.bits &&& ~~~signBit > infinityBits

/-- The number as one to compute with. -/
def toFloat (value : Binary64) : Float := Float.ofBits value.bits

/-- The sum. A NaN operand comes out, the first one before the second; opposite infinities give the
negative quiet NaN. -/
def add (left right : Binary64) : Binary64 :=
  if left.isNaN then ⟨left.bits ||| quietBit⟩
  else if right.isNaN then ⟨right.bits ||| quietBit⟩
  else
    let sum := left.toFloat + right.toFloat
    if sum.isNaN then ⟨signBit ||| infinityBits ||| quietBit⟩ else ⟨sum.toBits⟩

/-- The smaller number; the first one if neither is smaller, and a number before a NaN. -/
def least (left right : Binary64) : Binary64 :=
  if left.isNaN then right else if right.toFloat < left.toFloat then right else left

/-- The larger number; the first one if neither is larger, and a number before a NaN. -/
def greatest (left right : Binary64) : Binary64 :=
  if left.isNaN then right else if left.toFloat < right.toFloat then right else left

/-- The bits as eight bytes, least significant first. -/
def toBytes (value : Binary64) : Bytes := littleEndian byteCount value.bits.toNat

end Binary64

end CompactAdjacency
