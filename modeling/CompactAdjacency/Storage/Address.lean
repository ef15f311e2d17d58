import CompactAdjacency.Failure

/-!
# Addresses of records

A record is found by the page that holds it and its offset in that page, both 32 bits wide. A blob
stores the two as one word, the page in its upper half.
-/

namespace CompactAdjacency

/-- The page that holds a record and the record's offset in it. -/
structure Address where
  page : UInt32
  offset : UInt32
  deriving DecidableEq, Repr, Inhabited

namespace Address

/-- The address of nodes that have no record. -/
def zero : Address := ⟨0, 0⟩

/-- The address as one word. -/
def toWord (address : Address) : UInt64 :=
  (address.page.toNat * UInt32.size + address.offset.toNat).toUInt64

/-- The address that a word stands for. -/
def ofWord (word : UInt64) : Address :=
  ⟨(word.toNat / UInt32.size).toUInt32, word.toNat.toUInt32⟩

/-- The address in words. -/
def describe (address : Address) : String :=
  s!"ArenaAddress({address.page}:{address.offset})"

end Address

/-- An allocation of this many bytes or more is refused. No number of the program stands behind it:
it is the memory of the machine, which differs from one to the next, and takes the value of one
machine here so that stores can be run. What is said of every store is said of any other value as
well that is no smaller than what fits a page and no larger than what a word counts. -/
def allocationLimit : Nat := 1 <<< 36

/-- A page of a size that fits 32 bits is not refused. -/
theorem size_le_allocationLimit : UInt32.size ≤ allocationLimit := by decide

/-- Lengths that are not refused fit a word. -/
theorem allocationLimit_le_size : allocationLimit ≤ UInt64.size := by decide

/-- The number of bytes that a list takes beside its entries. -/
def listSize : Nat := 24

end CompactAdjacency
