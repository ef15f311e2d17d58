import CompactAdjacency.Coding.Block

/-!
# Record layouts

The neighbors of a node are one record, in one of two layouts. A packed record starts with the
widths of its full blocks and the packed blocks, followed by the remaining values one by one; a
varint record holds all of its values one by one. Which of the two a node uses follows from its
degree and the `LayoutRule` of the whole structure, so that a record carries no tag.
-/

namespace CompactAdjacency

/-- How the records of a structure are laid out. -/
inductive Strategy where
  /-- Every record is packed. -/
  | packed
  /-- Every record is a sequence of varints. -/
  | varint
  /-- Records of more values than the threshold are packed. -/
  | mixed
  deriving DecidableEq, Repr, Inhabited

/-- The layout of one record. -/
inductive Layout where
  | packed
  | varint
  deriving DecidableEq, Repr, Inhabited

/-- The number of block widths at the front of a record of `degree` values. -/
def Layout.headerLength : Layout → Nat → Nat
  | .packed, degree => degree / blockSize
  | .varint, _ => 0

/-- A record has at least the values of the blocks that its header announces. -/
theorem Layout.headerLength_mul_le (layout : Layout) (degree : Nat) :
    layout.headerLength degree * blockSize ≤ degree := by
  cases layout with
  | packed => exact Nat.div_mul_le_self degree blockSize
  | varint => simp [headerLength]

/-- What decides the layout of a record: the strategy, and the largest degree that the mixed
strategy leaves unpacked. -/
structure LayoutRule where
  strategy : Strategy
  threshold : UInt64
  deriving DecidableEq, Repr, Inhabited

namespace LayoutRule

/-- The rule whose threshold is a number of blocks. A number of blocks too large to count the
values of never packs. -/
def ofBlocks (strategy : Strategy) (blocks : UInt64) : LayoutRule :=
  ⟨strategy, (min (blockSize * blocks.toNat) (UInt64.size - 1)).toUInt64⟩

/-- The layout of a record of `degree` values. -/
def layout (rule : LayoutRule) (degree : Nat) : Layout :=
  match rule.strategy with
  | .packed => .packed
  | .varint => .varint
  | .mixed => if degree > rule.threshold.toNat then .packed else .varint

end LayoutRule

end CompactAdjacency
