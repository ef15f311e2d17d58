/-!
# The depth of a pattern

Groups, classes, repetitions, alternatives and rows of several parts lie in each other. `Body` keeps
the depth of a group or class while it is read, from the depth of its parts.
-/

namespace CompactAdjacency.Text.Pattern

/-- How deep a pattern may be. -/
def depthLimit : Nat := 250

/-- Parts in a row. -/
structure Row where
  count : Nat
  /-- The largest depth of a part. -/
  deepest : Nat
  /-- The depth of the last part, if it can be repeated. -/
  last : Option Nat
  deriving DecidableEq, Repr

namespace Row

/-- No parts. -/
def empty : Row := ⟨0, 0, none⟩

/-- The row with another part, which can be repeated or not. -/
def push (row : Row) (depth : Nat) (repeatable : Bool) : Row :=
  ⟨row.count + 1, max row.deepest depth, if repeatable then some depth else none⟩

/-- The row with its last part repeated. -/
def repeatLast? (row : Row) : Option Row :=
  row.last.map fun depth => ⟨row.count, max row.deepest (depth + 1), some (depth + 1)⟩

/-- The depth of a row. A single part is no deeper as a row. -/
def depth (row : Row) : Nat := if row.count ≤ 1 then row.deepest else row.deepest + 1

end Row

/-- The part of a group or class that has been read. -/
structure Body where
  /-- The depth of what comes before the last bar or operator. -/
  before : Option Nat
  /-- The row behind it. -/
  row : Row
  deriving DecidableEq, Repr

namespace Body

/-- Nothing. -/
def empty : Body := ⟨none, .empty⟩

/-- The body with another part in its row. -/
def push (body : Body) (depth : Nat) (repeatable : Bool) : Body :=
  { body with row := body.row.push depth repeatable }

/-- The larger one of the depths before and behind the last bar or operator. -/
def deepest (body : Body) : Nat := max (body.before.getD 0) body.row.depth

/-- The depth of a body. -/
def depth (body : Body) : Nat := if body.before.isSome then body.deepest + 1 else body.deepest

/-- The body behind a bar. The alternatives between bars lie side by side. -/
def alternate (body : Body) : Body := ⟨some body.deepest, .empty⟩

/-- The body behind an operator. Each operator combines all that comes before it. -/
def combine (body : Body) : Body := ⟨some body.depth, .empty⟩

end Body

end CompactAdjacency.Text.Pattern
