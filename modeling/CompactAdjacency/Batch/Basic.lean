import CompactAdjacency.Batch.Aggregation

/-!
# Batches of relationships

A batch holds the relationships of one node before they are compressed: their targets in any order,
and one value per relationship in every property channel. Parallel relationships are runs of equal
targets once the targets are sorted.
-/

namespace CompactAdjacency

/-- The relationships of one node: targets, and the values of each property channel. -/
structure Batch where
  targets : List UInt64
  channels : List (List Binary64)
  deriving DecidableEq, Repr, Inhabited

namespace Batch

/-- A batch without relationships. -/
def empty (channelCount : Nat) : Batch := ⟨[], List.replicate channelCount []⟩

/-- The batch without its relationships; it keeps its channels. -/
def clear (batch : Batch) : Batch := ⟨[], batch.channels.map fun _ => []⟩

/-- Adds a list of values to the front channels, one each; missing values leave channels as they
are. -/
def appendValues : List (List Binary64) → List Binary64 → List (List Binary64)
  | channel :: channels, value :: values => (channel ++ [value]) :: appendValues channels values
  | channels, _ => channels

/-- Adds one relationship with a value for each channel. -/
def push (batch : Batch) (target : UInt64) (values : List Binary64) : Batch :=
  ⟨batch.targets ++ [target], appendValues batch.channels values⟩

/-! ## Runs -/

/-- The lengths of the runs of equal neighbors in a list. -/
def runLengths : List UInt64 → List Nat
  | [] => []
  | value :: rest =>
      match rest, runLengths rest with
      | next :: _, length :: lengths =>
          if next = value then (length + 1) :: lengths else 1 :: length :: lengths
      | _, lengths => 1 :: lengths

/-- The pieces of a list that have the given lengths. -/
def cut {α : Type} : List Nat → List α → List (List α)
  | [], _ => []
  | length :: lengths, values => values.take length :: cut lengths (values.drop length)

end Batch

end CompactAdjacency
