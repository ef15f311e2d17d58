import CompactAdjacency.Batch.Basic

/-!
# Preparing batches

`Batch.prepareInPlace` sorts a batch by target, keeping the order of parallel relationships, and
collapses them if the aggregation asks for it. Collapsing overwrites the columns it reads:
`Columns.step` reads the run of equal targets at one position and writes one relationship at
another, and what was not written over is cut off in the end. `Batch.prepare` is the batch that
remains, if it was not refused.
-/

namespace CompactAdjacency

namespace Batch

/-! ## Sorting -/

/-- Whether no target is greater than the next one. -/
def ascends (targets : List UInt64) : Bool :=
  (targets.zip (targets.drop 1)).all fun pair => pair.1 ≤ pair.2

/-- Positions in the order of their targets, parallel relationships in the order given. -/
def order (targets : List UInt64) : List (UInt64 × Nat) :=
  targets.zipIdx.mergeSort fun left right => left.1 ≤ right.1

/-- The entries of a list at the given positions. -/
def permute {α : Type} (order : List (UInt64 × Nat)) (values : List α) : List α :=
  let values := values.toArray
  order.filterMap fun entry => values[entry.2]?

/-- The batch in the order of its targets. Positions are sorted only if there is something to sort,
and values to move with the targets. -/
def sort (batch : Batch) : Batch :=
  if ascends batch.targets then batch
  else if batch.channels.isEmpty then { batch with targets := batch.targets.mergeSort }
  else
    let order := order batch.targets
    ⟨order.map Prod.fst, batch.channels.map (permute order)⟩

end Batch

/-! ## Collapsing parallel relationships -/

/-- The columns of a batch that is being collapsed: relationships are read from one position on, and
written to another. -/
structure Columns where
  targets : Array UInt64
  channels : List (Array Binary64)
  read : Nat
  write : Nat
  deriving DecidableEq, Repr

namespace Columns

/-- The columns of a batch before anything was read. -/
def ofBatch (batch : Batch) : Columns :=
  ⟨batch.targets.toArray, batch.channels.map List.toArray, 0, 0⟩

/-- The end of a run of equal targets that reaches up to a position. -/
def runEnd (targets : Array UInt64) (target : UInt64) (stop : Nat) : Nat :=
  if h : stop < targets.size then
    if targets[stop] = target then runEnd targets target (stop + 1) else stop
  else stop
termination_by targets.size - stop

theorem le_runEnd (targets : Array UInt64) (target : UInt64) (stop : Nat) :
    stop ≤ runEnd targets target stop := by
  fun_induction runEnd targets target stop with
  | case1 stop h hequal ih => exact Nat.le_of_succ_le ih
  | case2 stop h hdiffers => exact Nat.le_refl stop
  | case3 stop h => exact Nat.le_refl stop

/-- Writes the fold of a run of values over a value. -/
def reduce (aggregation : Aggregation) (read stop write : Nat) (values : Array Binary64) :
    Array Binary64 :=
  match values[read]? with
  | none => values
  | some first =>
      values.setIfInBounds write (aggregation.fold first (values.extract (read + 1) stop).toList)

/-- Reads the run of a target at the position, and writes one relationship for it. -/
def step (aggregation : Nat → Aggregation) (target : UInt64) : Columns → Columns
  | ⟨targets, channels, read, write⟩ =>
      let stop := runEnd targets target (read + 1)
      { targets := targets.setIfInBounds write target
        channels := channels.mapIdx fun channel => reduce (aggregation channel) read stop write
        read := stop
        write := write + 1 }

/-- A step comes closer to the end of the targets. -/
theorem step_decreases (aggregation : Nat → Aggregation) (target : UInt64) {columns : Columns}
    (h : columns.read < columns.targets.size) :
    (columns.step aggregation target).targets.size - (columns.step aggregation target).read <
      columns.targets.size - columns.read := by
  have hstop := le_runEnd columns.targets target (columns.read + 1)
  simp only [step, Array.size_setIfInBounds]
  omega

/-- Reads all runs. -/
def run (aggregation : Nat → Aggregation) (columns : Columns) : Columns :=
  if h : columns.read < columns.targets.size then
    (columns.step aggregation columns.targets[columns.read]).run aggregation
  else columns
termination_by columns.targets.size - columns.read
decreasing_by exact step_decreases aggregation _ h

/-- The relationships that have been written. -/
def written (columns : Columns) : Batch :=
  ⟨(columns.targets.take columns.write).toList,
    columns.channels.map fun values => (values.take columns.write).toList⟩

end Columns

/-! ## Preparing -/

namespace Batch

/-- The first channel that has not `length` values, and how many it has. -/
def mismatch (length : Nat) (channels : List (List Binary64)) : Option (Nat × Nat) :=
  (channels.zipIdx.find? fun channel => channel.1.length ≠ length).map fun channel =>
    (channel.2, channel.1.length)

/-- What preparing a batch leaves: the number of its relationships, and the batch. -/
structure Preparation where
  outcome : Except Failure Nat
  batch : Batch

/-- Sorts the batch of a node by target, and collapses parallel relationships unless they are kept.
A channel without exactly one value per target is refused. -/
def prepareInPlace (batch : Batch) (node : Nat) (topology : Aggregation)
    (channels : List Aggregation) : Preparation :=
  let length := batch.targets.length
  match mismatch length batch.channels with
  | some (channel, found) => ⟨.error (.channelLength node channel found length), batch⟩
  | none =>
      let sorted := batch.sort
      match topology.resolve with
      | .keepAll => ⟨.ok length, sorted⟩
      | topology =>
          let columns := (Columns.ofBatch sorted).run (topology.ofChannel channels)
          ⟨.ok columns.write, columns.written⟩

/-- The batch ready to be compressed, unless it was refused. -/
def prepare (batch : Batch) (node : Nat) (topology : Aggregation) (channels : List Aggregation) :
    Except Failure Batch :=
  let prepared := batch.prepareInPlace node topology channels
  prepared.outcome.map fun _ => prepared.batch

end Batch

end CompactAdjacency
