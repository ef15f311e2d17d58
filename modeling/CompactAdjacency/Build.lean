import CompactAdjacency.Batch.Preparing
import CompactAdjacency.Store

/-!
# Builds with several workers

A build compresses every node of a source. The nodes are shared out among workers, each of which has
a compressor and a partition of the directory, and takes the nodes of its partition in order: the
batch of a node is filled by the source, prepared, and compressed. A worker stops at its first
failure, or when it finds the termination flag raised before a node.

What the workers do is a list of events in any order, so that `Build.run` covers every way in which
they may interleave and every moment at which the flag may be raised. `Build.sequential` is the
order in which they act one after the other.
-/

namespace CompactAdjacency

/-- Where the relationships of a graph come from. -/
structure Source where
  nodeCount : Nat
  channelCount : UInt64
  /-- Adds the relationships of a node to a batch without relationships. -/
  fill : Nat → Batch → Except Failure Batch

/-- A worker of a build. -/
structure Worker where
  compressor : Nat
  part : Partition
  /-- The node it takes next. -/
  next : Nat
  /-- How it ended, `none` while it works. -/
  outcome : Option (Except Failure Unit)

/-- One step of a build. -/
inductive BuildEvent where
  /-- The worker of a number takes its next node. -/
  | advance (worker : Nat)
  /-- The termination flag is raised. -/
  | terminate
  deriving DecidableEq, Repr

/-- A build in progress. -/
structure Build where
  config : Config
  store : Store
  workers : List Worker
  /-- Whether the termination flag is raised. -/
  terminated : Bool
  /-- The sizes of the partitions that are done, in the order they were finished. -/
  progress : List Nat

/-- What a successful build leaves. -/
structure BuildResult where
  lists : Lists
  progress : List Nat

namespace Build

/-! ## Starting -/

/-- The configuration of a build: it stores as many channels as the source has, which the given
configuration may state but not contradict. -/
def configure (config : Config) (source : Source) : Except Failure Config :=
  if config.channelCount ≠ 0 ∧ config.channelCount ≠ source.channelCount then
    .error (.channelCount config.channelCount.toNat source.channelCount.toNat)
  else .ok { config with channelCount := source.channelCount }

/-- Makes sure that memory can hold the channels of a batch. Every worker begins with one, so that
more channels than that are a fault as soon as there is a node, whatever the termination flag. -/
def checkBatch (source : Source) : Except Failure Unit :=
  if source.nodeCount ≠ 0 ∧ source.channelCount.toNat * listSize ≥ allocationLimit then
    .error (.fault .outOfBounds)
  else .ok ()

/-- A build before its first step, with one worker for each partition. -/
def start (config : Config) (source : Source) : Except Failure Build := do
  let config ← configure config source
  let store ← Store.create config source.nodeCount
  checkBatch source
  let parts := store.directory.partitions config.workers.toNat
  pure
    { config := config
      store := parts.foldl (fun store _ => store.createCompressor) store
      workers := parts.mapIdx fun number part => ⟨number, part, part.start, none⟩
      terminated := false
      progress := [] }

/-! ## Stepping -/

/-- The batch of a node, prepared. -/
def prepare (build : Build) (source : Source) (node : Nat) : Except Failure Batch := do
  let batch ← source.fill node (.empty source.channelCount.toNat)
  batch.prepare node build.config.aggregation build.config.channelAggregations

/-- Compresses the next node of a worker. -/
def compressNext (build : Build) (source : Source) (worker : Worker) :
    Except Failure Unit × Store :=
  if build.terminated then (.error .terminated, build.store)
  else
    match build.prepare source worker.next with
    | .error failure => (.error failure, build.store)
    | .ok batch =>
        let compression := build.store.compress worker.compressor worker.part worker.next
          batch.targets batch.channels batch.targets.length
        (compression.outcome.map fun _ => (), compression.store)

/-- Ends a worker, which closes its compressor. -/
def finish (build : Build) (number : Nat) (worker : Worker) (outcome : Except Failure Unit) :
    Build :=
  { build with
    store := build.store.close worker.compressor
    workers := build.workers.set number { worker with outcome := some outcome }
    progress :=
      match outcome with
      | .ok () => build.progress ++ [worker.part.size]
      | .error _ => build.progress }

/-- Lets a worker take its next node. A worker that has ended does nothing, and one whose last node
this is ends. -/
def advance (build : Build) (source : Source) (number : Nat) : Build :=
  match build.workers[number]? with
  | none | some { outcome := some _, .. } => build
  | some worker =>
      if worker.part.stop ≤ worker.next then build.finish number worker (.ok ())
      else
        let (outcome, store) := build.compressNext source worker
        let build := { build with store := store }
        let worker := { worker with next := worker.next + 1 }
        match outcome with
        | .error failure => build.finish number worker (.error failure)
        | .ok () =>
            if worker.part.stop ≤ worker.next then build.finish number worker (.ok ())
            else { build with workers := build.workers.set number worker }

/-- One step of a build. -/
def step (build : Build) (source : Source) : BuildEvent → Build
  | .advance number => build.advance source number
  | .terminate => { build with terminated := true }

/-- A sequence of steps. -/
def run (build : Build) (source : Source) (events : List BuildEvent) : Build :=
  events.foldl (fun build event => build.step source event) build

/-! ## Ending -/

/-- How the worker of lowest number that failed did so. -/
def failure? (build : Build) : Option Failure :=
  build.workers.findSome? fun worker =>
    match worker.outcome with
    | some (.error failure) => some failure
    | _ => none

/-- Whether every worker has ended. -/
def isDone (build : Build) : Bool := build.workers.all fun worker => worker.outcome.isSome

/-- The end of a build: a failure as soon as a worker has failed, and the finished lists if every
worker came to the end of its partition; `none` while some are still at work. -/
def result? (build : Build) : Option (Except Failure BuildResult) :=
  match build.failure? with
  | some failure => some (.error failure)
  | none =>
      if build.isDone then
        some (build.store.freeze.map fun lists => ⟨lists, build.progress⟩)
      else none

/-! ## Workers one after the other -/

/-- The events of one worker, with the flag raised right after one of the nodes if it is among
them. -/
def partEvents (number : Nat) (raisedAfter : Option Nat) (part : Partition) : List BuildEvent :=
  (List.range' part.start part.size).flatMap fun node =>
    if raisedAfter = some node then [.advance number, .terminate] else [.advance number]

/-- The events of all workers, one worker after the other. -/
def sequential (build : Build) (raisedAfter : Option Nat) : List BuildEvent :=
  (build.workers.mapIdx fun number worker => partEvents number raisedAfter worker.part).flatten

end Build

/-- How the termination flag is raised. -/
inductive Termination where
  | never
  | before
  /-- While the batch of a node is filled. -/
  | during (node : Nat)
  deriving DecidableEq, Repr

/-- The moment after which the flag is raised, if it is a node. -/
def Termination.node? : Termination → Option Nat
  | .during node => some node
  | _ => none

/-- Compresses every node of a source, one worker after the other. -/
def Source.build (source : Source) (config : Config) (termination : Termination) :
    Except Failure BuildResult := do
  let build ← Build.start config source
  let build := { build with terminated := decide (termination = Termination.before) }
  let build := build.run source (build.sequential termination.node?)
  build.result?.getD (.error .terminated)

end CompactAdjacency
