import CompactAdjacency.Blob
import CompactAdjacency.CommandLine.Arguments
import CompactAdjacency.CommandLine.LogFilter
import CompactAdjacency.Config.PropertyFile
import CompactAdjacency.Cursor.Neighbors
import CompactAdjacency.Graph

/-!
# The command

The command reads a graph, compresses it, compares what it reads back with the graph, and writes the
statistics and the blob to the files it was asked for. It works with any `Files`, so that it can be
run on the files of the machine or on any other ones.
-/

namespace CompactAdjacency

/-- The neighbors that a graph should have after a build: its sorted successors, without repetitions
if parallel relationships collapse. -/
def Graph.expected (graph : Graph) (aggregation : Aggregation) (node : Nat) : List UInt64 :=
  let successors := graph.sortedSuccessors node
  if aggregation.resolve = .keepAll then successors
  else (Batch.cut (Batch.runLengths successors) successors).filterMap List.head?

/-- The number of nodes whose neighbors differ from what they should be. -/
def Graph.mismatches (graph : Graph) (lists : Lists) (aggregation : Aggregation) :
    Except Fault Nat :=
  (List.range graph.nodeCount).foldlM
    (fun count node => do
      let expected := graph.expected aggregation node
      if lists.degree node ≠ expected.length then pure (count + 1)
      else do
        let neighbors ← lists.neighbors node
        pure (if neighbors = expected then count else count + 1))
    0

namespace CommandLine

/-- Files that can be read and written. -/
structure Files (m : Type → Type) where
  read : String → m (Except FileCause Bytes)
  write : String → Bytes → m (Except FileCause Unit)

/-- How a command ended. -/
structure Ending where
  exitCode : UInt32
  /-- The failure that it logged. -/
  failure : Option Failure
  deriving DecidableEq, Repr

section Running

variable {m : Type → Type} [Monad m]

/-- Writes a file, if one is asked for. -/
def writeTo (files : Files m) (path : Option String) (content : Bytes) :
    ExceptT Failure m Unit := do
  match path with
  | none => pure ()
  | some path =>
      match ← files.write path content with
      | .ok () => pure ()
      | .error cause => throw (.file cause)

/-- The configuration that a request is about, for a number of workers where nothing says
otherwise. -/
def Request.config (request : Request) (files : Files m) (workers : UInt64) :
    ExceptT Failure m Config := do
  let config ←
    match request.configPath with
    | none => pure (Config.default workers)
    | some path =>
        match ← files.read path with
        | .error cause => throw (.file cause)
        | .ok bytes => MonadExcept.ofExcept (PropertyFile.readConfig workers bytes)
  pure
    { config with
      strategy := request.strategy.getD config.strategy
      workers := request.workers.getD config.workers }

/-- The graph that a request is about. -/
def Request.graph (request : Request) (files : Files m) : ExceptT Failure m Graph := do
  let content ← files.read request.graphPath
  let graph ← MonadExcept.ofExcept (Graph.empty.addFile (.unsigned 64) content)
  MonadExcept.ofExcept graph.finish

/-- Does what a request asks for, and answers whether every node reads back as it should. -/
def Request.run (request : Request) (files : Files m) (workers : UInt64) :
    ExceptT Failure m Bool := do
  let config ← request.config files workers
  let graph ← request.graph files
  let result ← MonadExcept.ofExcept (graph.toSource.build config .never)
  let mismatches ←
    match graph.mismatches result.lists config.aggregation with
    | .error fault => throw (.fault fault)
    | .ok mismatches => pure mismatches
  writeTo files request.statsPath result.lists.stats.toJson.toUTF8.data.toList
  writeTo files request.exportPath result.lists.toBytes
  pure (mismatches = 0)

/-- What is told of a failure before it is logged under a target. -/
def failureMessage (target : String) : LogMessage :=
  ⟨target.toList, ["message".toList, "error".toList]⟩

/-- Runs the command on its arguments. Failures are logged under a target. -/
def command (files : Files m) (target : String) (workers : UInt64) (arguments : List String) :
    m Ending := do
  match Request.ofArguments arguments with
  | .error .help => pure ⟨0, none⟩
  | .error .usage => pure ⟨2, none⟩
  | .ok request =>
      match LogFilter.ofText request.log.toList with
      | .error .malformed => pure ⟨1, none⟩
      | .error .splitCharacter => pure ⟨101, none⟩
      | .ok filter =>
          match ← (request.run files workers).run with
          | .ok true => pure ⟨0, none⟩
          | .ok false => pure ⟨1, none⟩
          | .error (.fault _) => pure ⟨101, none⟩
          | .error failure =>
              let logged := filter.admitsError (failureMessage target)
              pure ⟨1, if logged then some failure else none⟩

end Running

end CommandLine

end CompactAdjacency
