import CompactAdjacency.CommandLine.Command

/-!
# The program

The command on the files of the machine, with one worker unless the arguments or the configuration
say otherwise.
-/

namespace CompactAdjacency.Program

open CommandLine

/-- The name under which the program logs. -/
def name : String := "compact_adjacency"

/-- What is shown for arguments that ask for help or break the rules. -/
def usage : String :=
  "Usage: " ++ name ++ " GRAPH [--config FILE] [--strategy NAME] [--concurrency NUMBER]" ++
    " [--export FILE] [--stats-json FILE] [--log FILTER]"

/-- The cause of an error of the system. -/
def fileCause : IO.Error → FileCause
  | .noFileOrDirectory .. => .notFound
  | error => .reported (toString error)

/-- The files of the machine. -/
def files : Files IO where
  read path := do
    try
      let bytes ← IO.FS.readBinFile path
      pure (.ok bytes.data.toList)
    catch error => pure (.error (fileCause error))
  write path content := do
    try
      IO.FS.writeBinFile path ⟨content.toArray⟩
      pure (.ok ())
    catch error => pure (.error (fileCause error))

end CompactAdjacency.Program

open CompactAdjacency CommandLine in
/-- Runs the command and shows what went wrong, if anything. -/
def main (arguments : List String) : IO UInt32 := do
  let ending ← command Program.files Program.name 1 arguments
  match Request.ofArguments arguments with
  | .error .help => IO.println Program.usage
  | .error .usage => IO.eprintln Program.usage
  | .ok _ => pure ()
  match ending.failure.bind Failure.message with
  | some message => IO.eprintln ("build failed: " ++ message)
  | none => pure ()
  pure ending.exitCode
