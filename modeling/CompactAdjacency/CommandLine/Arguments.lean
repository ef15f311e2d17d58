import CompactAdjacency.Config.Basic

/-!
# Command line arguments

A command names one graph file and gives options, each at most once. The value of an option follows
an equals sign, or is the next argument unless that looks like an option itself. After two dashes
alone every argument is a file. Arguments are taken from left to right, and the first one that is
wrong, or that asks for help, decides.
-/

namespace CompactAdjacency.CommandLine

/-- The options of a command that have a value. -/
inductive OptionName where
  | config
  | strategy
  | workers
  | exportPath
  | statsPath
  | log
  deriving DecidableEq, Repr

/-- What a command asks for. -/
structure Request where
  graphPath : String
  configPath : Option String
  strategy : Option Strategy
  workers : Option UInt64
  exportPath : Option String
  statsPath : Option String
  log : String
  deriving DecidableEq, Repr

/-- Why arguments are no request. -/
inductive Refusal where
  /-- They ask for help. -/
  | help
  /-- They do not follow the rules. -/
  | usage
  deriving DecidableEq, Repr

/-- The arguments taken so far. -/
structure Draft where
  graphPath : Option String
  values : List (OptionName × String)
  deriving DecidableEq, Repr

namespace OptionName

/-- All options and what they are called. -/
def spellings : List (String × OptionName) :=
  [("config", .config), ("strategy", .strategy), ("concurrency", .workers),
    ("export", .exportPath), ("stats-json", .statsPath), ("log", .log)]

/-- The option that is called by a text. -/
def ofText? (text : List Char) : Option OptionName :=
  (spellings.find? fun spelling => spelling.1.toList = text).map Prod.snd

/-- Whether an option can have a value. -/
def accepts (name : OptionName) (value : String) : Bool :=
  match name with
  | .config | .exportPath | .statsPath => !value.isEmpty
  | .strategy => (Strategy.ofText value.toList).toOption.isSome
  | .workers => (Text.word? value.toList).isSome
  | .log => true

end OptionName

namespace Draft

/-- No arguments. -/
def empty : Draft := ⟨none, []⟩

/-- The value of an option. -/
def value? (draft : Draft) (name : OptionName) : Option String :=
  (draft.values.find? fun entry => entry.1 = name).map Prod.snd

/-- Gives an option a value. -/
def set (draft : Draft) (name : OptionName) (value : String) : Except Refusal Draft :=
  if (draft.value? name).isSome || !name.accepts value then .error .usage
  else .ok { draft with values := draft.values ++ [(name, value)] }

/-- Names the graph file. -/
def setGraph (draft : Draft) (path : String) : Except Refusal Draft :=
  if draft.graphPath.isSome || path.isEmpty then .error .usage
  else .ok { draft with graphPath := some path }

/-- Names the graph file by the only one of several arguments. -/
def setGraphs (draft : Draft) (paths : List String) : Except Refusal Draft :=
  paths.foldlM setGraph draft

/-- The request of complete arguments. -/
def complete (draft : Draft) : Except Refusal Request :=
  match draft.graphPath with
  | none => .error .usage
  | some path =>
      .ok
        { graphPath := path
          configPath := draft.value? .config
          strategy := (draft.value? .strategy).bind fun text =>
            (Strategy.ofText text.toList).toOption
          workers := (draft.value? .workers).bind fun text => Text.word? text.toList
          exportPath := draft.value? .exportPath
          statsPath := draft.value? .statsPath
          log := (draft.value? .log).getD "info" }

end Draft

/-- Whether an argument looks like an option, so that it is no value of the one before it. -/
def looksLikeOption (argument : String) : Bool :=
  match argument.toList with
  | '-' :: _ :: _ => true
  | _ => false

/-- Takes arguments from left to right. -/
def readArguments (draft : Draft) : List String → Except Refusal Draft
  | [] => .ok draft
  | argument :: rest =>
      match argument.toList with
      | ['-', '-'] => draft.setGraphs rest
      | '-' :: '-' :: text =>
          match Text.splitOnce '=' text with
          | some (name, value) =>
              match OptionName.ofText? name with
              | none => .error .usage
              | some name => do readArguments (← draft.set name (String.ofList value)) rest
          | none =>
              if text = "help".toList then .error .help
              else
                match OptionName.ofText? text, rest with
                | some name, value :: rest =>
                    if looksLikeOption value then .error .usage
                    else do readArguments (← draft.set name value) rest
                | _, _ => .error .usage
      | ['-'] => do readArguments (← draft.setGraph argument) rest
      | '-' :: short :: _ => if short = 'h' then .error .help else .error .usage
      | _ => do readArguments (← draft.setGraph argument) rest

/-- The request that arguments make. -/
def Request.ofArguments (arguments : List String) : Except Refusal Request := do
  (← readArguments .empty arguments).complete

end CompactAdjacency.CommandLine
