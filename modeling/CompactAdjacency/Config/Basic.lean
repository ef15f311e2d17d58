import CompactAdjacency.Batch.Aggregation
import CompactAdjacency.Record.Layout
import CompactAdjacency.Text.Integer

/-!
# Configurations

A configuration says how a graph is compressed: the strategy and threshold that decide record
layouts, what becomes of parallel relationships, how many property channels and workers there are,
and how large a page is. It is read from a table of keys and values, where a missing or blank value
leaves the default, and written as such a table or as one line of structured text. `check` refuses
configurations that no build can follow; reading refuses them as well.
-/

namespace CompactAdjacency

/-! ## Names of strategies and layouts -/

namespace Strategy

/-- The name of a strategy. -/
def name : Strategy → String
  | .packed => "packed"
  | .varint => "varlong"
  | .mixed => "mixed"

/-- The name of a strategy in structured output. -/
def label : Strategy → String
  | .packed => "Packed"
  | .varint => "DeltaVarLong"
  | .mixed => "Mixed"

/-- The strategies and the names they are read under. -/
def spellings : List (String × Strategy) :=
  [("PACKED", .packed), ("VARLONG", .varint), ("DELTA_VARLONG", .varint), ("VLONG", .varint),
    ("MIXED", .mixed)]

/-- The strategy of a name, in any case and with blanks around it. -/
def ofText (text : List Char) : Except Failure Strategy :=
  let text := Text.upper (Text.trim text)
  match spellings.find? (fun spelling => spelling.1.toList = text) with
  | some spelling => .ok spelling.2
  | none => .error (.config (.unknownStrategy (String.ofList text)))

end Strategy

/-- The name of a record layout. -/
def Layout.label : Layout → String
  | .packed => "Packed"
  | .varint => "DeltaVarLong"

/-! ## Configurations -/

/-- How a graph is compressed. -/
structure Config where
  strategy : Strategy
  /-- The number of blocks that the mixed strategy leaves unpacked. -/
  threshold : UInt64
  aggregation : Aggregation
  /-- The aggregations of the property channels, in the order of the channels. -/
  channelAggregations : List Aggregation
  channelCount : UInt64
  workers : UInt64
  pageSize : UInt64
  deriving DecidableEq, Repr, Inhabited

namespace Config

/-- The number of blocks that the mixed strategy leaves unpacked by default. -/
def defaultThreshold : UInt64 := 8

/-- The default size of a page, one mebibyte. -/
def defaultPageSize : UInt64 := 1048576

/-- The configuration without any choices, for a number of workers. -/
def default (workers : UInt64) : Config :=
  { strategy := .mixed
    threshold := defaultThreshold
    aggregation := .keepAll
    channelAggregations := []
    channelCount := 0
    workers := workers
    pageSize := defaultPageSize }

/-- The layout rule of a configuration. -/
def layoutRule (config : Config) : LayoutRule :=
  .ofBlocks config.strategy config.threshold

/-- The aggregation chosen for a channel. -/
def channelAggregation (config : Config) (channel : Nat) : Aggregation :=
  config.channelAggregations[channel]?.getD .byDefault

/-- Why no build can follow a configuration, if so. -/
def problem? (config : Config) : Option ConfigCause :=
  if config.workers = 0 then some .noWorkers
  else if config.pageSize = 0 ∨ config.pageSize.toNat ≥ UInt32.size then
    some (.pageSize config.pageSize)
  else if config.threshold.toNat * blockSize ≥ UInt64.size then
    some (.thresholdOverflow config.threshold)
  else if config.channelAggregations.length > config.channelCount.toNat then
    some (.tooManyAggregations config.channelAggregations.length config.channelCount.toNat)
  else none

/-- Refuses a configuration that no build can follow. -/
def check (config : Config) : Except Failure Unit :=
  match config.problem? with
  | some cause => .error (.config cause)
  | none => .ok ()

/-- What a configuration needs for a build to follow it. -/
theorem check_eq_ok_iff {config : Config} :
    config.check = .ok () ↔ config.workers ≠ 0 ∧
      (config.pageSize ≠ 0 ∧ config.pageSize.toNat < UInt32.size) ∧
      config.threshold.toNat * blockSize < UInt64.size ∧
      config.channelAggregations.length ≤ config.channelCount.toNat := by
  unfold check problem?
  by_cases hworkers : config.workers = 0
  · simp [hworkers]
  by_cases hpage : config.pageSize = 0 ∨ config.pageSize.toNat ≥ UInt32.size
  · simp only [if_neg hworkers, if_pos hpage, reduceCtorEq, false_iff]
    intro h
    rcases hpage with hzero | hlarge
    · exact h.2.1.1 hzero
    · exact Nat.not_lt.mpr hlarge h.2.1.2
  have hsize : config.pageSize ≠ 0 ∧ config.pageSize.toNat < UInt32.size :=
    ⟨fun hzero => hpage (.inl hzero), Nat.not_le.mp fun hlarge => hpage (.inr hlarge)⟩
  by_cases hthreshold : config.threshold.toNat * blockSize ≥ UInt64.size
  · simp [if_neg hworkers, if_neg hpage, if_pos hthreshold, Nat.not_lt.mpr hthreshold]
  by_cases hchannels : config.channelAggregations.length > config.channelCount.toNat
  · simp [if_neg hworkers, if_neg hpage, if_neg hthreshold, if_pos hchannels,
      Nat.not_le.mpr hchannels]
  simp only [if_neg hworkers, if_neg hpage, if_neg hthreshold, if_neg hchannels, true_iff]
  exact ⟨hworkers, hsize, Nat.not_le.mp hthreshold, Nat.not_lt.mp hchannels⟩

/-! ## Tables of keys and values -/

/-- Keys and their values; of two values for one key the later one counts. -/
abbrev Table := List (String × String)

/-- The value of a key. -/
def Table.value? (table : Table) (key : String) : Option String :=
  (table.reverse.find? fun entry => entry.1 = key).map Prod.snd

/-- Reads the value of a key, `none` if it is missing or blank. -/
def readKey {α : Type} (table : Table) (key : String) (read : List Char → Option α) :
    Except Failure (Option α) :=
  match table.value? key with
  | none => .ok none
  | some value =>
      match Text.trim value.toList with
      | [] => .ok none
      | text =>
          match read text with
          | some result => .ok (some result)
          | none => .error (.config (.unreadable key (String.ofList text)))

/-- The configuration of a table, for a number of workers if the table gives none. -/
def ofTable (workers : UInt64) (table : Table) : Except Failure Config := do
  let strategy ← readKey table "strategy" fun text => (Strategy.ofText text).toOption
  let threshold ← readKey table "packedthreshold" Text.word?
  let aggregation ← readKey table "aggregation" fun text => (Aggregation.ofText text).toOption
  let channelCount ← readKey table "propertycount" Text.word?
  let givenWorkers ← readKey table "concurrency" Text.word?
  let pageSize ← readKey table "arenapagesize" Text.word?
  let channelAggregations ←
    match table.value? "propertyaggregations" with
    | some value => Aggregation.listOfText value.toList
    | none => .ok []
  let start := default workers
  let config : Config :=
    { strategy := strategy.getD start.strategy
      threshold := threshold.getD start.threshold
      aggregation := aggregation.getD start.aggregation
      channelAggregations := channelAggregations
      channelCount := channelCount.getD start.channelCount
      workers := givenWorkers.getD start.workers
      pageSize := pageSize.getD start.pageSize }
  config.check
  pure config

/-- The table of a configuration, in the order its lines are written. -/
def toTable (config : Config) : Table :=
  [("strategy", config.strategy.name),
    ("packedthreshold", toString config.threshold.toNat),
    ("aggregation", config.aggregation.name),
    ("propertycount", toString config.channelCount.toNat),
    ("propertyaggregations",
      String.intercalate "," (config.channelAggregations.map Aggregation.name)),
    ("concurrency", toString config.workers.toNat),
    ("arenapagesize", toString config.pageSize.toNat)]

/-! ## Written forms -/

/-- The lines of a properties file with this configuration. -/
def render (config : Config) : String :=
  "#Compressed adjacency properties\n" ++
    String.join (config.toTable.map fun entry => entry.1 ++ "=" ++ entry.2 ++ "\n")

/-- A text between double quotes, for texts without characters to escape. -/
def quoted (text : String) : String := "\"" ++ text ++ "\""

/-- The configuration as one line of JSON. -/
def toJson (config : Config) : String :=
  let fields :=
    [("strategy", quoted config.strategy.label),
      ("packed_threshold", toString config.threshold.toNat),
      ("aggregation", quoted config.aggregation.label),
      ("property_aggregations",
        "[" ++ String.intercalate ","
          (config.channelAggregations.map fun aggregation => quoted aggregation.label) ++ "]"),
      ("property_count", toString config.channelCount.toNat),
      ("concurrency", toString config.workers.toNat),
      ("arena_page_size", toString config.pageSize.toNat)]
  "\x7b" ++ String.intercalate "," (fields.map fun field => quoted field.1 ++ ":" ++ field.2) ++
    "\x7d"

end Config

end CompactAdjacency
