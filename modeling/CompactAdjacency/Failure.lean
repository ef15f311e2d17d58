import CompactAdjacency.Text.Quoted

/-!
# Failures and faults

Two ways of not getting an answer are kept apart. A `Fault` is a use outside of an operation's
contract: bytes that end too early for an unchecked read, a width no word has, a cursor that was
never positioned. A `Failure` is an outcome that a caller is meant to handle, such as targets out of
order or a blob that does not decode; it also carries faults, for operations that may end in either.
Every cause is a constructor, and `Failure.message` holds the wording of all of them.
-/

namespace CompactAdjacency

/-! ## Faults -/

/-- A use of an operation outside of its contract. -/
inductive Fault where
  /-- A read or write outside of the bytes, entries or memory there are. -/
  | outOfBounds
  /-- A bit field too wide to write. -/
  | writeWidth (bits : Nat)
  /-- A bit field too wide to read. -/
  | readWidth (bits : Nat)
  /-- A packed block whose values are wider than a word. -/
  | blockWidth (bits : Nat)
  /-- A page size that is zero or does not fit 32 bits. -/
  | pageSize
  /-- A read through a neighbor cursor before it was positioned at a node. -/
  | cursorNotPositioned
  /-- A read through a value cursor before it was positioned at a node. -/
  | valueCursorNotPositioned
  /-- A property channel that is not stored. -/
  | channelOutOfRange (channel stored : Nat)
  /-- A text whose bytes end inside of a character. -/
  | unfinishedText
  deriving DecidableEq, Repr

/-- What a fault states about itself; reads out of bounds and unfinished texts
state nothing. -/
def Fault.message : Fault → Option String
  | .outOfBounds => none
  | .writeWidth bits => some s!"Cannot write {bits} bits to an integer"
  | .readWidth bits => some s!"Cannot read {bits} bits into an integer"
  | .blockWidth bits => some s!"Bit width {bits} is outside of [0, 64]"
  | .pageSize => some "Page size has to be in [1, 2^32)"
  | .cursorNotPositioned => some "Cursor used before being initialized"
  | .valueCursorNotPositioned => some "Property cursor used before being initialized"
  | .channelOutOfRange channel stored =>
      some s!"Property channel {channel} out of range, {stored} channels stored"
  | .unfinishedText => none

/-! ## Causes of failure -/

/-- Why a configuration is refused. -/
inductive ConfigCause where
  | noWorkers
  | pageSize (size : UInt64)
  | thresholdOverflow (threshold : UInt64)
  | tooManyAggregations (given channels : Nat)
  | unreadable (key value : String)
  | unknownStrategy (text : String)
  | unknownAggregation (text : String)
  | escapeNotHex (line : Nat)
  | escapeTooShort (line : Nat)
  | escapeNoCharacter (line : Nat)
  /-- A cause reported by whoever supplies the relationships. -/
  | reported (text : String)
  deriving DecidableEq, Repr

/-- The wording of a refused configuration. -/
def ConfigCause.message : ConfigCause → String
  | .noWorkers => "concurrency has to be at least 1"
  | .pageSize size => s!"arena page size {size} is outside of [1, 2^32)"
  | .thresholdOverflow threshold =>
      s!"packed threshold {threshold} overflows once scaled by the block size 64"
  | .tooManyAggregations given channels =>
      s!"{given} property aggregations given for {channels} property channels"
  | .unreadable key value => s!"Failed in reading {key} from properties: {value}"
  | .unknownStrategy text => s!"Unknown compression strategy {text}"
  | .unknownAggregation text => s!"Unknown aggregation {text}"
  | .escapeNotHex line => s!"Malformed \\uxxxx encoding: not hex. (line_number = {line})"
  | .escapeTooShort line =>
      s!"Malformed \\uxxxx encoding: not enough digits. (line_number = {line})"
  | .escapeNoCharacter line =>
      s!"Malformed \\uxxxx encoding: invalid character. (line_number = {line})"
  | .reported text => text

/-- Why a blob is refused. -/
inductive BlobCause where
  | unexpectedEnd
  | unknownStrategy (tag : Nat)
  | unknownOption (tag : Nat)
  /-- The declared channel count and the presence of a property arena contradict each other. -/
  | channelsDisagree (declared : Nat) (arena : Bool)
  | arraysDiffer
  | relationshipsDisagree (declared total : Nat)
  | adjacencyOverrun (node : Nat)
  | propertyOverrun (node : Nat)
  deriving DecidableEq, Repr

/-- The wording of a refused blob. -/
def BlobCause.message : BlobCause → String
  | .unexpectedEnd => "io error: unexpected end of file"
  | .unknownStrategy tag =>
      "invalid value: integer `" ++ toString tag ++ "`, expected variant index 0 <= i < 3"
  | .unknownOption tag => s!"tag for enum is not valid, found {tag}"
  | .channelsDisagree declared arena =>
      s!"blob declares {declared} property channels but " ++ (if arena then "has" else "lacks")
        ++ " a property arena"
  | .arraysDiffer => "directory arrays differ in length"
  | .relationshipsDisagree declared total =>
      s!"blob declares {declared} relationships but its degrees add up to {total}"
  | .adjacencyOverrun node => s!"adjacency record of node {node} overruns its arena"
  | .propertyOverrun node => s!"property record of node {node} overruns its arena"

/-- Why a file cannot be read or written. -/
inductive FileCause where
  | notFound
  | notUnicode
  /-- A cause in the words of the system. -/
  | reported (text : String)
  deriving DecidableEq, Repr

/-- The wording of a file that cannot be read or written. -/
def FileCause.message : FileCause → String
  | .notFound => "No such file or directory (os error 2)"
  | .notUnicode => "stream did not contain valid UTF-8"
  | .reported text => text

/-- Operations on a block-decoded cursor that no such cursor supports. -/
inductive Unsupported where
  | advanceByOffset
  | shallowCopy
  deriving DecidableEq, Repr

/-- The wording of an unsupported operation. -/
def Unsupported.message : Unsupported → String
  | .advanceByOffset => "advance by offset on a block cursor"
  | .shallowCopy => "shallow copy of a block cursor"

/-! ## Failures -/

/-- An outcome other than an answer. -/
inductive Failure where
  /-- The target at `position` is smaller than the one before it. -/
  | unsortedTargets (node position : Nat)
  /-- More relationships are asked for than there are targets, or than a directory can count. -/
  | degreeMismatch (node degree available : Nat)
  /-- A channel has not as many values as the node has relationships. -/
  | channelLength (node channel length degree : Nat)
  /-- A batch has not as many channels as the store. -/
  | channelCount (expected actual : Nat)
  | nodeOutOfPartition (node start stop : Nat)
  | capacityExhausted (requested : Nat)
  /-- A page was handed out and never came back. -/
  | unsealedPage (page : Nat)
  | notImplemented (operation : Unsupported)
  | terminated
  | config (cause : ConfigCause)
  | malformedToken (line : Nat) (token : String)
  | file (cause : FileCause)
  | blob (cause : BlobCause)
  | fault (cause : Fault)
  deriving DecidableEq, Repr

instance : Coe Fault Failure := ⟨.fault⟩

/-- The wording of a failure; only a fault may have none. -/
def Failure.message : Failure → Option String
  | .unsortedTargets node position =>
      some s!"targets of node {node} are not sorted ascending at position {position}"
  | .degreeMismatch node degree available =>
      some s!"degree {degree} of node {node} exceeds the {available} provided targets"
  | .channelLength node channel length degree =>
      some s!"property channel {channel} of node {node} holds {length} values, expected {degree}"
  | .channelCount expected actual => some s!"expected {expected} property channels, got {actual}"
  | .nodeOutOfPartition node start stop =>
      some s!"node {node} is outside the directory partition [{start}, {stop})"
  | .capacityExhausted requested =>
      some s!"arena capacity exhausted while allocating {requested} bytes"
  | .unsealedPage page =>
      some s!"arena page {page} was handed out but never sealed; a compressor outlived the build"
  | .notImplemented operation => some ("not implemented: " ++ operation.message)
  | .terminated => some "build terminated before completion"
  | .config cause => some ("configuration error: " ++ cause.message)
  | .malformedToken line token =>
      some ("malformed token " ++ Text.quote token ++ s!" on line {line}")
  | .file cause => some ("I/O error: " ++ cause.message)
  | .blob cause => some ("serialization error: " ++ cause.message)
  | .fault cause => cause.message

end CompactAdjacency
