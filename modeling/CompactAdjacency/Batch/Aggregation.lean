import CompactAdjacency.Failure
import CompactAdjacency.Text.Uppercase
import CompactAdjacency.Value.Binary64

/-!
# Aggregations

Several relationships of a node with one target are parallel. An aggregation says what becomes of
them: they are kept as they are, or they collapse into one relationship, whose property values are
folded in the order they were given.
-/

namespace CompactAdjacency

/-- What becomes of parallel relationships. -/
inductive Aggregation where
  /-- Whatever applies where nothing is chosen, which is to keep them. -/
  | byDefault
  /-- All of them are kept. -/
  | keepAll
  /-- The first one stands for all. -/
  | single
  /-- Their values are added. -/
  | sum
  /-- Their least value is kept. -/
  | min
  /-- Their greatest value is kept. -/
  | max
  /-- Their number is kept. -/
  | count
  deriving DecidableEq, Repr, Inhabited

namespace Aggregation

/-! ## Names -/

/-- All aggregations. -/
def all : List Aggregation := [.byDefault, .keepAll, .single, .sum, .min, .max, .count]

/-- The name of an aggregation. -/
def name : Aggregation → String
  | .byDefault => "DEFAULT"
  | .keepAll => "NONE"
  | .single => "SINGLE"
  | .sum => "SUM"
  | .min => "MIN"
  | .max => "MAX"
  | .count => "COUNT"

/-- The name of an aggregation in structured output. -/
def label : Aggregation → String
  | .byDefault => "Default"
  | .keepAll => "None"
  | .single => "Single"
  | .sum => "Sum"
  | .min => "Min"
  | .max => "Max"
  | .count => "Count"

/-- The aggregation of a name, in any case and with blanks around it. -/
def ofText (text : List Char) : Except Failure Aggregation :=
  let text := Text.upper (Text.trim text)
  match all.find? (fun aggregation => aggregation.name.toList = text) with
  | some aggregation => .ok aggregation
  | none => .error (.config (.unknownAggregation (String.ofList text)))

/-- The aggregations of a list of names between commas; blank names are passed over. -/
def listOfText (text : List Char) : Except Failure (List Aggregation) :=
  (((Text.splitOn ',' text).map Text.trim).filter (! ·.isEmpty)).mapM ofText

/-! ## Folding values -/

/-- The aggregation that is meant: keeping all, where nothing is chosen. -/
def resolve : Aggregation → Aggregation
  | .byDefault => .keepAll
  | aggregation => aggregation

/-- The value of a single relationship. -/
def initial : Aggregation → Binary64 → Binary64
  | .count, _ => .one
  | _, value => value

/-- The value after one relationship more. -/
def merge : Aggregation → Binary64 → Binary64 → Binary64
  | .sum, running, value => running.add value
  | .min, running, value => running.least value
  | .max, running, value => running.greatest value
  | .count, running, _ => running.add .one
  | _, running, _ => running

/-- The value of parallel relationships, from the value of the first one and those of the
others. -/
def fold (aggregation : Aggregation) (first : Binary64) (others : List Binary64) : Binary64 :=
  others.foldl aggregation.merge (aggregation.initial first)

/-- The values after each of several relationships. -/
def runningFold (aggregation : Aggregation) (running : Binary64) : List Binary64 → List Binary64
  | [] => [running]
  | value :: rest => running :: aggregation.runningFold (aggregation.merge running value) rest

/-- The aggregation of the values in one channel: its own if it has one that collapses, and that of
the relationships otherwise. -/
def ofChannel (topology : Aggregation) (channels : List Aggregation) (channel : Nat) :
    Aggregation :=
  match (channels[channel]?).map resolve with
  | none | some .keepAll => topology
  | some aggregation => aggregation

end Aggregation

end CompactAdjacency
