import CompactAdjacency.Lists

/-!
# Value cursors

A value cursor reads the values of one property channel of one node, in the order of the node's
neighbors. Values of an unpacked record are read in place, eight bytes each; those of a packed
record are decoded block by block like neighbors, though as they are and not as gaps.

`ValueCursor.run` is any sequence of operations on one cursor.
-/

namespace CompactAdjacency

/-- Where the values of a channel come from. -/
inductive ValueSource where
  /-- Eight bytes for each value. -/
  | words (bytes : Bytes)
  /-- A packed record. -/
  | blocks (decoder : Record.Decoder)
  deriving DecidableEq, Repr

/-- A place among the values of a channel of a node. -/
structure ValueCursor where
  source : ValueSource
  /-- The values of the current block, followed by what is left of earlier ones. -/
  block : List UInt64
  /-- The number of values in the current block. -/
  blockLength : Nat
  /-- The number of values consumed from the current block. -/
  index : Nat
  /-- The number of values consumed. -/
  position : Nat
  /-- The number of relationships of the node. -/
  degree : Nat
  positioned : Bool
  deriving DecidableEq, Repr

namespace ValueCursor

/-- A cursor at no node. -/
def raw : ValueCursor :=
  { source := .words []
    block := List.replicate blockSize 0
    blockLength := 0
    index := 0
    position := 0
    degree := 0
    positioned := false }

/-- Moves a cursor to the first value of a channel of a node. A channel that is not stored is
refused and leaves the cursor as it was. -/
def moveTo (lists : Lists) (properties : Properties) (cursor : ValueCursor) (node channel : Nat) :
    Except Fault Unit × ValueCursor :=
  if channel ≥ properties.channelCount.toNat then
    (.error (.channelOutOfRange channel properties.channelCount.toNat), cursor)
  else
    let degree := lists.degree node
    let cursor :=
      { cursor with
        positioned := true, position := 0, index := 0, blockLength := 0, degree := degree }
    match lists.channelRecord properties node channel, lists.layout node with
    | .error fault, _ => (.error fault, cursor)
    | .ok none, _ => (.ok (), { cursor with source := .words [] })
    | .ok (some bytes), .varint => (.ok (), { cursor with source := .words bytes })
    | .ok (some bytes), .packed =>
        match Record.Decoder.ofRecord bytes (Layout.packed.headerLength degree) degree false with
        | .error fault => (.error fault, cursor)
        | .ok decoder =>
            let step := decoder.step cursor.block
            let cursor := { cursor with block := step.block }
            match step.outcome with
            | .error fault => (.error fault, cursor)
            | .ok length =>
                (.ok (), { cursor with source := .blocks step.decoder, blockLength := length })

/-- A cursor at the first value of a channel of a node. -/
def at? (lists : Lists) (properties : Properties) (node channel : Nat) :
    Except Fault ValueCursor :=
  match moveTo lists properties raw node channel with
  | (.error fault, _) => .error fault
  | (.ok (), cursor) => .ok cursor

/-- Refuses a cursor that is at no node. -/
def requireNode (cursor : ValueCursor) : Except Fault Unit :=
  if cursor.positioned then .ok () else .error .valueCursorNotPositioned

/-- The number of values not consumed yet, zero at no node. -/
def length (cursor : ValueCursor) : Nat := cursor.degree - cursor.position

/-- The number of values not consumed yet. -/
def remaining (cursor : ValueCursor) : Except Fault Nat :=
  cursor.requireNode.map fun _ => cursor.length

/-- Whether there is a value left. -/
def hasNext (cursor : ValueCursor) : Except Fault Bool :=
  cursor.requireNode.map fun _ => cursor.position < cursor.degree

/-- Decodes the next block of a packed record, if the current one is used up. -/
def refill (cursor : ValueCursor) (decoder : Record.Decoder) : Except Fault Unit × ValueCursor :=
  if cursor.index = cursor.blockLength then
    let step := decoder.step cursor.block
    let cursor := { cursor with source := .blocks step.decoder, block := step.block }
    match step.outcome with
    | .error fault => (.error fault, cursor)
    | .ok length => (.ok (), { cursor with blockLength := length, index := 0 })
  else (.ok (), cursor)

/-- Consumes the next value, which there has to be. -/
def consume (cursor : ValueCursor) : Except Fault Binary64 × ValueCursor :=
  match cursor.source with
  | .words bytes =>
      match cut? Binary64.byteCount (bytes.drop (cursor.position * Binary64.byteCount)) with
      | none => (.error .outOfBounds, cursor)
      | some (word, _) =>
          (.ok ⟨(ofLittleEndian word).toUInt64⟩, { cursor with position := cursor.position + 1 })
  | .blocks decoder =>
      match cursor.refill decoder with
      | (.error fault, cursor) => (.error fault, cursor)
      | (.ok (), cursor) =>
          match cursor.block[cursor.index]? with
          | none => (.error .outOfBounds, cursor)
          | some bits =>
              (.ok ⟨bits⟩,
                { cursor with index := cursor.index + 1, position := cursor.position + 1 })

/-- Consumes the next value, if there is one. -/
def next (cursor : ValueCursor) : Except Fault (Option Binary64) × ValueCursor :=
  match cursor.hasNext with
  | .error fault => (.error fault, cursor)
  | .ok false => (.ok none, cursor)
  | .ok true =>
      match cursor.consume with
      | (.error fault, cursor) => (.error fault, cursor)
      | (.ok value, cursor) => (.ok (some value), cursor)

/-- Consumes up to `limit` values. -/
def take (cursor : ValueCursor) : Nat → Except Fault (List Binary64) × ValueCursor
  | 0 => (.ok [], cursor)
  | limit + 1 =>
      match cursor.next with
      | (.error fault, cursor) => (.error fault, cursor)
      | (.ok none, cursor) => (.ok [], cursor)
      | (.ok (some value), cursor) =>
          let (others, cursor) := cursor.take limit
          (others.map (value :: ·), cursor)

/-- Consumes all values left. -/
def drain (cursor : ValueCursor) : Except Fault (List Binary64) × ValueCursor :=
  cursor.take (cursor.length + 1)

end ValueCursor

/-! ## Sequences of operations -/

/-- One operation on a value cursor. -/
inductive ValueAction where
  | moveTo (node channel : Nat)
  | reuse (node channel : Nat)
  | length
  | remaining
  | hasNext
  | next
  deriving DecidableEq, Repr

/-- What an operation on a value cursor answers. -/
inductive ValueAnswer where
  | count (count : Nat)
  | holds (holds : Bool)
  | value (value : Option Binary64)
  deriving DecidableEq, Repr

namespace ValueCursor

/-- One operation. A cursor that cannot be reused is given up for one at no node. -/
def step (lists : Lists) (properties : Properties) (cursor : ValueCursor) :
    ValueAction → Except Fault ValueAnswer × ValueCursor
  | .moveTo node channel =>
      match cursor.moveTo lists properties node channel with
      | (.error fault, cursor) => (.error fault, cursor)
      | (.ok (), cursor) => (.ok (.count cursor.length), cursor)
  | .reuse node channel =>
      match cursor.moveTo lists properties node channel with
      | (.error fault, _) => (.error fault, raw)
      | (.ok (), cursor) => (.ok (.count cursor.length), cursor)
  | .length => (.ok (.count cursor.length), cursor)
  | .remaining => (cursor.remaining.map .count, cursor)
  | .hasNext => (cursor.hasNext.map .holds, cursor)
  | .next =>
      let (outcome, cursor) := cursor.next
      (outcome.map .value, cursor)

/-- A sequence of operations and the answers to them. -/
def run (lists : Lists) (properties : Properties) (cursor : ValueCursor) :
    List ValueAction → List (Except Fault ValueAnswer) × ValueCursor
  | [] => ([], cursor)
  | action :: rest =>
      let (answer, cursor) := cursor.step lists properties action
      let (answers, cursor) := cursor.run lists properties rest
      (answer :: answers, cursor)

end ValueCursor

namespace Lists

/-- The values of a channel for the relationships of a node. -/
def values (lists : Lists) (properties : Properties) (node channel : Nat) :
    Except Fault (List Binary64) := do
  let cursor ← ValueCursor.at? lists properties node channel
  cursor.drain.1

end Lists

end CompactAdjacency
