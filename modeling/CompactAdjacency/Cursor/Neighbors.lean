import CompactAdjacency.Lists

/-!
# Neighbor cursors

A cursor reads the neighbors of one node at a time, in ascending order, and can be moved to another
node at any time. It holds one decoded block of 64 values; the next one is decoded only when the
current one is used up. Seeking consumes neighbors up to one that is large enough, and answers
`notFound` if there is none.

Before it is positioned, a cursor only tells its state and an empty length. Records are trusted
here: where the bytes turn out to be no record, an operation ends in a fault and leaves the cursor
as far as it got.

`NeighborCursor.run` is any sequence of operations on one cursor.
-/

namespace CompactAdjacency

/-- The answer of a search that finds no neighbor. -/
def notFound : UInt64 := 0xFFFFFFFFFFFFFFFF

/-- Whether a cursor is at a node, and whether it has neighbors left there. -/
inductive CursorState where
  | uninitialized
  | blockReady
  | exhausted
  deriving DecidableEq, Repr, Inhabited

/-- The name of a state. -/
def CursorState.label : CursorState → String
  | .uninitialized => "Uninitialized"
  | .blockReady => "BlockReady"
  | .exhausted => "Exhausted"

/-- A place among the neighbors of a node. -/
structure NeighborCursor where
  decoder : Record.Decoder
  /-- The values of the current block, followed by what is left of earlier ones. -/
  block : List UInt64
  /-- The number of values in the current block. -/
  blockLength : Nat
  /-- The number of values consumed from the current block. -/
  index : Nat
  /-- The number of neighbors consumed. -/
  position : Nat
  /-- The number of neighbors of the node. -/
  degree : Nat
  state : CursorState
  deriving DecidableEq, Repr

namespace NeighborCursor

/-- A cursor at no node. -/
def raw : NeighborCursor :=
  { decoder := .empty
    block := List.replicate blockSize 0
    blockLength := 0
    index := 0
    position := 0
    degree := 0
    state := .uninitialized }

/-! ## Positioning -/

/-- Decodes the next block. -/
def refill (cursor : NeighborCursor) : Except Fault Unit × NeighborCursor :=
  let step := cursor.decoder.step cursor.block
  let cursor := { cursor with decoder := step.decoder, block := step.block }
  match step.outcome with
  | .error fault => (.error fault, cursor)
  | .ok length => (.ok (), { cursor with blockLength := length })

/-- Moves a cursor to the first neighbor of a node. -/
def moveTo (lists : Lists) (cursor : NeighborCursor) (node : Nat) :
    Except Fault Unit × NeighborCursor :=
  let degree := lists.degree node
  let cursor := { cursor with degree := degree, position := 0, index := 0 }
  match lists.record node with
  | .error fault => (.error fault, cursor)
  | .ok none =>
      (.ok (), { cursor with decoder := .empty, blockLength := 0, state := .exhausted })
  | .ok (some bytes) =>
      let headerLength := (lists.layout node).headerLength degree
      match Record.Decoder.ofRecord bytes headerLength degree true with
      | .error fault => (.error fault, cursor)
      | .ok decoder =>
          match { cursor with decoder := decoder }.refill with
          | (.error fault, cursor) => (.error fault, cursor)
          | (.ok (), cursor) => (.ok (), { cursor with state := .blockReady })

/-- A cursor at the first neighbor of a node. -/
def at? (lists : Lists) (node : Nat) : Except Fault NeighborCursor :=
  match moveTo lists raw node with
  | (.error fault, _) => .error fault
  | (.ok (), cursor) => .ok cursor

/-- Forgets the node a cursor is at, and moves it to the first neighbor of another one. -/
def reuse (lists : Lists) (cursor : NeighborCursor) (node : Nat) :
    Except Fault Unit × NeighborCursor :=
  moveTo lists { cursor with state := .uninitialized } node

/-! ## Looking -/

/-- Refuses a cursor that is at no node. -/
def requireNode (cursor : NeighborCursor) : Except Fault Unit :=
  if cursor.state = .uninitialized then .error .cursorNotPositioned else .ok ()

/-- The number of neighbors not consumed yet, zero at no node. -/
def length (cursor : NeighborCursor) : Nat := cursor.degree - cursor.position

/-- The number of neighbors of the node. -/
def size (cursor : NeighborCursor) : Except Fault Nat :=
  cursor.requireNode.map fun _ => cursor.degree

/-- The number of neighbors not consumed yet. -/
def remaining (cursor : NeighborCursor) : Except Fault Nat :=
  cursor.requireNode.map fun _ => cursor.length

/-- Whether there is a neighbor left. -/
def hasNext (cursor : NeighborCursor) : Except Fault Bool :=
  cursor.requireNode.map fun _ => cursor.position < cursor.degree

/-- The value at the cursor's place in its block. -/
def current (cursor : NeighborCursor) : Except Fault UInt64 :=
  match cursor.block[cursor.index]? with
  | some value => .ok value
  | none => .error .outOfBounds

/-- The next neighbor, which stays unconsumed; `notFound` at the end. -/
def peek (cursor : NeighborCursor) : Except Fault UInt64 := do
  if ← cursor.hasNext then cursor.current else pure notFound

/-! ## Consuming -/

/-- Consumes the next neighbor, which there has to be. The block after it is decoded when the
neighbor was the last one of its block but not of the node. -/
def consume (cursor : NeighborCursor) : Except Fault UInt64 × NeighborCursor :=
  match cursor.current with
  | .error fault => (.error fault, cursor)
  | .ok value =>
      let cursor :=
        { cursor with index := cursor.index + 1, position := cursor.position + 1 }
      if cursor.position = cursor.degree then (.ok value, { cursor with state := .exhausted })
      else if cursor.index = cursor.blockLength then
        match cursor.refill with
        | (.error fault, cursor) => (.error fault, cursor)
        | (.ok (), cursor) => (.ok value, { cursor with index := 0 })
      else (.ok value, cursor)

/-- Consumes the next neighbor, if there is one. -/
def next (cursor : NeighborCursor) : Except Fault (Option UInt64) × NeighborCursor :=
  match cursor.hasNext with
  | .error fault => (.error fault, cursor)
  | .ok false => (.ok none, cursor)
  | .ok true =>
      match cursor.consume with
      | (.error fault, cursor) => (.error fault, cursor)
      | (.ok value, cursor) => (.ok (some value), cursor)

/-- Consumes up to `limit` neighbors. -/
def take (cursor : NeighborCursor) : Nat → Except Fault (List UInt64) × NeighborCursor
  | 0 => (.ok [], cursor)
  | limit + 1 =>
      match cursor.next with
      | (.error fault, cursor) => (.error fault, cursor)
      | (.ok none, cursor) => (.ok [], cursor)
      | (.ok (some value), cursor) =>
          let (others, cursor) := cursor.take limit
          (others.map (value :: ·), cursor)

/-- Consumes all neighbors left. -/
def drain (cursor : NeighborCursor) : Except Fault (List UInt64) × NeighborCursor :=
  cursor.take (cursor.length + 1)

/-- Consumes neighbors, at most `limit` of them, up to the first one that is wanted. -/
def seek (wanted : UInt64 → Bool) (cursor : NeighborCursor) :
    Nat → Except Fault UInt64 × NeighborCursor
  | 0 => (.ok notFound, cursor)
  | limit + 1 =>
      match cursor.next with
      | (.error fault, cursor) => (.error fault, cursor)
      | (.ok none, cursor) => (.ok notFound, cursor)
      | (.ok (some value), cursor) =>
          if wanted value then (.ok value, cursor) else cursor.seek wanted limit

/-- Consumes neighbors up to the first one larger than `target` and answers it; `notFound` if there
is none. -/
def skipUntil (cursor : NeighborCursor) (target : UInt64) : Except Fault UInt64 × NeighborCursor :=
  cursor.seek (fun value => target < value) (cursor.length + 1)

/-- Consumes neighbors up to the first one not smaller than `target` and answers it; `notFound` if
there is none. -/
def advance (cursor : NeighborCursor) (target : UInt64) : Except Fault UInt64 × NeighborCursor :=
  cursor.seek (fun value => target ≤ value) (cursor.length + 1)

/-! ## Unsupported operations -/

/-- Moving by a number of neighbors would need every block in between. -/
def advanceByOffset (_cursor : NeighborCursor) (_offset : Nat) : Except Failure UInt64 :=
  .error (.notImplemented .advanceByOffset)

/-- The decoding state of a cursor is not copied. -/
def shallowCopy (_cursor : NeighborCursor) : Except Failure NeighborCursor :=
  .error (.notImplemented .shallowCopy)

end NeighborCursor

/-! ## Sequences of operations -/

/-- One operation on a cursor. -/
inductive NeighborAction where
  | moveTo (node : Nat)
  | reuse (node : Nat)
  | state
  | length
  | size
  | remaining
  | hasNext
  | peek
  | next
  | skipUntil (target : UInt64)
  | advance (target : UInt64)
  | advanceByOffset (offset : Nat)
  | shallowCopy
  deriving DecidableEq, Repr

/-- What an operation on a cursor answers. -/
inductive NeighborAnswer where
  | state (state : CursorState)
  | count (count : Nat)
  | holds (holds : Bool)
  | word (word : UInt64)
  | neighbor (neighbor : Option UInt64)
  | copy (cursor : NeighborCursor)
  deriving DecidableEq, Repr

namespace NeighborCursor

/-- One operation. A cursor that cannot be reused is given up for one at no node. -/
def step (lists : Lists) (cursor : NeighborCursor) :
    NeighborAction → Except Failure NeighborAnswer × NeighborCursor
  | .moveTo node =>
      match cursor.moveTo lists node with
      | (.error fault, cursor) => (.error fault, cursor)
      | (.ok (), cursor) => (.ok (.state cursor.state), cursor)
  | .reuse node =>
      match cursor.reuse lists node with
      | (.error fault, _) => (.error fault, raw)
      | (.ok (), cursor) => (.ok (.state cursor.state), cursor)
  | .state => (.ok (.state cursor.state), cursor)
  | .length => (.ok (.count cursor.length), cursor)
  | .size => ((cursor.size.map .count).mapError .fault, cursor)
  | .remaining => ((cursor.remaining.map .count).mapError .fault, cursor)
  | .hasNext => ((cursor.hasNext.map .holds).mapError .fault, cursor)
  | .peek => ((cursor.peek.map .word).mapError .fault, cursor)
  | .next =>
      let (outcome, cursor) := cursor.next
      ((outcome.map .neighbor).mapError .fault, cursor)
  | .skipUntil target =>
      let (outcome, cursor) := cursor.skipUntil target
      ((outcome.map .word).mapError .fault, cursor)
  | .advance target =>
      let (outcome, cursor) := cursor.advance target
      ((outcome.map .word).mapError .fault, cursor)
  | .advanceByOffset offset => ((cursor.advanceByOffset offset).map .word, cursor)
  | .shallowCopy => (cursor.shallowCopy.map .copy, cursor)

/-- A sequence of operations and the answers to them. -/
def run (lists : Lists) (cursor : NeighborCursor) :
    List NeighborAction → List (Except Failure NeighborAnswer) × NeighborCursor
  | [] => ([], cursor)
  | action :: rest =>
      let (answer, cursor) := cursor.step lists action
      let (answers, cursor) := cursor.run lists rest
      (answer :: answers, cursor)

end NeighborCursor

namespace Lists

/-- The neighbors of a node, ascending. -/
def neighbors (lists : Lists) (node : Nat) : Except Fault (List UInt64) := do
  let cursor ← NeighborCursor.at? lists node
  cursor.drain.1

end Lists

end CompactAdjacency
