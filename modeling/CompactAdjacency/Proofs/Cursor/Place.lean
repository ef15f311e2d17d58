import Mathlib
import CompactAdjacency.Cursor.Neighbors
import CompactAdjacency.Cursor.Values

/-!
# Places in lists

A `Place` is a list together with the number of its values that were consumed. It is what a cursor
is meant to be, without blocks, a decoder or a state of its own. `Place.neighborStep` and
`Place.valueStep` are the operations of the two cursors on places, given the uncompressed lists of
all nodes; a cursor at no node is `none`. They read no bytes, so the only faults among their answers
are the uses of a cursor at no node and the channels that are not stored.
-/

namespace CompactAdjacency

/-- A list and the number of its values consumed. -/
structure Place (α : Type) where
  values : List α
  position : Nat
  deriving DecidableEq, Repr

namespace Place

variable {α : Type}

/-- The place in front of a list. -/
def start (values : List α) : Place α := ⟨values, 0⟩

/-- The values not consumed yet. -/
def ahead (place : Place α) : List α := place.values.drop place.position

/-- The place behind the value of an index. -/
def behind (place : Place α) (index : Nat) : Place α := ⟨place.values, index + 1⟩

/-- The place at the end of the list. -/
def finish (place : Place α) : Place α := ⟨place.values, place.values.length⟩

/-- Whether a cursor at a place has values left. -/
def state (place : Place α) : CursorState :=
  if place.position = place.values.length then .exhausted else .blockReady

/-- Consumes the next value, if there is one. -/
def next (place : Place α) : Option α × Place α :=
  match place.values[place.position]? with
  | none => (none, place)
  | some value => (some value, place.behind place.position)

/-- The least index of a value not consumed yet that is wanted. -/
def find? (wanted : α → Bool) (place : Place α) : Option Nat :=
  (place.ahead.findIdx? wanted).map (place.position + ·)

/-- Moves behind the first wanted value and answers it, or to the end if there is none. -/
def seek (wanted : UInt64 → Bool) (place : Place UInt64) : UInt64 × Place UInt64 :=
  match place.find? wanted with
  | none => (notFound, place.finish)
  | some index => (place.values.getD index notFound, place.behind index)

/-! ## Neighbors -/

/-- One operation of a neighbor cursor, on its place among the lists of all nodes. -/
def neighborStep (contents : Nat → List UInt64) (place : Option (Place UInt64))
    (action : NeighborAction) : Except Failure NeighborAnswer × Option (Place UInt64) :=
  match action, place with
  | .moveTo node, _ | .reuse node, _ =>
      (.ok (.state (start (contents node)).state), some (start (contents node)))
  | .advanceByOffset _, place => (.error (.notImplemented .advanceByOffset), place)
  | .shallowCopy, place => (.error (.notImplemented .shallowCopy), place)
  | .state, none => (.ok (.state .uninitialized), none)
  | .length, none => (.ok (.count 0), none)
  | _, none => (.error (.fault .cursorNotPositioned), none)
  | .state, some place => (.ok (.state place.state), some place)
  | .length, some place | .remaining, some place =>
      (.ok (.count (place.values.length - place.position)), some place)
  | .size, some place => (.ok (.count place.values.length), some place)
  | .hasNext, some place => (.ok (.holds (place.position < place.values.length)), some place)
  | .peek, some place => (.ok (.word (place.values.getD place.position notFound)), some place)
  | .next, some place => (.ok (.neighbor place.next.1), some place.next.2)
  | .skipUntil target, some place =>
      let sought := place.seek fun value => target < value
      (.ok (.word sought.1), some sought.2)
  | .advance target, some place =>
      let sought := place.seek fun value => target ≤ value
      (.ok (.word sought.1), some sought.2)

/-- The answers to a sequence of operations of a neighbor cursor. -/
def neighborRun (contents : Nat → List UInt64) (place : Option (Place UInt64)) :
    List NeighborAction → List (Except Failure NeighborAnswer)
  | [] => []
  | action :: rest =>
      let (answer, place) := neighborStep contents place action
      answer :: neighborRun contents place rest

/-- The place of a neighbor cursor after a sequence of operations. -/
def neighborAfter (contents : Nat → List UInt64) (place : Option (Place UInt64))
    (actions : List NeighborAction) : Option (Place UInt64) :=
  actions.foldl (fun place action => (neighborStep contents place action).2) place

/-! ## Values -/

/-- One operation of a value cursor, on its place among the lists of all nodes and channels. A
channel that is not stored is refused. -/
def valueStep (channelCount : Nat) (contents : Nat → Nat → List Binary64)
    (place : Option (Place Binary64)) (action : ValueAction) :
    Except Fault ValueAnswer × Option (Place Binary64) :=
  match action, place with
  | .moveTo node channel, place =>
      if channel ≥ channelCount then (.error (.channelOutOfRange channel channelCount), place)
      else (.ok (.count (contents node channel).length), some (start (contents node channel)))
  | .reuse node channel, _ =>
      if channel ≥ channelCount then (.error (.channelOutOfRange channel channelCount), none)
      else (.ok (.count (contents node channel).length), some (start (contents node channel)))
  | .length, none => (.ok (.count 0), none)
  | _, none => (.error .valueCursorNotPositioned, none)
  | .length, some place | .remaining, some place =>
      (.ok (.count (place.values.length - place.position)), some place)
  | .hasNext, some place => (.ok (.holds (place.position < place.values.length)), some place)
  | .next, some place => (.ok (.value place.next.1), some place.next.2)

/-- The answers to a sequence of operations of a value cursor. -/
def valueRun (channelCount : Nat) (contents : Nat → Nat → List Binary64)
    (place : Option (Place Binary64)) : List ValueAction → List (Except Fault ValueAnswer)
  | [] => []
  | action :: rest =>
      let (answer, place) := valueStep channelCount contents place action
      answer :: valueRun channelCount contents place rest

/-! ## Moving -/

@[simp] theorem ahead_start (values : List α) : (start values).ahead = values := rfl

/-- Where the position is inside of the list, the next value is consumed. -/
theorem next_of_lt {place : Place α} (h : place.position < place.values.length) :
    place.next = (some place.values[place.position], place.behind place.position) := by
  simp only [next, List.getElem?_eq_getElem h]

/-- At the end of the list nothing is consumed. -/
theorem next_of_ge {place : Place α} (h : place.values.length ≤ place.position) :
    place.next = (none, place) := by
  simp only [next, List.getElem?_eq_none h]

/-- The next value comes first among those ahead. -/
theorem ahead_of_lt {place : Place α} (h : place.position < place.values.length) :
    place.ahead = place.values[place.position] :: (place.behind place.position).ahead := by
  unfold ahead
  rw [List.drop_eq_getElem_cons h]
  rfl

theorem ahead_of_ge {place : Place α} (h : place.values.length ≤ place.position) :
    place.ahead = [] :=
  List.drop_eq_nil_of_le h

/-- Seeking at the end answers that there is nothing. -/
theorem seek_of_ge (wanted : UInt64 → Bool) {place : Place UInt64}
    (h : place.values.length ≤ place.position) : place.seek wanted = (notFound, place.finish) := by
  simp [seek, find?, ahead_of_ge h]

/-- Seeking looks at the next value, and goes on behind it if it is not wanted. -/
theorem seek_of_lt (wanted : UInt64 → Bool) {place : Place UInt64}
    (h : place.position < place.values.length) :
    place.seek wanted =
      if wanted place.values[place.position] then
        (place.values[place.position], place.behind place.position)
      else (place.behind place.position).seek wanted := by
  have hfind : place.find? wanted =
      if wanted place.values[place.position] then some place.position
      else (place.behind place.position).find? wanted := by
    simp only [find?, ahead_of_lt h, List.findIdx?_cons]
    split
    · rfl
    · simp only [Option.map_map]
      congr 1
      funext offset
      simp [behind, Nat.add_comm, Nat.add_left_comm]
  by_cases hwanted : wanted place.values[place.position]
  · simp [seek, hfind, hwanted, List.getElem?_eq_getElem h]
  · rw [if_neg hwanted] at hfind ⊢
    unfold seek
    rw [hfind]
    rfl

end Place

end CompactAdjacency
