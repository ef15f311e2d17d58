import Mathlib
import CompactAdjacency.Proofs.Coding.Words
import CompactAdjacency.Proofs.Cursor.Place
import CompactAdjacency.Proofs.Cursor.Window
import CompactAdjacency.Proofs.Record.Channels

/-!
# Value cursors are places in lists

`Lists.HoldsValues` says what the values of a channel are at a node, whichever way its record is
laid out. On a structure that holds a list for every node and channel, a value cursor behaves like a
`Place`, for one operation by `ValueCursor.step_represents` and for any sequence of them by
`ValueCursor.run_represents`. Unlike a neighbor cursor it decodes the next block only when a value
of it is asked for, so that nothing is said about its block except for what is ahead.
-/

namespace CompactAdjacency

namespace Record

/-- The bytes of a value are read back. -/
theorem ofLittleEndian_toBytes (value : Binary64) :
    (⟨(ofLittleEndian value.toBytes).toUInt64⟩ : Binary64) = value := by
  show (⟨(ofLittleEndian (littleEndian 8 value.bits.toNat)).toUInt64⟩ : Binary64) = value
  rw [ofLittleEndian_littleEndian_toNat]

end Record

/-- The values of a channel at a node: the degree of the node counts them, and the record of the
channel holds them. -/
structure Lists.HoldsValues (lists : Lists) (properties : Properties) (node channel : Nat)
    (values : List Binary64) : Prop where
  degree : lists.degree node = values.length
  record : values ≠ [] → ∃ bytes,
    lists.channelRecord properties node channel = .ok (some bytes) ∧
      Record.HoldsChannel (lists.layout node) bytes values

namespace ValueCursor

/-- The values ahead of a cursor are those its source still has. -/
def Ahead (cursor : ValueCursor) (values : List Binary64) : Prop :=
  match cursor.source with
  | .words bytes =>
      ∃ rest, bytes.drop (cursor.position * Binary64.byteCount) =
        values.flatMap Binary64.toBytes ++ rest
  | .blocks decoder =>
      Window decoder cursor.block cursor.blockLength cursor.index (values.map Binary64.bits)

/-- A cursor at a place of a list. -/
structure At (cursor : ValueCursor) (place : Place Binary64) : Prop where
  positioned : cursor.positioned = true
  position : cursor.position = place.position
  degree : cursor.degree = place.values.length
  ahead : cursor.Ahead place.ahead

/-- A cursor at a place, or at no node. -/
def Represents (cursor : ValueCursor) : Option (Place Binary64) → Prop
  | none => cursor.positioned = false ∧ cursor.length = 0
  | some place => cursor.At place

theorem raw_represents : raw.Represents none := ⟨rfl, rfl⟩

variable {lists : Lists} {properties : Properties} {cursor : ValueCursor}
  {place : Place Binary64}

/-! ## Positioning -/

/-- A channel that is not stored is refused, and the cursor stays where it was. -/
theorem moveTo_of_ge {channel : Nat} (h : channel ≥ properties.channelCount.toNat) (node : Nat)
    (cursor : ValueCursor) :
    cursor.moveTo lists properties node channel =
      (.error (.channelOutOfRange channel properties.channelCount.toNat), cursor) :=
  if_pos h

/-- Moving to a stored channel ends in front of its list, wherever the cursor was. -/
theorem moveTo_at {node channel : Nat} {values : List Binary64}
    (hchannel : channel < properties.channelCount.toNat)
    (h : lists.HoldsValues properties node channel values) (cursor : ValueCursor) :
    ∃ moved, cursor.moveTo lists properties node channel = (.ok (), moved) ∧
      moved.At (.start values) := by
  simp only [moveTo, if_neg (Nat.not_le.mpr hchannel)]
  by_cases hempty : values = []
  · subst hempty
    have hdegree : lists.degree node = 0 := h.degree
    have hrecord : lists.channelRecord properties node channel = .ok none := by
      simp [Lists.channelRecord, hdegree]
    simp only [hrecord]
    exact ⟨_, rfl, rfl, rfl, hdegree, [], rfl⟩
  · obtain ⟨bytes, hrecord, hholds⟩ := h.record hempty
    cases hlayout : lists.layout node with
    | varint =>
        rw [hlayout] at hholds
        obtain ⟨rest, hbytes⟩ := hholds
        simp only [hrecord]
        refine ⟨_, rfl, rfl, rfl, h.degree, rest, ?_⟩
        simpa using hbytes
    | packed =>
        rw [hlayout] at hholds
        obtain ⟨rest, decoder, hdecoder, hyields⟩ := hholds
        rw [List.length_map] at hdecoder
        obtain ⟨next, block, length, hstep, -, hwindow⟩ :=
          Window.of_yields hyields (by simpa using hempty) cursor.block
        simp only [hrecord, h.degree, hdecoder, hstep]
        exact ⟨_, rfl, rfl, rfl, rfl, hwindow⟩

/-! ## Looking -/

theorem At.requireNode (h : cursor.At place) : cursor.requireNode = .ok () :=
  if_pos h.positioned

theorem At.length_eq (h : cursor.At place) :
    cursor.length = place.values.length - place.position := by
  rw [length, h.degree, h.position]

theorem At.hasNext (h : cursor.At place) :
    cursor.hasNext = .ok (decide (place.position < place.values.length)) := by
  simp only [ValueCursor.hasNext, h.requireNode, h.degree, h.position, Except.map]

/-! ## Consuming -/

/-- Consuming the next value moves the cursor behind it. A packed record is decoded further where
the block in hand is used up. -/
theorem At.consume (h : cursor.At place) (hlt : place.position < place.values.length) :
    ∃ moved, cursor.consume = (.ok place.values[place.position], moved) ∧
      moved.At (place.behind place.position) := by
  have hahead := h.ahead
  rw [Place.ahead_of_lt hlt] at hahead
  unfold Ahead at hahead
  unfold ValueCursor.consume
  cases hsource : cursor.source with
  | words bytes =>
      rw [hsource] at hahead
      obtain ⟨rest, hbytes⟩ := hahead
      rw [List.flatMap_cons, List.append_assoc] at hbytes
      have hcut := cut?_append place.values[place.position].toBytes
        ((place.behind place.position).ahead.flatMap Binary64.toBytes ++ rest)
      rw [Record.length_toBytes, ← hbytes] at hcut
      simp only [hcut, Record.ofLittleEndian_toBytes]
      refine ⟨_, rfl, h.positioned, congrArg (· + 1) h.position, h.degree, rest, ?_⟩
      have hdrop := congrArg (List.drop Binary64.byteCount) hbytes
      rw [List.drop_drop, ← Record.length_toBytes place.values[place.position], List.drop_left,
        Record.length_toBytes] at hdrop
      simpa [Nat.succ_mul, Nat.add_mul] using hdrop
  | blocks decoder =>
      rw [hsource, List.map_cons] at hahead
      by_cases hused : cursor.index = cursor.blockLength
      · rw [hused] at hahead
        obtain ⟨next, block, length, hstep, hlength, hwindow⟩ :=
          hahead.refill (List.cons_ne_nil _ _) cursor.block
        obtain ⟨hvalue, hbehind⟩ := hwindow.consume hlength.symm
        simp only [refill, if_pos hused, hstep, hvalue]
        exact ⟨_, rfl, h.positioned, congrArg (· + 1) h.position, h.degree, hbehind⟩
      · obtain ⟨hvalue, hbehind⟩ := hahead.consume hused
        simp only [refill, if_neg hused, hvalue]
        refine ⟨_, rfl, h.positioned, congrArg (· + 1) h.position, h.degree, ?_⟩
        simpa only [Ahead, hsource] using hbehind

theorem At.next (h : cursor.At place) :
    ∃ moved, cursor.next = (.ok place.next.1, moved) ∧ moved.At place.next.2 := by
  by_cases hlt : place.position < place.values.length
  · obtain ⟨moved, hconsume, hmoved⟩ := h.consume hlt
    refine ⟨moved, ?_, ?_⟩
    · simp [ValueCursor.next, h.hasNext, hlt, hconsume, Place.next_of_lt hlt]
    · rwa [Place.next_of_lt hlt]
  · refine ⟨cursor, ?_, ?_⟩
    · simp [ValueCursor.next, h.hasNext, hlt, Place.next_of_ge (Nat.not_lt.mp hlt)]
    · rwa [Place.next_of_ge (Nat.not_lt.mp hlt)]

/-- Consuming up to a number of values answers that many of those ahead. -/
theorem At.take (h : cursor.At place) (limit : Nat) :
    (cursor.take limit).1 = .ok (place.ahead.take limit) := by
  induction limit generalizing cursor place with
  | zero => simp [ValueCursor.take]
  | succ limit ih =>
      obtain ⟨moved, hnext, hmoved⟩ := h.next
      by_cases hlt : place.position < place.values.length
      · rw [Place.next_of_lt hlt] at hnext hmoved
        simp only [ValueCursor.take, hnext, ih hmoved, Place.ahead_of_lt hlt, Except.map,
          List.take_succ_cons]
      · rw [Place.next_of_ge (Nat.not_lt.mp hlt)] at hnext
        simp [ValueCursor.take, hnext, Place.ahead_of_ge (Nat.not_lt.mp hlt)]

/-- Draining a cursor answers all values ahead. -/
theorem At.drain (h : cursor.At place) : cursor.drain.1 = .ok place.ahead := by
  rw [ValueCursor.drain, h.take, h.length_eq, List.take_of_length_le]
  rw [Place.ahead, List.length_drop]
  omega

/-! ## Sequences of operations -/

/-- At no node a cursor refuses everything that reads its place. -/
theorem requireNode_of_not_positioned (h : cursor.positioned = false) :
    cursor.requireNode = .error .valueCursorNotPositioned := by
  simp [requireNode, h]

variable {contents : Nat → Nat → List Binary64}

/-- One operation on a cursor answers what it answers on the place, and both stay together. -/
theorem step_represents
    (hlists : ∀ node, ∀ channel < properties.channelCount.toNat,
      lists.HoldsValues properties node channel (contents node channel))
    {spot : Option (Place Binary64)} (h : cursor.Represents spot) (action : ValueAction) :
    (cursor.step lists properties action).1 =
        (Place.valueStep properties.channelCount.toNat contents spot action).1 ∧
      (cursor.step lists properties action).2.Represents
        (Place.valueStep properties.channelCount.toNat contents spot action).2 := by
  cases action with
  | moveTo node channel =>
      by_cases hchannel : channel ≥ properties.channelCount.toNat
      · simp only [step, moveTo_of_ge hchannel, Place.valueStep, if_pos hchannel]
        exact ⟨trivial, h⟩
      · obtain ⟨moved, hmoveTo, hmoved⟩ :=
          moveTo_at (Nat.not_le.mp hchannel) (hlists node channel (Nat.not_le.mp hchannel)) cursor
        simp only [step, hmoveTo, Place.valueStep, if_neg hchannel, hmoved.length_eq]
        exact ⟨rfl, hmoved⟩
  | reuse node channel =>
      by_cases hchannel : channel ≥ properties.channelCount.toNat
      · simp only [step, moveTo_of_ge hchannel, Place.valueStep, if_pos hchannel]
        exact ⟨trivial, raw_represents⟩
      · obtain ⟨moved, hmoveTo, hmoved⟩ :=
          moveTo_at (Nat.not_le.mp hchannel) (hlists node channel (Nat.not_le.mp hchannel)) cursor
        simp only [step, hmoveTo, Place.valueStep, if_neg hchannel, hmoved.length_eq]
        exact ⟨rfl, hmoved⟩
  | length =>
      cases spot with
      | none => exact ⟨by simp only [step, h.2, Place.valueStep], h⟩
      | some place => exact ⟨by simp only [step, At.length_eq h, Place.valueStep], h⟩
  | remaining =>
      cases spot with
      | none =>
          exact ⟨by simp only [step, remaining, requireNode_of_not_positioned h.1]; rfl, h⟩
      | some place =>
          exact ⟨by simp only [step, remaining, At.requireNode h, At.length_eq h]; rfl, h⟩
  | hasNext =>
      cases spot with
      | none =>
          exact ⟨by simp only [step, hasNext, requireNode_of_not_positioned h.1]; rfl, h⟩
      | some place => exact ⟨by simp only [step, At.hasNext h]; rfl, h⟩
  | next =>
      cases spot with
      | none =>
          simp only [step, next, hasNext, requireNode_of_not_positioned h.1, Place.valueStep]
          exact ⟨rfl, h⟩
      | some place =>
          obtain ⟨moved, hnext, hmoved⟩ := At.next h
          simp only [step, hnext, Place.valueStep]
          exact ⟨rfl, hmoved⟩

/-- A cursor answers a sequence of operations as its place does. -/
theorem run_represents
    (hlists : ∀ node, ∀ channel < properties.channelCount.toNat,
      lists.HoldsValues properties node channel (contents node channel))
    {spot : Option (Place Binary64)} (h : cursor.Represents spot) (actions : List ValueAction) :
    (cursor.run lists properties actions).1 =
      Place.valueRun properties.channelCount.toNat contents spot actions := by
  induction actions generalizing cursor spot with
  | nil => rfl
  | cons action rest ih =>
      obtain ⟨hanswer, hstep⟩ := step_represents hlists h action
      simp only [run, Place.valueRun, hanswer, ih hstep]

end ValueCursor

/-- The values of a stored channel are read back. -/
theorem Lists.HoldsValues.values {lists : Lists} {properties : Properties} {node channel : Nat}
    {values : List Binary64} (h : lists.HoldsValues properties node channel values)
    (hchannel : channel < properties.channelCount.toNat) :
    lists.values properties node channel = .ok values := by
  obtain ⟨moved, hmoveTo, hmoved⟩ := ValueCursor.moveTo_at hchannel h .raw
  simp only [Lists.values, ValueCursor.at?, hmoveTo, bind, Except.bind, hmoved.drain,
    Place.ahead_start]

end CompactAdjacency
