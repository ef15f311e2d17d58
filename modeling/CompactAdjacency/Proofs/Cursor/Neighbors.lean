import Mathlib
import CompactAdjacency.Proofs.Cursor.Place
import CompactAdjacency.Proofs.Cursor.Window

/-!
# Neighbor cursors are places in lists

`Lists.HoldsNeighbors` says what the neighbors of a node are, in terms of the directory and the
record alone. On a structure that holds a list for every node, a neighbor cursor behaves like a
`Place`: `NeighborCursor.step_represents` is one operation, and `NeighborCursor.run_represents` any
sequence of them. The invariant is `NeighborCursor.At`. Its `ready` is what a refill is for: as long
as neighbors are left, the block in hand is not used up.
-/

namespace CompactAdjacency

/-- The neighbors of a node: its degree counts them, and its record holds their gaps. -/
structure Lists.HoldsNeighbors (lists : Lists) (node : Nat) (targets : List UInt64) : Prop where
  degree : lists.degree node = targets.length
  record : targets ≠ [] → ∃ bytes rest, lists.record node = .ok (some bytes) ∧
    Record.Holds bytes ((lists.layout node).headerLength targets.length) true targets rest

/-- The gaps of the neighbors of a node: its degree counts them, and its record stores them. -/
structure Lists.HoldsGaps (lists : Lists) (node : Nat) (gaps : List UInt64) : Prop where
  degree : lists.degree node = gaps.length
  record : gaps ≠ [] → ∃ bytes rest, lists.record node = .ok (some bytes) ∧ ∀ delta,
    Record.Holds bytes ((lists.layout node).headerLength gaps.length) delta
      (Record.resolved delta gaps) rest

/-- The neighbors are the running sums of the gaps. -/
theorem Lists.HoldsGaps.holdsNeighbors {lists : Lists} {node : Nat} {gaps : List UInt64}
    (h : lists.HoldsGaps node gaps) : lists.HoldsNeighbors node (Gaps.sumsFrom 0 gaps) := by
  refine ⟨h.degree.trans (Gaps.length_sumsFrom 0 gaps).symm, ?_⟩
  intro hne
  have hgaps : gaps ≠ [] := by
    rintro rfl
    exact hne rfl
  obtain ⟨bytes, rest, hrecord, hholds⟩ := h.record hgaps
  rw [Gaps.length_sumsFrom]
  exact ⟨bytes, rest, hrecord, hholds true⟩

namespace NeighborCursor

/-- A cursor at a place of a list. -/
structure At (cursor : NeighborCursor) (place : Place UInt64) : Prop where
  position : cursor.position = place.position
  degree : cursor.degree = place.values.length
  inside : place.position ≤ place.values.length
  state : cursor.state = place.state
  window : Window cursor.decoder cursor.block cursor.blockLength cursor.index place.ahead
  ready : place.position < place.values.length → cursor.index ≠ cursor.blockLength

/-- A cursor at a place, or at no node. -/
def Represents (cursor : NeighborCursor) : Option (Place UInt64) → Prop
  | none => cursor.state = .uninitialized ∧ cursor.length = 0
  | some place => cursor.At place

theorem raw_represents : raw.Represents none := ⟨rfl, rfl⟩

variable {lists : Lists} {cursor : NeighborCursor} {place : Place UInt64}

/-! ## Positioning -/

/-- Moving to a node ends in front of its list, wherever the cursor was. -/
theorem moveTo_at {node : Nat} {targets : List UInt64} (h : lists.HoldsNeighbors node targets)
    (cursor : NeighborCursor) :
    ∃ moved, cursor.moveTo lists node = (.ok (), moved) ∧ moved.At (.start targets) := by
  by_cases hempty : targets = []
  · subst hempty
    have hdegree : lists.degree node = 0 := h.degree
    simp only [moveTo, Lists.record_of_degree_eq_zero hdegree]
    refine ⟨_, rfl, rfl, hdegree, le_rfl, rfl, .of_remaining rfl _, ?_⟩
    intro hlt
    exact absurd hlt (Nat.lt_irrefl 0)
  · obtain ⟨bytes, rest, hrecord, decoder, hdecoder, hyields⟩ := h.record hempty
    obtain ⟨next, block, length, hstep, hlength, hwindow⟩ :=
      Window.of_yields hyields hempty cursor.block
    simp only [moveTo, hrecord, h.degree, hdecoder, refill, hstep]
    refine ⟨_, rfl, rfl, rfl, Nat.zero_le _, ?_, hwindow, fun _ => hlength.symm⟩
    have hne : targets.length ≠ 0 := by simpa using hempty
    simp [Place.state, Place.start, hne.symm]

/-! ## Looking -/

theorem At.state_ne (h : cursor.At place) : cursor.state ≠ .uninitialized := by
  rw [h.state]
  unfold Place.state
  split <;> simp

theorem At.requireNode (h : cursor.At place) : cursor.requireNode = .ok () :=
  if_neg h.state_ne

theorem At.length_eq (h : cursor.At place) :
    cursor.length = place.values.length - place.position := by
  rw [length, h.degree, h.position]

theorem At.hasNext (h : cursor.At place) :
    cursor.hasNext = .ok (decide (place.position < place.values.length)) := by
  simp only [NeighborCursor.hasNext, h.requireNode, h.degree, h.position, Except.map]

/-- The value at the cursor's place in its block is the next one of the list. -/
theorem At.current (h : cursor.At place) (hlt : place.position < place.values.length) :
    cursor.current = .ok place.values[place.position] := by
  have hwindow := h.window
  rw [Place.ahead_of_lt hlt] at hwindow
  simp only [NeighborCursor.current, (hwindow.consume (h.ready hlt)).1]

theorem At.peek (h : cursor.At place) :
    cursor.peek = .ok (place.values.getD place.position notFound) := by
  by_cases hlt : place.position < place.values.length
  · simp [NeighborCursor.peek, h.hasNext, hlt, h.current hlt, bind, Except.bind]
  · simp [NeighborCursor.peek, h.hasNext, hlt, bind, Except.bind, pure, Except.pure]

/-! ## Consuming -/

/-- Consuming the next neighbor moves the cursor behind it. The block after it is decoded where the
neighbor was the last one of its block but not of the list. -/
theorem At.consume (h : cursor.At place) (hlt : place.position < place.values.length) :
    ∃ moved, cursor.consume = (.ok place.values[place.position], moved) ∧
      moved.At (place.behind place.position) := by
  have hwindow := h.window
  rw [Place.ahead_of_lt hlt] at hwindow
  obtain ⟨-, hbehind⟩ := hwindow.consume (h.ready hlt)
  simp only [NeighborCursor.consume, h.current hlt, h.degree, h.position]
  -- nothing is decoded behind the last value, and elsewhere only where a block was used up
  by_cases hlast : place.position + 1 = place.values.length
  · rw [if_pos hlast]
    refine ⟨_, rfl, rfl, rfl, hlt, ?_, hbehind, ?_⟩
    · simp [Place.state, Place.behind, hlast]
    · intro hinside
      simp only [Place.behind] at hinside
      omega
  · rw [if_neg hlast]
    have hstate : cursor.state = (place.behind place.position).state := by
      rw [h.state]
      simp [Place.state, Place.behind, hlast, hlt.ne]
    by_cases hused : cursor.index + 1 = cursor.blockLength
    · have hahead : (place.behind place.position).ahead ≠ [] := by
        rw [← List.length_pos_iff]
        simp only [Place.ahead, Place.behind, List.length_drop]
        omega
      rw [hused] at hbehind
      obtain ⟨next, block, length, hstep, hlength, hnext⟩ := hbehind.refill hahead cursor.block
      simp only [if_pos hused, refill, hstep]
      exact ⟨_, rfl, rfl, rfl, hlt, hstate, hnext, fun _ => hlength.symm⟩
    · rw [if_neg hused]
      exact ⟨_, rfl, rfl, rfl, hlt, hstate, hbehind, fun _ => hused⟩

theorem At.next (h : cursor.At place) :
    ∃ moved, cursor.next = (.ok place.next.1, moved) ∧ moved.At place.next.2 := by
  by_cases hlt : place.position < place.values.length
  · obtain ⟨moved, hconsume, hmoved⟩ := h.consume hlt
    refine ⟨moved, ?_, ?_⟩
    · simp [NeighborCursor.next, h.hasNext, hlt, hconsume, Place.next_of_lt hlt]
    · rwa [Place.next_of_lt hlt]
  · refine ⟨cursor, ?_, ?_⟩
    · simp [NeighborCursor.next, h.hasNext, hlt, Place.next_of_ge (Nat.not_lt.mp hlt)]
    · rwa [Place.next_of_ge (Nat.not_lt.mp hlt)]

/-- Consuming up to a number of neighbors answers that many of those ahead. -/
theorem At.take (h : cursor.At place) (limit : Nat) :
    (cursor.take limit).1 = .ok (place.ahead.take limit) := by
  induction limit generalizing cursor place with
  | zero => simp [NeighborCursor.take]
  | succ limit ih =>
      obtain ⟨moved, hnext, hmoved⟩ := h.next
      by_cases hlt : place.position < place.values.length
      · rw [Place.next_of_lt hlt] at hnext hmoved
        simp only [NeighborCursor.take, hnext, ih hmoved, Place.ahead_of_lt hlt, Except.map,
          List.take_succ_cons]
      · rw [Place.next_of_ge (Nat.not_lt.mp hlt)] at hnext
        simp [NeighborCursor.take, hnext, Place.ahead_of_ge (Nat.not_lt.mp hlt)]

/-- Draining a cursor answers all values ahead. -/
theorem At.drain (h : cursor.At place) : cursor.drain.1 = .ok place.ahead := by
  rw [NeighborCursor.drain, h.take, h.length_eq, List.take_of_length_le]
  rw [Place.ahead, List.length_drop]
  omega

/-- Seeking consumes one neighbor after the other, and stops where the place stops. -/
theorem At.seek (h : cursor.At place) (wanted : UInt64 → Bool) (limit : Nat)
    (hlimit : place.values.length - place.position < limit) :
    ∃ moved, cursor.seek wanted limit = (.ok (place.seek wanted).1, moved) ∧
      moved.At (place.seek wanted).2 := by
  induction limit generalizing cursor place with
  | zero => omega
  | succ limit ih =>
      obtain ⟨moved, hnext, hmoved⟩ := h.next
      by_cases hlt : place.position < place.values.length
      · rw [Place.next_of_lt hlt] at hnext hmoved
        rw [Place.seek_of_lt wanted hlt]
        simp only [NeighborCursor.seek, hnext]
        by_cases hwanted : wanted place.values[place.position]
        · simp only [if_pos hwanted]
          exact ⟨moved, rfl, hmoved⟩
        · simp only [if_neg hwanted]
          apply ih hmoved
          simp only [Place.behind]
          omega
      · have hend : place = place.finish := by
          have hinside := h.inside
          obtain ⟨values, position⟩ := place
          simp only [Place.finish, Place.mk.injEq, true_and] at hlt hinside ⊢
          omega
        rw [Place.next_of_ge (Nat.not_lt.mp hlt)] at hnext hmoved
        rw [Place.seek_of_ge wanted (Nat.not_lt.mp hlt), ← hend]
        simp only [NeighborCursor.seek, hnext]
        exact ⟨moved, rfl, hmoved⟩

/-- A cursor that looks at all neighbors ahead answers what its place answers. -/
theorem At.seek_all (h : cursor.At place) (wanted : UInt64 → Bool) :
    ∃ moved, cursor.seek wanted (cursor.length + 1) = (.ok (place.seek wanted).1, moved) ∧
      moved.At (place.seek wanted).2 := by
  refine h.seek wanted _ ?_
  rw [h.length_eq]
  omega

/-! ## Sequences of operations -/

/-- At no node a cursor refuses everything that reads its place. -/
theorem requireNode_of_uninitialized (h : cursor.state = .uninitialized) :
    cursor.requireNode = .error .cursorNotPositioned :=
  if_pos h

variable {contents : Nat → List UInt64}

/-- One operation on a cursor answers what it answers on the place, and both stay together. -/
theorem step_represents (hlists : ∀ node, lists.HoldsNeighbors node (contents node))
    {spot : Option (Place UInt64)} (h : cursor.Represents spot) (action : NeighborAction) :
    (cursor.step lists action).1 = (Place.neighborStep contents spot action).1 ∧
      (cursor.step lists action).2.Represents (Place.neighborStep contents spot action).2 := by
  cases action with
  | moveTo node =>
      obtain ⟨moved, hmoveTo, hmoved⟩ := moveTo_at (hlists node) cursor
      simp only [step, hmoveTo, Place.neighborStep, hmoved.state]
      exact ⟨trivial, hmoved⟩
  | reuse node =>
      obtain ⟨moved, hmoveTo, hmoved⟩ :=
        moveTo_at (hlists node) { cursor with state := .uninitialized }
      simp only [step, reuse, hmoveTo, Place.neighborStep, hmoved.state]
      exact ⟨trivial, hmoved⟩
  | advanceByOffset offset => exact ⟨by cases spot <;> rfl, by cases spot <;> exact h⟩
  | shallowCopy => exact ⟨by cases spot <;> rfl, by cases spot <;> exact h⟩
  | state =>
      cases spot with
      | none => exact ⟨by simp only [step, h.1, Place.neighborStep], h⟩
      | some place => exact ⟨by simp only [step, At.state h, Place.neighborStep], h⟩
  | length =>
      cases spot with
      | none => exact ⟨by simp only [step, h.2, Place.neighborStep], h⟩
      | some place => exact ⟨by simp only [step, At.length_eq h, Place.neighborStep], h⟩
  | size =>
      cases spot with
      | none =>
          exact ⟨by simp only [step, size, requireNode_of_uninitialized h.1]; rfl, h⟩
      | some place =>
          exact ⟨by simp only [step, size, At.requireNode h, At.degree h]; rfl, h⟩
  | remaining =>
      cases spot with
      | none =>
          exact ⟨by simp only [step, remaining, requireNode_of_uninitialized h.1]; rfl, h⟩
      | some place =>
          exact ⟨by simp only [step, remaining, At.requireNode h, At.length_eq h]; rfl, h⟩
  | hasNext =>
      cases spot with
      | none =>
          exact ⟨by simp only [step, hasNext, requireNode_of_uninitialized h.1]; rfl, h⟩
      | some place => exact ⟨by simp only [step, At.hasNext h]; rfl, h⟩
  | peek =>
      cases spot with
      | none =>
          exact ⟨by simp only [step, peek, hasNext, requireNode_of_uninitialized h.1]; rfl, h⟩
      | some place => exact ⟨by simp only [step, At.peek h]; rfl, h⟩
  | next =>
      cases spot with
      | none =>
          simp only [step, next, hasNext, requireNode_of_uninitialized h.1, Place.neighborStep]
          exact ⟨rfl, h⟩
      | some place =>
          obtain ⟨moved, hnext, hmoved⟩ := At.next h
          simp only [step, hnext, Place.neighborStep]
          exact ⟨rfl, hmoved⟩
  | skipUntil target =>
      cases spot with
      | none =>
          simp only [step, skipUntil, seek, next, hasNext, requireNode_of_uninitialized h.1,
            Place.neighborStep]
          exact ⟨rfl, h⟩
      | some place =>
          obtain ⟨moved, hseek, hmoved⟩ := At.seek_all h fun value => target < value
          simp only [step, skipUntil, hseek, Place.neighborStep]
          exact ⟨rfl, hmoved⟩
  | advance target =>
      cases spot with
      | none =>
          simp only [step, advance, seek, next, hasNext, requireNode_of_uninitialized h.1,
            Place.neighborStep]
          exact ⟨rfl, h⟩
      | some place =>
          obtain ⟨moved, hseek, hmoved⟩ := At.seek_all h fun value => target ≤ value
          simp only [step, advance, hseek, Place.neighborStep]
          exact ⟨rfl, hmoved⟩

/-- A cursor answers a sequence of operations as its place does. -/
theorem run_represents (hlists : ∀ node, lists.HoldsNeighbors node (contents node))
    {spot : Option (Place UInt64)} (h : cursor.Represents spot) (actions : List NeighborAction) :
    (cursor.run lists actions).1 = Place.neighborRun contents spot actions := by
  induction actions generalizing cursor spot with
  | nil => rfl
  | cons action rest ih =>
      obtain ⟨hanswer, hstep⟩ := step_represents hlists h action
      simp only [run, Place.neighborRun, hanswer, ih hstep]

/-- A sequence of operations takes a cursor where it takes its place. -/
theorem run_represents_after (hlists : ∀ node, lists.HoldsNeighbors node (contents node))
    {spot : Option (Place UInt64)} (h : cursor.Represents spot) (actions : List NeighborAction) :
    (cursor.run lists actions).2.Represents (Place.neighborAfter contents spot actions) := by
  induction actions generalizing cursor spot with
  | nil => exact h
  | cons action rest ih => exact ih (step_represents hlists h action).2

end NeighborCursor

/-- The neighbors of a node are read back. -/
theorem Lists.HoldsNeighbors.neighbors {lists : Lists} {node : Nat} {targets : List UInt64}
    (h : lists.HoldsNeighbors node targets) : lists.neighbors node = .ok targets := by
  obtain ⟨moved, hmoveTo, hmoved⟩ := NeighborCursor.moveTo_at h .raw
  simp only [Lists.neighbors, NeighborCursor.at?, hmoveTo, bind, Except.bind, hmoved.drain,
    Place.ahead_start]

end CompactAdjacency
