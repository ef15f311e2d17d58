import Mathlib
import CompactAdjacency.Proofs.Store.Counting

/-!
# What it means that nothing was found

A cursor that looks for a neighbor and finds none answers `notFound`, which is the largest word, and
as such may be a neighbor itself. `NeighborCursor.Unambiguous` is what the answer should mean: that
nothing wanted is left and that the cursor is at the end. `At.unambiguous_iff` says at which places
it does, those with no neighbor `notFound` ahead, and `At.answers_notFound_iff` what the answer
means at any place. In a list that ends in `notFound` twice a cursor answers it and stays ready,
`Store.notFound_ambiguous_oneNode`.
-/

namespace CompactAdjacency

/-- There is no larger word. -/
theorem le_notFound (word : UInt64) : word ≤ notFound :=
  UInt64.le_iff_toNat_le.mpr (Nat.le_of_lt_succ word.toNat_lt)

/-! ## Places -/

namespace Place

variable {place : Place UInt64} {wanted : UInt64 → Bool}

/-- Seeking answers the first wanted value ahead. -/
theorem seek_fst (place : Place UInt64) (wanted : UInt64 → Bool) :
    (place.seek wanted).1 = (place.ahead.find? wanted).getD notFound := by
  rw [List.find?_eq_bind_findIdx?_getElem?]
  unfold seek find?
  cases place.ahead.findIdx? wanted with
  | none => rfl
  | some offset => simp [ahead]

/-- Where nothing ahead is wanted, seeking goes to the end. -/
theorem seek_snd_of_unwanted (h : ∀ value ∈ place.ahead, wanted value = false) :
    (place.seek wanted).2 = place.finish := by
  have hnone : place.ahead.findIdx? wanted = none := List.findIdx?_eq_none_iff.mpr h
  simp only [seek, find?, hnone, Option.map_none]

/-- At the end nothing is left. -/
theorem state_finish (place : Place UInt64) : place.finish.state = .exhausted :=
  if_pos rfl

/-- In an ascending list nothing is found exactly if no value ahead is wanted, apart from values
that say so themselves. -/
theorem seek_eq_notFound_iff (hascending : place.values.Pairwise (· ≤ ·)) :
    (place.seek wanted).1 = notFound ↔
      ∀ value ∈ place.ahead, wanted value = true → value = notFound := by
  rw [seek_fst]
  cases hfind : place.ahead.find? wanted with
  | none =>
      refine iff_of_true rfl fun value hvalue hwanted => ?_
      exact absurd hwanted (List.find?_eq_none.mp hfind value hvalue)
  | some found =>
      obtain ⟨hfound, before, after, hahead, hbefore⟩ := List.find?_eq_some_iff_append.mp hfind
      constructor
      · rintro rfl value hvalue hwanted
        have hahead' : place.ahead.Pairwise (· ≤ ·) := hascending.drop
        rw [hahead, List.pairwise_append, List.pairwise_cons] at hahead'
        rw [hahead, List.mem_append, List.mem_cons] at hvalue
        rcases hvalue with hvalue | rfl | hvalue
        · simpa [hwanted] using hbefore value hvalue
        · rfl
        · -- what comes behind the largest word is the largest word again
          exact UInt64.le_antisymm (le_notFound value) (hahead'.2.1.1 value hvalue)
      · intro hall
        exact hall found (hahead ▸ by simp) hfound

theorem values_seek (place : Place UInt64) (wanted : UInt64 → Bool) :
    (place.seek wanted).2.values = place.values := by
  unfold seek
  split <;> rfl

theorem values_next (place : Place UInt64) : place.next.2.values = place.values := by
  unfold next
  split <;> rfl

/-- A cursor that is at a place is in the list of a node. -/
def InList (contents : Nat → List UInt64) (spot : Option (Place UInt64)) : Prop :=
  ∀ place, spot = some place → ∃ node, place.values = contents node

variable {contents : Nat → List UInt64} {spot : Option (Place UInt64)}

theorem InList.step (h : InList contents spot) (action : NeighborAction) :
    InList contents (neighborStep contents spot action).2 := by
  cases spot with
  | none =>
      rintro place hplace
      cases action with
      | moveTo node => exact ⟨node, by rw [← Option.some.inj hplace]; rfl⟩
      | reuse node => exact ⟨node, by rw [← Option.some.inj hplace]; rfl⟩
      | _ => simp [neighborStep] at hplace
  | some before =>
      obtain ⟨node, hnode⟩ := h before rfl
      rintro place hplace
      cases action with
      | moveTo node => exact ⟨node, by rw [← Option.some.inj hplace]; rfl⟩
      | reuse node => exact ⟨node, by rw [← Option.some.inj hplace]; rfl⟩
      | next => exact ⟨node, by rw [← Option.some.inj hplace, values_next, hnode]⟩
      | skipUntil target => exact ⟨node, by rw [← Option.some.inj hplace, values_seek, hnode]⟩
      | advance target => exact ⟨node, by rw [← Option.some.inj hplace, values_seek, hnode]⟩
      | _ => exact ⟨node, by rw [← Option.some.inj hplace, hnode]⟩

theorem inList_none (contents : Nat → List UInt64) : InList contents none :=
  fun _ hplace => nomatch hplace

/-- Operations take a cursor from list to list. -/
theorem InList.run (h : InList contents spot) (actions : List NeighborAction) :
    InList contents (neighborAfter contents spot actions) := by
  induction actions generalizing spot with
  | nil => exact h
  | cons action rest ih => exact ih (h.step action)

/-- The next value is found by wanting any. -/
theorem getD_position (place : Place UInt64) :
    place.values.getD place.position notFound = (place.seek fun _ => true).1 := by
  by_cases hlt : place.position < place.values.length
  · rw [seek_of_lt _ hlt, if_pos rfl, List.getD_eq_getElem _ _ hlt]
  · rw [seek_of_ge _ (Nat.not_lt.mp hlt), List.getD_eq_default _ _ (Nat.not_lt.mp hlt)]

end Place

/-! ## Cursors -/

namespace NeighborCursor

variable {cursor : NeighborCursor} {place : Place UInt64}

/-- What `notFound` should mean to who asks a cursor with so many neighbors ahead. -/
structure Unambiguous (cursor : NeighborCursor) (ahead : List UInt64) : Prop where
  advance : ∀ target moved, cursor.advance target = (.ok notFound, moved) →
    (∀ value ∈ ahead, ¬ target ≤ value) ∧ moved.state = .exhausted
  skipUntil : ∀ target moved, cursor.skipUntil target = (.ok notFound, moved) →
    (∀ value ∈ ahead, ¬ target < value) ∧ moved.state = .exhausted
  peek : cursor.peek = .ok notFound → cursor.hasNext = .ok false

/-- Where `notFound` is not ahead, nothing is found only if nothing ahead is wanted, and only at the
end. -/
theorem At.exhausted_of_seek (h : cursor.At place) (hahead : notFound ∉ place.ahead)
    {wanted : UInt64 → Bool} {moved : NeighborCursor}
    (hseek : cursor.seek wanted (cursor.length + 1) = (.ok notFound, moved)) :
    (∀ value ∈ place.ahead, wanted value = false) ∧ moved.state = .exhausted := by
  obtain ⟨moved', hseek', hmoved⟩ := h.seek_all wanted
  obtain ⟨hanswer, rfl⟩ := Prod.mk.inj (hseek.symm.trans hseek')
  have hfirst : notFound = (place.ahead.find? wanted).getD notFound :=
    (Except.ok.inj hanswer).trans (place.seek_fst wanted)
  have hnone : place.ahead.find? wanted = none := by
    cases hfind : place.ahead.find? wanted with
    | none => rfl
    | some found =>
        rw [hfind, Option.getD_some] at hfirst
        exact absurd (hfirst ▸ List.mem_of_find?_eq_some hfind) hahead
  have hunwanted : ∀ value ∈ place.ahead, wanted value = false := by
    simpa using hnone
  refine ⟨hunwanted, ?_⟩
  rw [hmoved.state, Place.seek_snd_of_unwanted hunwanted, Place.state_finish]

/-- At a place the answer `notFound` means what it should exactly if it is no neighbor ahead. -/
theorem At.unambiguous_iff (h : cursor.At place) :
    cursor.Unambiguous place.ahead ↔ notFound ∉ place.ahead := by
  constructor
  · intro hclear hmem
    -- who asks for `notFound` itself is answered `notFound`, and there is one
    obtain ⟨moved, hseek, -⟩ := h.seek_all fun value => notFound ≤ value
    have hanswer : (place.seek fun value => notFound ≤ value).1 = notFound := by
      rw [Place.seek_fst]
      cases hfind : place.ahead.find? fun value => notFound ≤ value with
      | none => rfl
      | some found =>
          have hfound : notFound ≤ found := by simpa using List.find?_some hfind
          exact UInt64.le_antisymm (le_notFound found) hfound
    rw [hanswer] at hseek
    exact (hclear.advance notFound moved hseek).1 notFound hmem (UInt64.le_refl _)
  · intro hahead
    refine ⟨?_, ?_, ?_⟩
    · intro target moved hadvance
      simpa using h.exhausted_of_seek hahead hadvance
    · intro target moved hskip
      simpa using h.exhausted_of_seek hahead hskip
    · intro hpeek
      rw [h.hasNext, Except.ok.injEq, decide_eq_false_iff_not]
      intro hlt
      rw [h.peek, List.getD_eq_getElem _ _ hlt] at hpeek
      rw [Place.ahead_of_lt hlt, Except.ok.inj hpeek] at hahead
      exact hahead List.mem_cons_self

/-- What the answer `notFound` means at any place of an ascending list. -/
theorem At.answers_notFound_iff (h : cursor.At place)
    (hascending : place.values.Pairwise (· ≤ ·)) :
    (∀ target, (cursor.advance target).1 = .ok notFound ↔
        ∀ value ∈ place.ahead, target ≤ value → value = notFound) ∧
      (∀ target, (cursor.skipUntil target).1 = .ok notFound ↔
        ∀ value ∈ place.ahead, target < value → value = notFound) ∧
      (cursor.peek = .ok notFound ↔ ∀ value ∈ place.ahead, value = notFound) := by
  refine ⟨?_, ?_, ?_⟩
  · intro target
    obtain ⟨moved, hseek, -⟩ := h.seek_all fun value => target ≤ value
    rw [advance, hseek, Except.ok.injEq, Place.seek_eq_notFound_iff hascending]
    simp only [decide_eq_true_eq]
  · intro target
    obtain ⟨moved, hseek, -⟩ := h.seek_all fun value => target < value
    rw [skipUntil, hseek, Except.ok.injEq, Place.seek_eq_notFound_iff hascending]
    simp only [decide_eq_true_eq]
  · rw [h.peek, Except.ok.injEq, Place.getD_position, Place.seek_eq_notFound_iff hascending]
    simp only [forall_const]

end NeighborCursor

/-! ## Lists of a store -/

namespace Store

variable {store : Store} {config : Config}

/-- Wherever a cursor is taken on the lists of a store, it answers `notFound` if the neighbors ahead
that it was asked for all are `notFound`. So this means that there are none, and that the cursor is
at the end, exactly if `notFound` is no neighbor ahead. -/
theorem notFound_unambiguous_iff {nodeCount : Nat} (hstart : Started config nodeCount store)
    (actions : List StoreAction)
    (hsince : ∀ action ∈ actions, action.SinceReset store.compressors.length)
    (hpages : ∀ answer ∈ (store.run actions).1, ¬ answer.OutOfPages config) {lists : Lists}
    (hfreeze : (store.run actions).2.freeze = .ok lists) (operations : List NeighborAction)
    {place : Place UInt64}
    (hplace : Place.neighborAfter
      (fun node => (lastCompressed (fun _ => .empty config.channelCount.toNat)
        (actions.zip (store.run actions).1) node).targets) none operations = some place) :
    let cursor := (NeighborCursor.raw.run lists operations).2
    (∀ target, (cursor.advance target).1 = .ok notFound ↔
        ∀ value ∈ place.ahead, target ≤ value → value = notFound) ∧
      (∀ target, (cursor.skipUntil target).1 = .ok notFound ↔
        ∀ value ∈ place.ahead, target < value → value = notFound) ∧
      (cursor.peek = .ok notFound ↔ ∀ value ∈ place.ahead, value = notFound) ∧
      (cursor.Unambiguous place.ahead ↔ notFound ∉ place.ahead) := by
  intro cursor
  have hsound := hstart.run_sound hsince hpages
  have hafter := NeighborCursor.run_represents_after
    (fun node => hsound.holdsNeighbors_of_freeze hfreeze node) NeighborCursor.raw_represents
    operations
  rw [hplace] at hafter
  have hat : cursor.At place := hafter
  obtain ⟨node, hnode⟩ := (Place.inList_none _).run operations place hplace
  have hascending : place.values.Pairwise (· ≤ ·) := hnode ▸ (hsound.holds node).ascending
  obtain ⟨hadvance, hskip, hpeek⟩ := hat.answers_notFound_iff hascending
  exact ⟨hadvance, hskip, hpeek, hat.unambiguous_iff⟩

/-- In front of the only neighbor of a node, which is 8, the answer means what it should. -/
theorem notFound_unambiguous_iff_twoNodes :
    ∃ lists, (twoNodes.run compressTwice).2.freeze = .ok lists ∧
      (NeighborCursor.raw.run lists [.moveTo 0]).2.Unambiguous [8] := by
  have hsince : ∀ action ∈ compressTwice, action.SinceReset twoNodes.compressors.length := by
    decide +kernel
  have hpages : ∀ answer ∈ (twoNodes.run compressTwice).1,
      ¬ answer.OutOfPages { Config.default 1 with channelCount := 1 } := by
    decide +kernel
  obtain ⟨lists, hfreeze⟩ := (twoNodes_started.run_sound hsince hpages).exists_freeze
    fun number _ => compressTwice_closed number
  have hplace : Place.neighborAfter
      (fun node => (lastCompressed (fun _ => .empty 1)
        (compressTwice.zip (twoNodes.run compressTwice).1) node).targets) none [.moveTo 0] =
      some ⟨[8], 0⟩ := by
    decide +kernel
  obtain ⟨-, -, -, hiff⟩ :=
    notFound_unambiguous_iff twoNodes_started compressTwice hsince hpages hfreeze [.moveTo 0] hplace
  exact ⟨lists, hfreeze, hiff.mpr (by decide)⟩

/-- A compressor that compresses a node to the largest word, twice. -/
def compressLargest : List StoreAction :=
  [.createCompressor, .compress 0 .whole 0 [notFound, notFound] [] 2, .close 0]

/-- What is built then: the word of ten bytes, and no gap behind it. -/
def largestLists : Lists :=
  { rule := (Config.default 1).layoutRule
    relationshipCount := 2
    directory := ⟨#[2], #[.zero], #[.zero]⟩
    adjacency := ⟨[[255, 255, 255, 255, 255, 255, 255, 255, 255, 1, 0]]⟩
    properties := none }

/-- The compression succeeds. A cursor in front of both neighbors answers `notFound` when it peeks,
although there is a next one, and again when it skips to a neighbor larger than 5, although both are
larger, and then is not at the end. -/
theorem notFound_ambiguous_oneNode :
    Started (.default 1) 1 oneNode ∧
      compressedNodes (compressLargest.zip (oneNode.run compressLargest).1) = [0] ∧
      (oneNode.run compressLargest).2.freeze = .ok largestLists ∧
      (NeighborCursor.raw.run largestLists
          [.moveTo 0, .peek, .hasNext, .skipUntil 5, .state, .next]).1 =
        [.ok (.state .blockReady), .ok (.word notFound), .ok (.holds true), .ok (.word notFound),
          .ok (.state .blockReady), .ok (.neighbor (some notFound))] := by
  refine ⟨oneNode_started, ?_, ?_, ?_⟩
  · decide +kernel
  · decide +kernel
  · decide +kernel

end Store

end CompactAdjacency
