import Mathlib
import CompactAdjacency.Proofs.Storage.Numbers

/-!
# Freezing again

A pool gives up its returned pages whenever it is frozen, whether that succeeds or not. So an
attempt that comes too early loses the pages returned by then, and no later one can succeed.
`ArenaHistory` follows work and attempts to freeze, with the pages that were taken on the way; had
they stayed in the pool, the workers would have noticed nothing, `Allocators.restore_step`, so that
all that is known of work without freezing is known of the pages there are and those taken, `Sound`.
`freeze_again_iff` says when an attempt succeeds after others: if none of them found a page to take.
-/

namespace CompactAdjacency

/-! ## Pages put back -/

/-- The pool with pages put back among those returned. -/
def PagePool.restore (pool : PagePool) (taken : List Page) : PagePool :=
  { pool with returned := pool.returned ++ taken }

theorem PagePool.restore_openPage (pool : PagePool) (taken : List Page) (record : Bytes) :
    (pool.restore taken).openPage record =
      ⟨(pool.openPage record).outcome, (pool.openPage record).current,
        (pool.openPage record).pool.restore taken⟩ := by
  by_cases hlarge : max record.length pool.pageSize ≥ allocationLimit
  · simp only [openPage, restore, hlarge, if_true]
  · by_cases hlast : pool.nextId = 0xFFFFFFFF
    · simp only [openPage, restore, hlarge, hlast, if_true, if_false]
    · simp only [openPage, restore, hlarge, hlast, if_false]

/-- An insertion does not look at the returned pages. -/
theorem PagePool.restore_insert (pool : PagePool) (taken : List Page) (current : Option Page)
    (record : Bytes) :
    (pool.restore taken).insert current record =
      ⟨(pool.insert current record).outcome, (pool.insert current record).current,
        (pool.insert current record).pool.restore taken⟩ := by
  have hretire : (pool.restore taken).retire current = (pool.retire current).restore taken := by
    cases current with
    | none => rfl
    | some page => rfl
  have hfits : (pool.restore taken).fits = pool.fits := rfl
  unfold PagePool.insert
  rw [hretire, hfits]
  split
  case h_1 page hpage => rfl
  case h_2 hnone => exact restore_openPage (pool.retire current) taken record

/-- Freezing fails for no other reason than a page that is missing. -/
theorem PagePool.freeze_cases (pool : PagePool) :
    (∃ arena, pool.freeze.1 = .ok arena) ∨
      ∃ position, pool.freeze.1 = .error (.unsealedPage position) := by
  unfold freeze
  dsimp only
  split
  case h_1 position hplaced => exact .inr ⟨_, rfl⟩
  case h_2 hplaced =>
    split
    case isTrue hcount => exact .inl ⟨_, rfl⟩
    case isFalse hcount => exact .inr ⟨_, rfl⟩

namespace Allocators

/-- The workers with pages put back into their pool. -/
def restore (workers : Allocators) (taken : List Page) : Allocators :=
  { workers with pool := workers.pool.restore taken }

/-- Workers do the same whether pages are put back or not. -/
theorem restore_step (workers : Allocators) (taken : List Page) (action : AllocatorAction) :
    (workers.restore taken).step action =
      ((workers.step action).1, (workers.step action).2.restore taken) := by
  cases action with
  | join => rfl
  | retire worker =>
      simp only [step, retire, restore]
      cases workers.current[worker]? with
      | none => rfl
      | some current =>
          cases current with
          | none => rfl
          | some page => rfl
  | insert worker record =>
      simp only [step, insert, restore]
      cases workers.current[worker]? with
      | none => rfl
      | some current => simp only [PagePool.restore_insert]

/-- They ask for the same page numbers. -/
theorem asked_restore (workers : Allocators) (taken : List Page) (action : AllocatorAction) :
    (workers.restore taken).asked action = workers.asked action := rfl

/-- What freezing takes can be put back. -/
theorem restore_freeze (workers : Allocators) (taken : List Page) :
    workers.freeze.2.restore (workers.pool.returned ++ taken) = workers.restore taken := by
  unfold freeze PagePool.freeze
  dsimp only
  split
  case h_1 position hplaced => rfl
  case h_2 hplaced =>
    split
    case isTrue hcount => rfl
    case isFalse hcount => rfl

theorem restore_nil (workers : Allocators) : workers.restore [] = workers := by
  simp only [restore, PagePool.restore, List.append_nil]

end Allocators

/-! ## Histories -/

/-- What may happen to an arena that is being built: a worker does something, or it is frozen. -/
inductive ArenaAction where
  | work (action : AllocatorAction)
  | freeze
  deriving DecidableEq, Repr

/-- The workers on an arena together with what has happened: the records that landed, the pages that
freezing took, and the number of page numbers asked for. -/
structure ArenaHistory where
  workers : Allocators
  landed : List Landing
  taken : List Page
  asked : Nat
  deriving DecidableEq, Repr

namespace ArenaHistory

variable {history : ArenaHistory}

/-- Nothing has happened to a new pool. -/
def ofPool (pool : PagePool) : ArenaHistory := ⟨.ofPool pool, [], [], 0⟩

/-- One action more. -/
def step (history : ArenaHistory) : ArenaAction → ArenaHistory
  | .work action =>
      { workers := (history.workers.step action).2
        landed := history.landed ++ landings [action] (history.workers.step action).1.toList
        taken := history.taken
        asked := history.asked + history.workers.asked action }
  | .freeze =>
      { history with
        workers := history.workers.freeze.2
        taken := history.workers.pool.returned ++ history.taken }

/-- Several actions more. -/
def run (history : ArenaHistory) (actions : List ArenaAction) : ArenaHistory :=
  actions.foldl step history

/-- The pages there are and those taken are numbered by the requests, and hold the records that
landed unless the numbers have been used up. -/
structure Sound (history : ArenaHistory) : Prop where
  numbered : (history.workers.restore history.taken).Numbered history.asked
  tiled : history.asked < UInt32.size →
    (history.workers.restore history.taken).Tiled history.landed

theorem sound_ofPool {pageSize : Nat} {pool : PagePool}
    (hpool : PagePool.ofPageSize? pageSize = .ok pool) : (ofPool pool).Sound := by
  obtain ⟨htiled, -⟩ := Allocators.tiled_ofPool hpool
  obtain ⟨-, rfl⟩ := PagePool.ofPageSize?_eq_ok_iff.mp hpool
  exact ⟨Allocators.numbered_ofPageSize pageSize, fun _ => htiled⟩

/-- Work and attempts to freeze keep a history sound. -/
theorem Sound.step (h : history.Sound) (action : ArenaAction) : (history.step action).Sound := by
  cases action with
  | freeze =>
      refine ⟨?_, fun hasked => ?_⟩
      · show (history.workers.freeze.2.restore
          (history.workers.pool.returned ++ history.taken)).Numbered history.asked
        rw [Allocators.restore_freeze]
        exact h.numbered
      · show (history.workers.freeze.2.restore
          (history.workers.pool.returned ++ history.taken)).Tiled history.landed
        rw [Allocators.restore_freeze]
        exact h.tiled hasked
  | work action =>
      have hstep := Allocators.restore_step history.workers history.taken action
      refine ⟨?_, fun hasked => ?_⟩
      · have hnumbered := h.numbered.step action
        rw [hstep, Allocators.asked_restore] at hnumbered
        exact hnumbered
      · have hbefore : history.asked < UInt32.size :=
          Nat.lt_of_le_of_lt (Nat.le_add_right _ _) hasked
        have hnext := h.numbered.next
        rw [Nat.mod_eq_of_lt hbefore] at hnext
        obtain ⟨htiled, -⟩ := (h.tiled hbefore).step action (by rw [hnext]; exact hasked)
        rw [hstep] at htiled
        exact htiled

theorem Sound.run (h : history.Sound) (actions : List ArenaAction) :
    (history.run actions).Sound := by
  induction actions generalizing history with
  | nil => exact h
  | cons action rest ih => exact ih (h.step action)

/-! ## Attempts to freeze -/

/-- An attempt succeeds only if nothing is open and nothing has been taken, as long as there are
page numbers left. -/
theorem Sound.of_freeze (h : history.Sound) (hasked : history.asked < UInt32.size) {arena : Arena}
    (harena : history.workers.freeze.1 = .ok arena) :
    history.workers.Closed ∧ history.taken = [] := by
  have hcount := (h.tiled hasked).valid.ids.length_eq
  have hreturned := congrArg UInt32.toNat (PagePool.length_of_freeze harena)
  have hlt := history.workers.pool.nextId.toNat_lt
  simp only [Allocators.restore, PagePool.restore, Allocators.pages, List.length_map,
    List.length_append, List.length_range] at hcount
  rw [Nat.toUInt32, UInt32.toNat_ofNat', Nat.mod_eq_of_lt (by omega)] at hreturned
  exact ⟨List.eq_nil_of_length_eq_zero (by omega), List.eq_nil_of_length_eq_zero (by omega)⟩

/-- Where nothing has been taken, an arena without open pages is frozen with every record in it, if
there are page numbers left, and otherwise not at all. -/
theorem Sound.freeze_iff_of_untaken (h : history.Sound) (hclosed : history.workers.Closed)
    (htaken : history.taken = []) :
    (∃ arena, history.workers.freeze.1 = .ok arena ∧ ∀ landing ∈ history.landed, ∃ rest,
      arena.bytesAt landing.address = .ok (landing.record ++ rest)) ↔
        history.asked < UInt32.size := by
  have hnumbered := h.numbered
  rw [htaken, Allocators.restore_nil] at hnumbered
  constructor
  · rintro ⟨arena, harena, -⟩
    by_contra hmany
    exact (hnumbered.full (Nat.le_of_not_lt hmany)).freeze_ne_ok hclosed.fewOpen arena harena
  · intro hasked
    have htiled := h.tiled hasked
    rw [htaken, Allocators.restore_nil] at htiled
    obtain ⟨arena, harena⟩ := (Allocators.freeze_ok_iff htiled.valid).mpr hclosed
    exact ⟨arena, harena, fun landing hlanding =>
      Allocators.bytesAt_of_stores htiled.valid harena (htiled.stores landing hlanding)⟩

/-- An attempt to freeze fails for want of a page while a worker has one open. Once none has, it
succeeds with every record in the arena if and only if no attempt before it found a returned page,
and no more page numbers were asked for than can be handed out. Where pages were taken and page
numbers are used up as well, numbers are handed out again and nothing is said. -/
theorem freeze_again_iff {pageSize : Nat} {pool : PagePool}
    (hpool : PagePool.ofPageSize? pageSize = .ok pool) (actions : List ArenaAction) :
    let history := (ofPool pool).run actions
    (history.asked < UInt32.size → (∃ current ∈ history.workers.current, current ≠ none) →
      ∃ position, history.workers.freeze.1 = .error (.unsealedPage position)) ∧
    ((∀ current ∈ history.workers.current, current = none) →
      (history.asked < UInt32.size ∨ history.taken = []) →
      ((∃ arena, history.workers.freeze.1 = .ok arena ∧ ∀ landing ∈ history.landed, ∃ rest,
        arena.bytesAt landing.address = .ok (landing.record ++ rest)) ↔
          history.asked < UInt32.size ∧ history.taken = [])) := by
  intro history
  have hsound : history.Sound := (sound_ofPool hpool).run actions
  constructor
  · rintro hasked ⟨current, hcurrent, hopen⟩
    refine history.workers.pool.freeze_cases.resolve_left ?_
    rintro ⟨arena, harena⟩
    have hclosed := (hsound.of_freeze hasked harena).1
    exact hopen (Allocators.closed_iff.mp hclosed current hcurrent)
  · intro hcurrent hcause
    have hclosed := Allocators.closed_iff.mpr hcurrent
    constructor
    · rintro ⟨arena, harena, hrecords⟩
      have htaken : history.taken = [] :=
        hcause.elim (fun hasked => (hsound.of_freeze hasked harena).2) id
      exact ⟨(hsound.freeze_iff_of_untaken hclosed htaken).mp ⟨arena, harena, hrecords⟩, htaken⟩
    · rintro ⟨hasked, htaken⟩
      exact (hsound.freeze_iff_of_untaken hclosed htaken).mpr hasked

/-- Two workers each insert a record; the pool is frozen while both pages are open, and they are
returned afterwards. -/
def returnedLate : List ArenaAction :=
  [.work .join, .work .join, .work (.insert 0 [1, 2, 3]), .work (.insert 1 [4, 5, 6]), .freeze,
    .work (.retire 1), .work (.retire 0)]

/-- Two workers each insert a record; the pool is frozen after one of them has returned its page and
before the other does. -/
def returnedEarly : List ArenaAction :=
  [.work .join, .work .join, .work (.insert 0 [1, 2, 3]), .work (.insert 1 [4, 5, 6]),
    .work (.retire 1), .freeze, .work (.retire 0)]

/-- An attempt that finds no returned page does no harm. -/
theorem freeze_again_iff_returnedLate :
    PagePool.ofPageSize? 64 = .ok (.ofPageSize 64) ∧
      (∃ position, ((ofPool (.ofPageSize 64)).run (returnedLate.take 4)).workers.freeze.1 =
        .error (.unsealedPage position)) ∧
      ∃ arena, ((ofPool (.ofPageSize 64)).run returnedLate).workers.freeze.1 = .ok arena ∧
        (∃ rest, arena.bytesAt ⟨0, 0⟩ = .ok ([1, 2, 3] ++ rest)) ∧
        ∃ rest, arena.bytesAt ⟨1, 0⟩ = .ok ([4, 5, 6] ++ rest) := by
  have hpool : PagePool.ofPageSize? 64 = .ok (.ofPageSize 64) := rfl
  have hfails := (freeze_again_iff hpool (returnedLate.take 4)).1 (by decide +kernel)
    ⟨some ⟨0, [1, 2, 3]⟩, by decide +kernel, by simp⟩
  obtain ⟨arena, harena, hrecords⟩ := ((freeze_again_iff hpool returnedLate).2 (by decide +kernel)
    (.inr (by decide +kernel))).mpr ⟨by decide +kernel, by decide +kernel⟩
  have hlanded : ((ofPool (.ofPageSize 64)).run returnedLate).landed =
      [⟨⟨0, 0⟩, [1, 2, 3]⟩, ⟨⟨1, 0⟩, [4, 5, 6]⟩] := by decide +kernel
  rw [hlanded] at hrecords
  exact ⟨hpool, hfails, arena, harena, hrecords ⟨⟨0, 0⟩, [1, 2, 3]⟩ (by simp),
    hrecords ⟨⟨1, 0⟩, [4, 5, 6]⟩ (by simp)⟩

/-- An attempt that finds a returned page loses it: the next one fails although no page is open. -/
theorem freeze_again_fails_returnedEarly :
    ((ofPool (.ofPageSize 64)).run (returnedEarly.take 5)).workers.freeze.1 =
        .error (.unsealedPage 0) ∧
      (∀ current ∈ ((ofPool (.ofPageSize 64)).run returnedEarly).workers.current,
        current = none) ∧
      ((ofPool (.ofPageSize 64)).run returnedEarly).workers.freeze.1 =
        .error (.unsealedPage 1) := by
  decide +kernel

end ArenaHistory

end CompactAdjacency
