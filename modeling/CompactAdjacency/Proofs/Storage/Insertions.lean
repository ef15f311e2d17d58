import Mathlib
import CompactAdjacency.Proofs.Storage.Pages

/-!
# What an insertion does to the pages

`Allocators.Inserts` lists what an insertion may do, for every state of the workers and whether page
numbers are left or not: lengthen the page that is open, start a page, or refuse. It gives the pages
as a whole up to their order, so that a property of pages is carried through a run by looking at
these cases and at nothing of the bookkeeping of workers. `Allocators.askedInAll` counts the page
numbers that a run asks for.
-/

namespace CompactAdjacency

/-! ## Page numbers asked for -/

/-- Whether an insertion asks for the number of a new page: the record does not go into the open
page, and there is memory for a page that it goes into. -/
def PagePool.asksForPage (pool : PagePool) (current : Option Page) (record : Bytes) : Bool :=
  (current.filter (pool.fits · record)).isNone && max record.length pool.pageSize < allocationLimit

namespace Allocators

variable {workers after : Allocators} {worker : Nat} {record : Bytes}

/-- The number of page numbers that an action asks for. -/
def asked (workers : Allocators) : AllocatorAction → Nat
  | .insert worker record =>
      match workers.current[worker]? with
      | none => 0
      | some current => if workers.pool.asksForPage current record then 1 else 0
  | .join | .retire _ => 0

/-- The number of page numbers that a sequence of actions asks for. -/
def askedInAll (workers : Allocators) : List AllocatorAction → Nat
  | [] => 0
  | action :: rest => workers.asked action + (workers.step action).2.askedInAll rest

theorem run_cons (workers : Allocators) (action : AllocatorAction) (rest : List AllocatorAction) :
    workers.run (action :: rest) =
      ((workers.step action).1.toList ++ ((workers.step action).2.run rest).1,
        ((workers.step action).2.run rest).2) :=
  rfl

/-! ## Cases of an insertion -/

/-- What an insertion of a record may do, with the number of page numbers it asks for, its answer
and the workers it leaves. -/
inductive Inserts (workers : Allocators) (record : Bytes) (after : Allocators) :
    Nat → Except Failure Address → Prop
  | appended (page : Page) (others : List Page)
      (hbefore : workers.pages.Perm (page :: others))
      (hafter : after.pages.Perm ({ page with bytes := page.bytes ++ record } :: others))
      (hfits : page.bytes.length + record.length ≤ workers.pool.pageSize)
      (hnext : after.pool.nextId = workers.pool.nextId) :
      Inserts workers record after 0 (.ok ⟨page.id, page.bytes.length.toUInt32⟩)
  | opened (hunused : workers.pool.nextId ≠ 0xFFFFFFFF)
      (hafter : after.pages.Perm (⟨workers.pool.nextId, record⟩ :: workers.pages))
      (hsmall : record.length < allocationLimit)
      (hnext : after.pool.nextId = workers.pool.nextId + 1) :
      Inserts workers record after 1 (.ok ⟨workers.pool.nextId, 0⟩)
  | refused (failure : Failure) (hafter : after.pages.Perm workers.pages)
      (hcause : failure = .fault .outOfBounds ∨
        ∃ capacity, allocationLimit ≤ capacity ∧ failure = .capacityExhausted capacity)
      (hnext : after.pool.nextId = workers.pool.nextId) :
      Inserts workers record after 0 (.error failure)
  | exhausted (hused : workers.pool.nextId = 0xFFFFFFFF)
      (hafter : after.pages.Perm workers.pages) (hnext : after.pool.nextId = 0) :
      Inserts workers record after 1 (.error (.capacityExhausted workers.pool.pageSize))

/-- Returning a page neither hands out a number nor changes the size of pages. -/
theorem retire_pool (pool : PagePool) (current : Option Page) :
    (pool.retire current).nextId = pool.nextId ∧
      (pool.retire current).pageSize = pool.pageSize := by
  cases current with
  | none => exact ⟨rfl, rfl⟩
  | some page => exact ⟨rfl, rfl⟩

/-- An insertion that does not fit the open page returns it and starts another. -/
theorem inserts_openPage {current : Option Page}
    (hcurrent : workers.current[worker]? = some current)
    (hfits : current.filter (workers.pool.fits · record) = none) :
    let insertion := (workers.pool.retire current).openPage record
    workers.Inserts record
      ⟨insertion.pool, workers.current.set worker insertion.current⟩
      (if workers.pool.asksForPage current record then 1 else 0) insertion.outcome := by
  intro insertion
  obtain ⟨hnextId, hpageSize⟩ := retire_pool workers.pool current
  have hreturned := pages_retire hcurrent
  by_cases hlarge : allocationLimit ≤ max record.length workers.pool.pageSize
  · have hasks : workers.pool.asksForPage current record = false := by
      simp [PagePool.asksForPage, Nat.not_lt.mpr hlarge]
    have hinsertion : insertion = ⟨.error (.capacityExhausted
        (max record.length workers.pool.pageSize)), none, workers.pool.retire current⟩ := by
      simp only [insertion, PagePool.openPage, hpageSize, ge_iff_le, if_pos hlarge]
    rw [hasks, hinsertion]
    exact .refused _ hreturned (.inr ⟨_, hlarge, rfl⟩) hnextId
  · have hasks : workers.pool.asksForPage current record = true := by
      simp [PagePool.asksForPage, hfits, Nat.not_le.mp hlarge]
    rw [hasks, if_pos rfl]
    by_cases hlast : workers.pool.nextId = 0xFFFFFFFF
    · have hinsertion : insertion = ⟨.error (.capacityExhausted workers.pool.pageSize), none,
          { workers.pool.retire current with nextId := workers.pool.nextId + 1 }⟩ := by
        simp only [insertion, PagePool.openPage, hpageSize, hnextId, ge_iff_le, if_neg hlarge,
          if_pos hlast]
      rw [hinsertion]
      refine .exhausted hlast hreturned ?_
      simp [hlast]
    · have hinsertion : insertion = ⟨.ok ⟨workers.pool.nextId, 0⟩,
          some ⟨workers.pool.nextId, record⟩,
          { workers.pool.retire current with nextId := workers.pool.nextId + 1 }⟩ := by
        simp only [insertion, PagePool.openPage, hpageSize, hnextId, ge_iff_le, if_neg hlarge,
          if_neg hlast]
      rw [hinsertion]
      refine .opened hlast ?_ ?_ rfl
      · have hset : (⟨{ workers.pool.retire current with nextId := workers.pool.nextId + 1 },
            workers.current.set worker (some ⟨workers.pool.nextId, record⟩)⟩ :
            Allocators).current[worker]? = some (some ⟨workers.pool.nextId, record⟩) :=
          List.getElem?_set_self (List.getElem?_eq_some_iff.mp hcurrent).1
        refine (pages_perm hset).trans (.cons _ (.trans ?_ (pages_perm hcurrent).symm))
        rw [others_set]
        cases current with
        | none => exact .refl _
        | some page => exact .refl _
      · exact (Nat.le_max_left _ _).trans_lt (Nat.not_le.mp hlarge)

/-- Every insertion is one of the cases. -/
theorem insert_inserts (workers : Allocators) (worker : Nat) (record : Bytes) :
    workers.Inserts record (workers.insert worker record).2
      (workers.asked (.insert worker record)) (workers.insert worker record).1 := by
  unfold insert asked
  dsimp only
  cases hcurrent : workers.current[worker]? with
  | none => exact .refused _ (.refl _) (.inl rfl) rfl
  | some current =>
      dsimp only
      cases hfits : current.filter (workers.pool.fits · record) with
      | none =>
          have hinsert : workers.pool.insert current record =
              (workers.pool.retire current).openPage record := by
            simp only [PagePool.insert, hfits]
          rw [hinsert]
          exact inserts_openPage hcurrent hfits
      | some page =>
          obtain ⟨rfl, hpage⟩ := Option.filter_eq_some_iff.mp hfits
          have hinsert : workers.pool.insert (some page) record =
              ⟨.ok ⟨page.id, page.bytes.length.toUInt32⟩,
                some { page with bytes := page.bytes ++ record }, workers.pool⟩ := by
            simp only [PagePool.insert, hfits]
          have hasks : workers.pool.asksForPage (some page) record = false := by
            simp [PagePool.asksForPage, hfits]
          rw [hinsert, hasks]
          refine .appended page (workers.others worker) (pages_perm hcurrent) ?_ ?_ rfl
          · have hset : (⟨workers.pool, workers.current.set worker
                (some { page with bytes := page.bytes ++ record })⟩ :
                Allocators).current[worker]? =
                  some (some { page with bytes := page.bytes ++ record }) :=
              List.getElem?_set_self (List.getElem?_eq_some_iff.mp hcurrent).1
            refine (pages_perm hset).trans ?_
            rw [others_set]
            exact .refl _
          · simpa [PagePool.fits] using hpage

/-- No refusal of a large page looks like one of a page number: it asks for more memory than any
page size. -/
theorem Valid.refused_ne_exhausted (h : workers.Valid) {failure : Failure}
    (hcause : failure = .fault .outOfBounds ∨
      ∃ capacity, allocationLimit ≤ capacity ∧ failure = .capacityExhausted capacity) :
    failure ≠ .capacityExhausted workers.pool.pageSize := by
  rintro rfl
  obtain hfault | ⟨capacity, hcapacity, heq⟩ := hcause
  · simp at hfault
  · have hsize := h.pageSize
    obtain rfl := Failure.capacityExhausted.inj heq
    have hlimit := size_le_allocationLimit
    omega

/-- Returning the page of a worker leaves the same pages and numbers. -/
theorem retire_pages (workers : Allocators) (worker : Nat) :
    (workers.retire worker).pages.Perm workers.pages ∧
      (workers.retire worker).pool.nextId = workers.pool.nextId ∧
      (workers.retire worker).pool.pageSize = workers.pool.pageSize := by
  unfold retire
  cases hcurrent : workers.current[worker]? with
  | none => exact ⟨.refl _, rfl, rfl⟩
  | some current =>
      obtain ⟨hnextId, hpageSize⟩ := retire_pool workers.pool current
      exact ⟨pages_retire hcurrent, hnextId, hpageSize⟩

/-- No insertion changes the size of pages. -/
theorem insert_pageSize (workers : Allocators) (worker : Nat) (record : Bytes) :
    (workers.insert worker record).2.pool.pageSize = workers.pool.pageSize := by
  unfold insert
  cases hcurrent : workers.current[worker]? with
  | none => rfl
  | some current =>
      have hpageSize := (retire_pool workers.pool current).2
      dsimp only [PagePool.insert]
      cases hfits : current.filter (workers.pool.fits · record) with
      | some page => rfl
      | none =>
          dsimp only [PagePool.openPage]
          split
          case isTrue hlarge => exact hpageSize
          case isFalse hsmall =>
            split
            case isTrue hlast => exact hpageSize
            case isFalse hunused => exact hpageSize

end Allocators

end CompactAdjacency
