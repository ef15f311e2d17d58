import Mathlib
import CompactAdjacency.Storage.Arena

/-!
# What workers leave in an arena

Workers on an arena interleave freely, so nothing can be said about the order of its pages. What can
be said is that the pages returned and the pages still open have exactly the numbers handed out,
each of them once: this is `Allocators.Valid`. `Allocators.Stores` says that a record is found at an
address, and pages only grow, so that it stays there. One action of a worker keeps all of this,
`Allocators.insert_spec` and `Allocators.retire_spec`, unless the page numbers are used up.
-/

namespace CompactAdjacency

namespace PagePool

/-- A new pool has a page size above zero that fits 32 bits. -/
theorem ofPageSize?_eq_ok_iff {pageSize : Nat} {pool : PagePool} :
    ofPageSize? pageSize = .ok pool ↔
      (0 < pageSize ∧ pageSize < UInt32.size) ∧ pool = ofPageSize pageSize := by
  unfold ofPageSize?
  split
  case isTrue hsize => simp [hsize, eq_comm]
  case isFalse hsize => simp [hsize]

/-! ## Insertions -/

/-- What an insertion may do: write to the open page, start a page, or refuse a page that is too
large or has no number left. -/
theorem insert_cases (pool : PagePool) (current : Option Page) (record : Bytes) :
    (∃ page, current = some page ∧ page.bytes.length + record.length ≤ pool.pageSize ∧
      pool.insert current record = ⟨.ok ⟨page.id, page.bytes.length.toUInt32⟩,
        some { page with bytes := page.bytes ++ record }, pool⟩) ∨
    (pool.nextId ≠ 0xFFFFFFFF ∧
      pool.insert current record = ⟨.ok ⟨pool.nextId, 0⟩, some ⟨pool.nextId, record⟩,
        { pool.retire current with nextId := pool.nextId + 1 }⟩) ∨
    (∃ capacity, allocationLimit ≤ capacity ∧
      pool.insert current record =
        ⟨.error (.capacityExhausted capacity), none, pool.retire current⟩) ∨
    (pool.insert current record).outcome = .error (.capacityExhausted pool.pageSize) := by
  have hretire : (pool.retire current).nextId = pool.nextId ∧
      (pool.retire current).pageSize = pool.pageSize := by
    cases current with
    | none => exact ⟨rfl, rfl⟩
    | some page => exact ⟨rfl, rfl⟩
  cases hfits : current.filter (pool.fits · record) with
  | some page =>
      obtain ⟨hcurrent, hpage⟩ := Option.filter_eq_some_iff.mp hfits
      exact .inl ⟨page, hcurrent, by simpa [fits] using hpage, by simp only [insert, hfits]⟩
  | none =>
      right
      simp only [insert, hfits, openPage, hretire.1, hretire.2]
      by_cases hlarge : max record.length pool.pageSize ≥ allocationLimit
      · exact .inr (.inl ⟨_, hlarge, by rw [if_pos hlarge]⟩)
      · rw [if_neg hlarge]
        by_cases hlast : pool.nextId = 0xFFFFFFFF
        · exact .inr (.inr (by rw [if_pos hlast]))
        · exact .inl ⟨hlast, by rw [if_neg hlast]⟩

end PagePool

namespace Allocators

variable {workers after : Allocators} {worker : Nat}

/-! ## Pages -/

/-- All pages: those returned and those that a worker has open. -/
def pages (workers : Allocators) : List Page :=
  workers.pool.returned ++ workers.current.reduceOption

/-- The pages apart from the one that a worker has open. -/
def others (workers : Allocators) (worker : Nat) : List Page :=
  workers.pool.returned ++ (workers.current.eraseIdx worker).reduceOption

/-- The numbers of the pages are the numbers handed out, each of them once. -/
structure Valid (workers : Allocators) : Prop where
  pageSize : workers.pool.pageSize < UInt32.size
  ids : (workers.pages.map fun page => page.id.toNat).Perm
    (List.range workers.pool.nextId.toNat)

/-- Every page is still there, with what it held at its front. -/
def Grows (workers after : Allocators) : Prop :=
  ∀ page ∈ workers.pages, ∃ grown ∈ after.pages, grown.id = page.id ∧ page.bytes <+: grown.bytes

/-- A record is found at an address. -/
def Stores (workers : Allocators) (address : Address) (record : Bytes) : Prop :=
  ∃ page ∈ workers.pages, page.id = address.page ∧ ∃ front rest,
    page.bytes = front ++ (record ++ rest) ∧ front.length = address.offset.toNat

/-- The pages are the one that a worker has open and the others. -/
theorem pages_perm {current : Option Page} (h : workers.current[worker]? = some current) :
    workers.pages.Perm (current.toList ++ workers.others worker) := by
  obtain ⟨hlt, hget⟩ := List.getElem?_eq_some_iff.mp h
  have hcurrent : workers.current.Perm (current :: workers.current.eraseIdx worker) := by
    rw [← hget]
    exact (List.getElem_cons_eraseIdx_perm hlt).symm
  have hopen : workers.current.reduceOption.Perm
      (current.toList ++ (workers.current.eraseIdx worker).reduceOption) := by
    have := hcurrent.filterMap id
    cases current with
    | none => exact this
    | some page => exact this
  unfold pages others
  exact (hopen.append_left _).trans (List.perm_append_comm_assoc _ _ _)

/-- The others do not depend on the page that the worker has open. -/
theorem others_set (workers : Allocators) (worker : Nat) (current : Option Page)
    (pool : PagePool) :
    (⟨pool, workers.current.set worker current⟩ : Allocators).others worker =
      pool.returned ++ (workers.current.eraseIdx worker).reduceOption := by
  rw [others, List.eraseIdx_set_eq]

theorem Grows.refl (workers : Allocators) : workers.Grows workers :=
  fun page hpage => ⟨page, hpage, rfl, List.prefix_refl _⟩

theorem Grows.trans {last : Allocators} (h : workers.Grows after) (h' : after.Grows last) :
    workers.Grows last := by
  intro page hpage
  obtain ⟨grown, hgrown, hid, hprefix⟩ := h page hpage
  obtain ⟨larger, hlarger, hid', hprefix'⟩ := h' grown hgrown
  exact ⟨larger, hlarger, hid'.trans hid, hprefix.trans hprefix'⟩

/-- What is stored stays where it is. -/
theorem Stores.mono {address : Address} {record : Bytes} (h : workers.Stores address record)
    (hgrows : workers.Grows after) : after.Stores address record := by
  obtain ⟨page, hpage, hid, front, rest, hbytes, hfront⟩ := h
  obtain ⟨grown, hgrown, hid', ⟨more, hmore⟩⟩ := hgrows page hpage
  refine ⟨grown, hgrown, hid'.trans hid, front, rest ++ more, ?_, hfront⟩
  rw [← hmore, hbytes]
  simp only [List.append_assoc]

/-- The same pages have grown by nothing. -/
theorem Grows.of_perm (h : workers.pages.Perm after.pages) : workers.Grows after :=
  fun page hpage => ⟨page, h.mem_iff.mp hpage, rfl, List.prefix_refl _⟩

/-! ## Actions -/

/-- What every action of a worker keeps: the pages stay numbered and only grow, and the other
workers keep the pages they have open. -/
structure Keeps (workers after : Allocators) (worker : Nat) : Prop where
  valid : after.Valid
  grows : workers.Grows after
  pageSize : after.pool.pageSize = workers.pool.pageSize
  length : after.current.length = workers.current.length
  frame : ∀ other ≠ worker, after.current[other]? = workers.current[other]?

theorem Keeps.refl (h : workers.Valid) (worker : Nat) : workers.Keeps workers worker :=
  ⟨h, .refl workers, rfl, rfl, fun _ _ => rfl⟩

/-- An action that leaves the same pages keeps what it has to. -/
theorem keeps_of_perm (h : workers.Valid) {pool : PagePool} {current : Option Page}
    (hpool : pool.pageSize = workers.pool.pageSize ∧ pool.nextId = workers.pool.nextId)
    (hperm : (⟨pool, workers.current.set worker current⟩ : Allocators).pages.Perm workers.pages) :
    workers.Keeps ⟨pool, workers.current.set worker current⟩ worker := by
  refine ⟨⟨?_, ?_⟩, .of_perm hperm.symm, hpool.1, List.length_set, ?_⟩
  · rw [hpool.1]
    exact h.pageSize
  · rw [hpool.2]
    exact (hperm.map _).trans h.ids
  · intro other hother
    exact List.getElem?_set_ne hother.symm

/-- Retiring moves a page from the worker to the pool. -/
theorem pages_retire {current : Option Page} (h : workers.current[worker]? = some current) :
    (⟨workers.pool.retire current, workers.current.set worker none⟩ : Allocators).pages.Perm
      workers.pages := by
  have hlt := (List.getElem?_eq_some_iff.mp h).1
  have hset : (⟨workers.pool.retire current, workers.current.set worker none⟩ :
      Allocators).current[worker]? = some none :=
    List.getElem?_set_self hlt
  refine (pages_perm hset).trans (List.Perm.trans ?_ (pages_perm h).symm)
  rw [others_set]
  cases current with
  | none => exact List.Perm.refl _
  | some page => exact List.Perm.refl _

/-- A worker that returns its page has none open. -/
theorem retire_spec (h : workers.Valid) (worker : Nat) :
    workers.Keeps (workers.retire worker) worker ∧
      ∀ page, (workers.retire worker).current[worker]? ≠ some (some page) := by
  unfold retire
  cases hcurrent : workers.current[worker]? with
  | none => exact ⟨.refl h worker, by simp [hcurrent]⟩
  | some current =>
      refine ⟨keeps_of_perm h ?_ (pages_retire hcurrent), ?_⟩
      · cases current with
        | none => exact ⟨rfl, rfl⟩
        | some page => exact ⟨rfl, rfl⟩
      · intro page
        rw [List.getElem?_set_self (List.getElem?_eq_some_iff.mp hcurrent).1]
        simp

/-- Writing to the open page lengthens it, and the record is found where the page ended. -/
theorem append_spec (h : workers.Valid) {page : Page}
    (hcurrent : workers.current[worker]? = some (some page)) {record : Bytes}
    (hfits : page.bytes.length + record.length ≤ workers.pool.pageSize) :
    let after : Allocators := ⟨workers.pool,
      workers.current.set worker (some { page with bytes := page.bytes ++ record })⟩
    workers.Keeps after worker ∧
      after.Stores ⟨page.id, page.bytes.length.toUInt32⟩ record := by
  intro after
  have hlt := (List.getElem?_eq_some_iff.mp hcurrent).1
  have hset : after.current[worker]? = some (some { page with bytes := page.bytes ++ record }) :=
    List.getElem?_set_self hlt
  have hothers : after.others worker = workers.others worker := others_set _ _ _ _
  have hbefore := pages_perm hcurrent
  have hafter := pages_perm hset
  rw [hothers] at hafter
  have hmem : { page with bytes := page.bytes ++ record } ∈ after.pages :=
    hafter.mem_iff.mpr (by simp)
  have hoffset : page.bytes.length < UInt32.size := by
    have := h.pageSize
    omega
  refine ⟨⟨⟨h.pageSize, ?_⟩, ?_, rfl, List.length_set, ?_⟩, _, hmem, rfl, page.bytes, [], ?_, ?_⟩
  · exact (hafter.map _).trans ((hbefore.map _).symm.trans h.ids)
  · intro other hother
    rcases List.mem_cons.mp (hbefore.mem_iff.mp hother) with rfl | hrest
    · exact ⟨_, hmem, rfl, List.prefix_append _ _⟩
    · exact ⟨other, hafter.mem_iff.mpr (List.mem_cons_of_mem _ hrest), rfl, List.prefix_refl _⟩
  · intro other hother
    exact List.getElem?_set_ne hother.symm
  · simp
  · exact (Nat.mod_eq_of_lt hoffset).symm

/-- A new page has the next number, and the page before it is returned. -/
theorem openPage_spec (h : workers.Valid) {current : Option Page}
    (hcurrent : workers.current[worker]? = some current) (record : Bytes)
    (hnext : workers.pool.nextId ≠ 0xFFFFFFFF) :
    let after : Allocators :=
      ⟨{ workers.pool.retire current with nextId := workers.pool.nextId + 1 },
        workers.current.set worker (some ⟨workers.pool.nextId, record⟩)⟩
    workers.Keeps after worker ∧ after.Stores ⟨workers.pool.nextId, 0⟩ record := by
  intro after
  have hlt := (List.getElem?_eq_some_iff.mp hcurrent).1
  have hset : after.current[worker]? = some (some ⟨workers.pool.nextId, record⟩) :=
    List.getElem?_set_self hlt
  have hpages : after.pages.Perm (⟨workers.pool.nextId, record⟩ :: workers.pages) := by
    refine (pages_perm hset).trans ?_
    rw [others_set]
    refine List.Perm.cons _ (List.Perm.trans ?_ (pages_perm hcurrent).symm)
    cases current with
    | none => exact List.Perm.refl _
    | some page => exact List.Perm.refl _
  have hsize : (workers.pool.retire current).pageSize = workers.pool.pageSize := by
    cases current with
    | none => rfl
    | some page => rfl
  -- the last page number is never handed out, so that counting does not wrap around
  have hsucc : (workers.pool.nextId + 1).toNat = workers.pool.nextId.toNat + 1 := by
    have hlt := workers.pool.nextId.toNat_lt
    have hne : workers.pool.nextId.toNat ≠ 0xFFFFFFFF := by
      intro heq
      exact hnext (UInt32.toNat_inj.mp heq)
    rw [UInt32.toNat_add, UInt32.toNat_one, Nat.mod_eq_of_lt (by omega)]
  have hmem : (⟨workers.pool.nextId, record⟩ : Page) ∈ after.pages :=
    hpages.mem_iff.mpr (by simp)
  refine ⟨⟨⟨?_, ?_⟩, ?_, hsize, List.length_set, ?_⟩, _, hmem, rfl, [], [], ?_, rfl⟩
  · exact hsize.trans_lt h.pageSize
  · show (after.pages.map fun page => page.id.toNat).Perm
      (List.range (workers.pool.nextId + 1).toNat)
    rw [hsucc, List.range_succ]
    exact (hpages.map _).trans ((h.ids.cons _).trans (List.perm_append_singleton _ _).symm)
  · intro page hpage
    exact ⟨page, hpages.mem_iff.mpr (by simp [hpage]), rfl, List.prefix_refl _⟩
  · intro other hother
    exact List.getElem?_set_ne hother.symm
  · simp

/-- An insertion keeps the pages numbered, and its record is found at the address it answers. The
page numbers must not be used up. -/
theorem insert_spec (h : workers.Valid) (worker : Nat) (record : Bytes)
    (hnumbers : (workers.insert worker record).1 ≠
      .error (.capacityExhausted workers.pool.pageSize)) :
    workers.Keeps (workers.insert worker record).2 worker ∧
      ∀ address, (workers.insert worker record).1 = .ok address →
        (workers.insert worker record).2.Stores address record := by
  unfold insert at hnumbers ⊢
  cases hcurrent : workers.current[worker]? with
  | none => exact ⟨.refl h worker, by simp⟩
  | some current =>
      simp only [hcurrent] at hnumbers
      rcases workers.pool.insert_cases current record with
        ⟨page, rfl, hfits, hinsert⟩ | ⟨hnext, hinsert⟩ | ⟨capacity, -, hinsert⟩ | hexhausted
      · obtain ⟨hkeeps, hstores⟩ := append_spec h hcurrent hfits
        simp only [hinsert, Except.ok.injEq]
        exact ⟨hkeeps, fun address haddress => haddress ▸ hstores⟩
      · obtain ⟨hkeeps, hstores⟩ := openPage_spec h hcurrent record hnext
        simp only [hinsert, Except.ok.injEq]
        exact ⟨hkeeps, fun address haddress => haddress ▸ hstores⟩
      · simp only [hinsert]
        refine ⟨keeps_of_perm h ?_ (pages_retire hcurrent), by simp⟩
        cases current with
        | none => exact ⟨rfl, rfl⟩
        | some page => exact ⟨rfl, rfl⟩
      · exact absurd hexhausted hnumbers

/-- A worker's insertion fails only for want of memory. -/
theorem insert_error (hworker : worker < workers.current.length) (record : Bytes) :
    ∀ failure, (workers.insert worker record).1 = .error failure →
      ∃ capacity, failure = .capacityExhausted capacity := by
  intro failure h
  simp only [insert, List.getElem?_eq_getElem hworker] at h
  rcases workers.pool.insert_cases workers.current[worker] record with
    ⟨page, -, -, hinsert⟩ | ⟨-, hinsert⟩ | ⟨capacity, -, hinsert⟩ | hexhausted
  · simp [hinsert] at h
  · simp [hinsert] at h
  · simp only [hinsert, Except.error.injEq] at h
    exact ⟨capacity, h.symm⟩
  · simp only [hexhausted, Except.error.injEq] at h
    exact ⟨_, h.symm⟩

/-- Every worker may join without changing a page. -/
theorem pages_join (workers : Allocators) : workers.join.pages = workers.pages := by
  simp [pages, join, List.reduceOption_append]

theorem join_valid (h : workers.Valid) : workers.join.Valid := by
  refine ⟨h.pageSize, ?_⟩
  rw [pages_join]
  exact h.ids

theorem join_grows (workers : Allocators) : workers.Grows workers.join :=
  .of_perm (by rw [pages_join])

end Allocators

end CompactAdjacency
