import Mathlib
import CompactAdjacency.Proofs.Storage.Freezing
import CompactAdjacency.Proofs.Storage.Insertions

/-!
# What no work on an arena can undo

Two properties of pages hold from some point on whatever the workers do, since every insertion is
one of the cases of `Allocators.Inserts`. Pages stay shorter than the size at which memory is
refused, `Bounded`. And once the page numbers have been used up, more pages have been made than the
counter says, `Full`: from then on an arena does not freeze unless nearly all of the page numbers
there are belong to open pages, `Full.freeze_ne_ok`.
-/

namespace CompactAdjacency

namespace PagePool

/-- Pages that are not out of place have the numbers of their positions. -/
theorem id_of_misplacedFrom {position : Nat} {pages : List Page}
    (h : misplacedFrom position pages = none) {index : Nat} {page : Page}
    (hpage : pages[index]? = some page) : page.id = (position + index).toUInt32 := by
  induction pages generalizing position index with
  | nil => simp at hpage
  | cons first rest ih =>
      rw [misplacedFrom] at h
      split at h
      case isTrue hfirst =>
        cases index with
        | zero =>
            obtain rfl := Option.some.inj hpage
            exact hfirst
        | succ index =>
            rw [List.getElem?_cons_succ] at hpage
            rw [ih h hpage, Nat.add_assoc, Nat.add_comm 1 index]
      case isFalse hfirst => simp at h

/-- A frozen arena has the returned pages. -/
theorem pages_of_freeze {pool : PagePool} {arena : Arena} (h : pool.freeze.1 = .ok arena) :
    arena.pages.Perm (pool.returned.map Page.bytes) := by
  unfold freeze at h
  dsimp only at h
  split at h
  case h_1 position hplaced => simp at h
  case h_2 hplaced =>
    split at h
    case isTrue hcount =>
      obtain rfl := Except.ok.inj h
      exact (List.mergeSort_perm _ _).map _
    case isFalse hcount => simp at h

/-- If freezing succeeds, no page is out of place. -/
theorem misplacedFrom_of_freeze {pool : PagePool} {arena : Arena}
    (h : pool.freeze.1 = .ok arena) : misplacedFrom 0 pool.ordered = none := by
  unfold freeze at h
  dsimp only at h
  split at h
  case h_1 position hplaced => simp at h
  case h_2 hplaced => exact hplaced

end PagePool

namespace Allocators

variable {workers after : Allocators} {record : Bytes} {asked : Nat}
variable {outcome : Except Failure Address}

/-! ## Short pages -/

/-- No page is as large as memory that is refused. -/
structure Bounded (workers : Allocators) : Prop where
  pageSize : workers.pool.pageSize < UInt32.size
  lengths : ∀ page ∈ workers.pages, page.bytes.length < allocationLimit

theorem bounded_ofPageSize {pageSize : Nat} (h : pageSize < UInt32.size) :
    (ofPool (.ofPageSize pageSize)).Bounded :=
  ⟨h, by simp [pages, ofPool, PagePool.ofPageSize, List.reduceOption]⟩

/-- The same pages are as short as before. -/
theorem Bounded.of_perm (h : workers.Bounded) (hperm : after.pages.Perm workers.pages)
    (hpageSize : after.pool.pageSize = workers.pool.pageSize) : after.Bounded :=
  ⟨hpageSize ▸ h.pageSize, fun page hpage => h.lengths page (hperm.mem_iff.mp hpage)⟩

/-- A page takes no more than the page size, or a single record that memory was found for. -/
theorem Inserts.bounded (hinserts : workers.Inserts record after asked outcome)
    (h : workers.Bounded) (hpageSize : after.pool.pageSize = workers.pool.pageSize) :
    after.Bounded := by
  cases hinserts with
  | appended page others hbefore hafter hfits hnext =>
      refine ⟨hpageSize ▸ h.pageSize, ?_⟩
      intro other hother
      rcases List.mem_cons.mp (hafter.mem_iff.mp hother) with rfl | hrest
      · rw [List.length_append]
        exact (hfits.trans_lt h.pageSize).trans_le size_le_allocationLimit
      · exact h.lengths other (hbefore.mem_iff.mpr (List.mem_cons_of_mem _ hrest))
  | opened hunused hafter hsmall hnext =>
      refine ⟨hpageSize ▸ h.pageSize, ?_⟩
      intro other hother
      rcases List.mem_cons.mp (hafter.mem_iff.mp hother) with rfl | hrest
      · exact hsmall
      · exact h.lengths other hrest
  | refused failure hafter hcause hnext => exact h.of_perm hafter hpageSize
  | exhausted hused hafter hnext => exact h.of_perm hafter hpageSize

theorem Bounded.insert (h : workers.Bounded) (worker : Nat) (record : Bytes) :
    (workers.insert worker record).2.Bounded :=
  (insert_inserts workers worker record).bounded h (insert_pageSize workers worker record)

/-- The pages of a frozen arena are as short. -/
theorem Bounded.freeze (h : workers.Bounded) {arena : Arena}
    (hfreeze : workers.freeze.1 = .ok arena) {bytes : Bytes} (hbytes : bytes ∈ arena.pages) :
    bytes.length < allocationLimit := by
  obtain ⟨page, hpage, rfl⟩ :=
    List.mem_map.mp ((PagePool.pages_of_freeze hfreeze).mem_iff.mp hbytes)
  exact h.lengths page (List.mem_append_left _ hpage)

/-! ## Used page numbers -/

/-- The page numbers have been used up: there are at least as many pages as numbers, beside those
counted since then, and none of them has the number that is never handed out. -/
structure Full (workers : Allocators) : Prop where
  count : UInt32.size - 1 + workers.pool.nextId.toNat ≤ workers.pages.length
  numbered : ∀ page ∈ workers.pages, page.id ≠ 0xFFFFFFFF

/-- The same pages and counter are as full as before. -/
theorem Full.of_perm (h : workers.Full) (hperm : after.pages.Perm workers.pages)
    (hnext : after.pool.nextId = workers.pool.nextId) : after.Full := by
  refine ⟨?_, fun page hpage => h.numbered page (hperm.mem_iff.mp hpage)⟩
  rw [hnext, hperm.length_eq]
  exact h.count

/-- No insertion brings page numbers back. -/
theorem Inserts.full (hinserts : workers.Inserts record after asked outcome) (h : workers.Full) :
    after.Full := by
  have hcount := h.count
  cases hinserts with
  | appended page others hbefore hafter hfits hnext =>
      refine ⟨?_, ?_⟩
      · rw [hbefore.length_eq] at hcount
        rw [hnext, hafter.length_eq]
        exact hcount
      · intro other hother
        rcases List.mem_cons.mp (hafter.mem_iff.mp hother) with rfl | hrest
        · exact h.numbered page (hbefore.mem_iff.mpr (by simp))
        · exact h.numbered other (hbefore.mem_iff.mpr (List.mem_cons_of_mem _ hrest))
  | opened hunused hafter hsmall hnext =>
      refine ⟨?_, ?_⟩
      · have hsucc := UInt32.toNat_add workers.pool.nextId 1
        have hle := Nat.mod_le (workers.pool.nextId.toNat + 1) (2 ^ 32)
        rw [hnext, hafter.length_eq, List.length_cons, hsucc, UInt32.toNat_one]
        omega
      · intro other hother
        rcases List.mem_cons.mp (hafter.mem_iff.mp hother) with rfl | hrest
        · exact hunused
        · exact h.numbered other hrest
  | refused failure hafter hcause hnext => exact h.of_perm hafter hnext
  | exhausted hused hafter hnext =>
      refine ⟨?_, fun page hpage => h.numbered page (hafter.mem_iff.mp hpage)⟩
      rw [hnext, hafter.length_eq]
      exact (Nat.le_add_right _ _).trans hcount

theorem Full.insert (h : workers.Full) (worker : Nat) (record : Bytes) :
    (workers.insert worker record).2.Full :=
  (insert_inserts workers worker record).full h

/-- An insertion that finds no page number leaves a full arena. -/
theorem Inserts.full_of_exhausted
    (hinserts : workers.Inserts record after asked
      (.error (.capacityExhausted workers.pool.pageSize)))
    (h : workers.Valid) : after.Full := by
  cases hinserts with
  | refused _ hafter hcause hnext => exact absurd rfl (h.refused_ne_exhausted hcause)
  | exhausted hused hafter hnext =>
      have hids := h.ids
      have hlast : workers.pool.nextId.toNat = UInt32.size - 1 := by
        rw [hused]
        rfl
      rw [hlast] at hids
      refine ⟨?_, ?_⟩
      · have hlength := hids.length_eq
        rw [List.length_map, List.length_range] at hlength
        rw [hnext, hafter.length_eq, hlength]
        exact Nat.le_refl _
      · intro page hpage hid
        have hmem := hids.mem_iff.mp (List.mem_map_of_mem (hafter.mem_iff.mp hpage))
        rw [hid] at hmem
        exact absurd (List.mem_range.mp hmem) (Nat.lt_irrefl _)

/-- A valid arena is full as soon as an insertion finds no page number. -/
theorem full_of_exhausted (h : workers.Valid) (worker : Nat) (record : Bytes)
    (hexhausted : (workers.insert worker record).1 =
      .error (.capacityExhausted workers.pool.pageSize)) :
    (workers.insert worker record).2.Full := by
  have hinserts := insert_inserts workers worker record
  rw [hexhausted] at hinserts
  exact hinserts.full_of_exhausted h

/-- There are more page numbers than open pages: a worker has one page open at most, so that this
holds unless there are about as many workers as page numbers. -/
def FewOpen (workers : Allocators) : Prop :=
  workers.current.reduceOption.length < UInt32.size - 1

instance (workers : Allocators) : Decidable workers.FewOpen :=
  inferInstanceAs (Decidable (workers.current.reduceOption.length < UInt32.size - 1))

theorem Closed.fewOpen (h : workers.Closed) : workers.FewOpen := by
  rw [FewOpen, h]
  decide

/-- A full arena does not freeze: its returned pages do not have the numbers of their positions, or
they are not as many as counted. -/
theorem Full.freeze_ne_ok (h : workers.Full) (hopen : workers.FewOpen) (arena : Arena) :
    workers.freeze.1 ≠ .ok arena := by
  intro hfreeze
  have hcount := h.count
  have hnext := congrArg UInt32.toNat (PagePool.length_of_freeze hfreeze)
  have hplaced := PagePool.misplacedFrom_of_freeze hfreeze
  have hlength : workers.pool.ordered.length = workers.pool.returned.length := by
    rw [PagePool.ordered, List.length_mergeSort]
  rw [Nat.toUInt32, UInt32.toNat_ofNat'] at hnext
  rw [pages, List.length_append] at hcount
  rw [FewOpen] at hopen
  rcases Nat.lt_or_ge workers.pool.returned.length UInt32.size with hlt | hge
  · -- the counter began anew, so that there are more pages than it says
    rw [Nat.mod_eq_of_lt hlt] at hnext
    omega
  · -- the page at the last position would have the number that is never handed out
    have hindex : UInt32.size - 1 < workers.pool.ordered.length := by
      rw [hlength]
      exact Nat.lt_of_lt_of_le (by decide) hge
    have hpage := PagePool.id_of_misplacedFrom hplaced (List.getElem?_eq_getElem hindex)
    refine h.numbered workers.pool.ordered[UInt32.size - 1] ?_ (hpage.trans (by decide))
    exact List.mem_append_left _ (List.mem_mergeSort.mp (List.getElem_mem hindex))

end Allocators

end CompactAdjacency
