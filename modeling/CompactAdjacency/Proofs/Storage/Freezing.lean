import Mathlib
import CompactAdjacency.Proofs.Storage.Pages

/-!
# Freezing an arena

Freezing puts the returned pages in the order of their numbers and looks for gaps. On valid
allocators it succeeds exactly if no worker has a page open, because the pages returned are then the
pages handed out: `freeze_ok_iff`. A frozen arena has the page of number `n` at position `n`, so
that whatever was stored is read back, `bytesAt_of_stores`.
-/

namespace CompactAdjacency

namespace PagePool

variable {pool : PagePool}

/-- The returned pages are in order when they are put in order. -/
theorem ordered_ids {count : Nat}
    (h : (pool.returned.map fun page => page.id.toNat).Perm (List.range count)) :
    (pool.ordered.map fun page => page.id.toNat) = List.range count := by
  have hperm : (pool.ordered.map fun page => page.id.toNat).Perm (List.range count) :=
    ((List.mergeSort_perm _ _).map _).trans h
  have hsorted : pool.ordered.Pairwise fun left right => left.id ≤ right.id := by
    refine List.Pairwise.imp of_decide_eq_true (List.pairwise_mergeSort ?_ ?_ pool.returned)
    · intro first second third h h'
      exact decide_eq_true (UInt32.le_trans (of_decide_eq_true h) (of_decide_eq_true h'))
    · intro left right
      simpa using UInt32.le_total left.id right.id
  refine hperm.eq_of_pairwise' (r := (· ≤ ·)) ?_ List.pairwise_le_range
  exact List.pairwise_map.mpr (hsorted.imp fun h => UInt32.le_iff_toNat_le.mp h)

/-- No page is out of place if the numbers count up from the position. -/
theorem misplacedFrom_eq_none_iff {position : Nat} {pages : List Page}
    (hbound : position + pages.length ≤ UInt32.size) :
    misplacedFrom position pages = none ↔
      (pages.map fun page => page.id.toNat) = List.range' position pages.length := by
  induction pages generalizing position with
  | nil => simp [misplacedFrom]
  | cons page rest ih =>
      rw [List.length_cons] at hbound
      have hid : page.id = position.toUInt32 ↔ page.id.toNat = position := by
        rw [← UInt32.toNat_inj, Nat.toUInt32, UInt32.toNat_ofNat', Nat.mod_eq_of_lt]
        exact (by omega : position < UInt32.size)
      rw [misplacedFrom, List.map_cons, List.length_cons, List.range'_succ, List.cons.injEq]
      split
      case isTrue heq =>
        have hrest : position + 1 + rest.length ≤ UInt32.size := by omega
        simp [hid.mp heq, ih hrest]
      case isFalse hne => simp [mt hid.mpr hne]

/-- Freezing gathers the returned pages if their numbers are those handed out. -/
theorem freeze_of_ids
    (h : (pool.returned.map fun page => page.id.toNat).Perm (List.range pool.nextId.toNat)) :
    pool.freeze.1 = .ok ⟨pool.ordered.map Page.bytes⟩ := by
  have hlength : pool.ordered.length = pool.nextId.toNat := by
    have := congrArg List.length (ordered_ids h)
    rwa [List.length_map, List.length_range] at this
  have hplaced : misplacedFrom 0 pool.ordered = none := by
    rw [misplacedFrom_eq_none_iff, ordered_ids h, hlength, List.range_eq_range']
    rw [hlength, Nat.zero_add]
    exact pool.nextId.toNat_lt.le
  have hcount : pool.ordered.length.toUInt32 = pool.nextId := by
    rw [hlength]
    simp [Nat.toUInt32]
  simp only [freeze, hplaced, hcount, if_true]

/-- If freezing succeeds, it gathers as many pages as were handed out. -/
theorem length_of_freeze {arena : Arena} (h : pool.freeze.1 = .ok arena) :
    pool.returned.length.toUInt32 = pool.nextId := by
  unfold freeze at h
  dsimp only at h
  split at h
  case h_1 position hplaced => simp at h
  case h_2 hplaced =>
    split at h
    case isTrue hcount => rwa [ordered, List.length_mergeSort] at hcount
    case isFalse hcount => simp at h

end PagePool

namespace Allocators

variable {workers : Allocators}

/-- No worker has a page open. -/
def Closed (workers : Allocators) : Prop := workers.current.reduceOption = []

/-- On valid allocators freezing succeeds exactly if no page is open. -/
theorem freeze_ok_iff (h : workers.Valid) :
    (∃ arena, workers.freeze.1 = .ok arena) ↔ workers.Closed := by
  have hids := h.ids
  have hlength := hids.length_eq
  simp only [pages, List.map_append, List.length_append, List.length_map, List.length_range]
    at hlength
  constructor
  · rintro ⟨arena, harena⟩
    have hreturned := congrArg UInt32.toNat (PagePool.length_of_freeze harena)
    have hlt := workers.pool.nextId.toNat_lt
    rw [Nat.toUInt32, UInt32.toNat_ofNat', Nat.mod_eq_of_lt (by omega)] at hreturned
    exact List.eq_nil_of_length_eq_zero (by omega)
  · intro hclosed
    rw [pages, hclosed, List.append_nil] at hids
    exact ⟨_, PagePool.freeze_of_ids hids⟩

/-- In a frozen arena a page stands at the position of its number. -/
theorem getElem?_of_freeze (h : workers.Valid) {arena : Arena}
    (harena : workers.freeze.1 = .ok arena) {page : Page} (hpage : page ∈ workers.pages) :
    arena.pages[page.id.toNat]? = some page.bytes := by
  have hclosed := (freeze_ok_iff h).mp ⟨arena, harena⟩
  have hids := h.ids
  rw [pages, hclosed, List.append_nil] at hids hpage
  obtain rfl : (⟨workers.pool.ordered.map Page.bytes⟩ : Arena) = arena :=
    Except.ok.inj ((PagePool.freeze_of_ids hids).symm.trans harena)
  have hordered := PagePool.ordered_ids hids
  have hmem : page ∈ workers.pool.ordered := List.mem_mergeSort.mpr hpage
  obtain ⟨index, hindex, hget⟩ := List.mem_iff_getElem.mp hmem
  -- The numbers in order are the positions, so that the page of this number is at this position.
  have hid : page.id.toNat = index := by
    have := congrArg (fun ids => ids[index]?) hordered
    simp only [List.getElem?_map, List.getElem?_eq_getElem hindex, hget, Option.map_some] at this
    rw [eq_comm, List.getElem?_eq_some_iff] at this
    obtain ⟨hlt, hvalue⟩ := this
    rw [List.getElem_range] at hvalue
    exact hvalue.symm
  rw [hid, List.getElem?_map, List.getElem?_eq_getElem hindex, hget, Option.map_some]

/-- What was stored is read back from the frozen arena. -/
theorem bytesAt_of_stores (h : workers.Valid) {arena : Arena}
    (harena : workers.freeze.1 = .ok arena) {address : Address} {record : Bytes}
    (hstores : workers.Stores address record) :
    ∃ rest, arena.bytesAt address = .ok (record ++ rest) := by
  obtain ⟨page, hpage, hid, front, rest, hbytes, hfront⟩ := hstores
  have hget := getElem?_of_freeze h harena hpage
  rw [hid] at hget
  refine ⟨rest, ?_⟩
  have hle : address.offset.toNat ≤ page.bytes.length := by
    rw [hbytes, ← hfront, List.length_append]
    omega
  have hdrop : page.bytes.drop address.offset.toNat = record ++ rest := by
    rw [hbytes, ← hfront, List.drop_left]
  simp only [Arena.bytesAt, Arena.bytesAt?, hget, bind, Option.bind_some, if_pos hle, hdrop]

end Allocators

end CompactAdjacency
