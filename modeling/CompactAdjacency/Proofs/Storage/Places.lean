import Mathlib
import CompactAdjacency.Proofs.Storage.Freezing
import CompactAdjacency.Proofs.Storage.Insertions

/-!
# Every record has a place of its own

However workers interleave, the records they insert lie side by side in the pages: `Tiled` says that
every record is found where its insertion answered, that no two of them share a byte, and that
nothing but records has been written. One action keeps this, `Tiled.step`, as long as the page
numbers asked for are not more than there are, and so does a run, `Tiled.run`. What it means for the
frozen arena is `freeze_holds_insertions`.
-/

namespace CompactAdjacency

/-! ## Where records landed -/

/-- A record and the address that its insertion answered. -/
structure Landing where
  address : Address
  record : Bytes
  deriving DecidableEq, Repr

/-- The places that the bytes of a record take, each a page number and an offset in the page. -/
def Landing.places (landing : Landing) : List (UInt32 × Nat) :=
  (List.range' landing.address.offset.toNat landing.record.length).map (landing.address.page, ·)

/-- The record that an action inserts. -/
def AllocatorAction.record? : AllocatorAction → Option Bytes
  | .insert _ record => some record
  | .join | .retire _ => none

/-- The insertions of a sequence of actions that answered an address. -/
def landings (actions : List AllocatorAction) (answers : List (Except Failure Address)) :
    List Landing :=
  ((actions.filterMap AllocatorAction.record?).zip answers).filterMap fun insertion =>
    insertion.2.toOption.map (⟨·, insertion.1⟩)

/-- A place is taken by a record of the same page that reaches over it. -/
theorem Landing.mem_places_iff {landing : Landing} {page : UInt32} {offset : Nat} :
    (page, offset) ∈ landing.places ↔ page = landing.address.page ∧
      landing.address.offset.toNat ≤ offset ∧
      offset < landing.address.offset.toNat + landing.record.length := by
  simp only [places, List.mem_map, List.mem_range'_1, Prod.mk.injEq]
  constructor
  · rintro ⟨offset', hoffset, rfl, rfl⟩
    exact ⟨rfl, hoffset⟩
  · rintro ⟨rfl, hoffset⟩
    exact ⟨offset, hoffset, rfl, rfl⟩

/-- The first of the actions and its answer, if it has one, say what landed first. -/
theorem landings_cons (action : AllocatorAction) (actions : List AllocatorAction)
    (answers : List (Except Failure Address)) (workers : Allocators) :
    landings (action :: actions) ((workers.step action).1.toList ++ answers) =
      landings [action] (workers.step action).1.toList ++ landings actions answers := by
  cases action with
  | join => rfl
  | retire worker => rfl
  | insert worker record =>
      simp only [landings, Allocators.step, AllocatorAction.record?, Option.toList_some,
        List.filterMap_cons, List.filterMap_nil, List.singleton_append, List.zip_cons_cons,
        List.zip_nil_right]
      cases (workers.insert worker record).1.toOption with
      | none => rfl
      | some address => rfl

/-- What an insertion lands is its record, if it is answered with an address. -/
theorem landings_insert (workers : Allocators) (worker : Nat) (record : Bytes) :
    landings [.insert worker record] (workers.step (.insert worker record)).1.toList =
      ((workers.insert worker record).1.toOption.map (⟨·, record⟩)).toList := by
  simp only [landings, Allocators.step, AllocatorAction.record?, Option.toList_some,
    List.filterMap_cons, List.filterMap_nil, List.zip_cons_cons, List.zip_nil_right]
  cases (workers.insert worker record).1.toOption with
  | none => rfl
  | some address => rfl

namespace Allocators

variable {workers after : Allocators} {landed : List Landing}

/-- The number of bytes in all pages. -/
def written (workers : Allocators) : Nat := (workers.pages.map fun page => page.bytes.length).sum

/-- An insertion that succeeds writes its record, and one that fails writes nothing. -/
theorem Inserts.written {record : Bytes} {asked : Nat} {outcome : Except Failure Address}
    (h : workers.Inserts record after asked outcome) :
    (∀ address, outcome = .ok address → after.written = workers.written + record.length) ∧
      ∀ failure, outcome = .error failure → after.written = workers.written := by
  cases h with
  | appended page others hbefore hafter hfits hnext =>
      refine ⟨fun _ _ => ?_, by simp⟩
      rw [Allocators.written, Allocators.written, (hafter.map _).sum_eq, (hbefore.map _).sum_eq]
      simp only [List.map_cons, List.sum_cons, List.length_append]
      omega
  | opened hunused hafter hsmall hnext =>
      refine ⟨fun _ _ => ?_, by simp⟩
      rw [Allocators.written, Allocators.written, (hafter.map _).sum_eq]
      simp only [List.map_cons, List.sum_cons]
      omega
  | refused failure hafter hcause hnext => exact ⟨by simp, fun _ _ => (hafter.map _).sum_eq⟩
  | exhausted hused hafter hnext => exact ⟨by simp, fun _ _ => (hafter.map _).sum_eq⟩

/-! ## Records side by side -/

/-- Every record is found where it landed, no two records share a byte, and there are no bytes but
those of records. -/
structure Tiled (workers : Allocators) (landed : List Landing) : Prop where
  valid : workers.Valid
  stores : ∀ landing ∈ landed, workers.Stores landing.address landing.record
  apart : landed.Pairwise fun landing other => landing.places.Disjoint other.places
  written : workers.written = (landed.map fun landing => landing.record.length).sum

/-- Pages of one number are one page. -/
theorem Valid.eq_of_id (h : workers.Valid) {page other : Page} (hpage : page ∈ workers.pages)
    (hother : other ∈ workers.pages) (hid : page.id = other.id) : page = other := by
  have hnodup : (workers.pages.map fun page => page.id.toNat).Nodup :=
    h.ids.nodup_iff.mpr List.nodup_range
  exact List.inj_on_of_nodup_map hnodup hpage hother (congrArg UInt32.toNat hid)

/-- The numbers of pages have been handed out. -/
theorem Valid.id_lt (h : workers.Valid) {page : Page} (hpage : page ∈ workers.pages) :
    page.id.toNat < workers.pool.nextId.toNat :=
  List.mem_range.mp (h.ids.mem_iff.mp (List.mem_map_of_mem hpage))

/-- A place taken by a stored record lies inside of a page. -/
theorem Stores.exists_page {landing : Landing} (h : workers.Stores landing.address landing.record)
    {page : UInt32} {offset : Nat} (hplace : (page, offset) ∈ landing.places) :
    ∃ found ∈ workers.pages, found.id = page ∧ offset < found.bytes.length := by
  obtain ⟨found, hfound, hid, front, rest, hbytes, hfront⟩ := h
  obtain ⟨hpage, -, hoffset⟩ := Landing.mem_places_iff.mp hplace
  refine ⟨found, hfound, hid.trans hpage.symm, ?_⟩
  rw [hbytes, List.length_append, List.length_append, hfront]
  omega

/-- Nothing has landed at places outside of the pages, so that a record may land there. -/
theorem Tiled.land (h : workers.Tiled landed) {landing : Landing} (hvalid : after.Valid)
    (hgrows : workers.Grows after) (hstores : after.Stores landing.address landing.record)
    (houtside : ∀ page offset, (page, offset) ∈ landing.places →
      ∀ found ∈ workers.pages, found.id = page → found.bytes.length ≤ offset)
    (hwritten : after.written = workers.written + landing.record.length) :
    after.Tiled (landed ++ [landing]) := by
  refine ⟨hvalid, ?_, ?_, ?_⟩
  · intro other hother
    rcases List.mem_append.mp hother with hbefore | hnew
    · exact (h.stores other hbefore).mono hgrows
    · rw [List.mem_singleton.mp hnew]
      exact hstores
  · refine List.pairwise_append.mpr ⟨h.apart, List.pairwise_singleton _ _, ?_⟩
    rintro other hother _ hnew ⟨page, offset⟩ hplace hplace'
    obtain rfl := List.mem_singleton.mp hnew
    obtain ⟨found, hfound, hid, hinside⟩ := (h.stores other hother).exists_page hplace
    exact Nat.not_lt.mpr (houtside page offset hplace' found hfound hid) hinside
  · rw [hwritten, h.written, List.map_append, List.sum_append, List.map_singleton,
      List.sum_singleton]

/-- Only the order of the pages may change while nothing lands. -/
theorem Tiled.of_perm (h : workers.Tiled landed) (hvalid : after.Valid)
    (hperm : after.pages.Perm workers.pages) : after.Tiled landed := by
  refine ⟨hvalid, fun landing hlanding => (h.stores landing hlanding).mono (.of_perm hperm.symm),
    h.apart, ?_⟩
  rw [← h.written]
  exact (hperm.map _).sum_eq

/-! ## Actions and runs -/

/-- An insertion lands its record beside the others. There must be page numbers left. -/
theorem Inserts.tiled {record : Bytes} {asked worker : Nat} {outcome : Except Failure Address}
    (hinserts : workers.Inserts record after asked outcome) (h : workers.Tiled landed)
    (hspec : outcome ≠ .error (.capacityExhausted workers.pool.pageSize) →
      workers.Keeps after worker ∧ ∀ address, outcome = .ok address → after.Stores address record)
    (hnumbers : workers.pool.nextId.toNat + asked < UInt32.size) :
    after.Tiled (landed ++ (outcome.toOption.map (⟨·, record⟩)).toList) ∧
      after.pool.nextId.toNat = workers.pool.nextId.toNat + asked := by
  have hwritten := hinserts.written.1
  cases hinserts with
  | appended page others hbefore hafter hfits hnext =>
      -- what the page held before ends where the record begins
      obtain ⟨hkeeps, hstores⟩ := hspec (by simp)
      refine ⟨h.land hkeeps.valid hkeeps.grows (hstores _ rfl) ?_ (hwritten _ rfl),
        by rw [hnext]; rfl⟩
      intro number offset hplace found hfound hid
      obtain ⟨rfl, hoffset, -⟩ := Landing.mem_places_iff.mp hplace
      have hpage : page ∈ workers.pages := hbefore.mem_iff.mpr (by simp)
      obtain rfl := h.valid.eq_of_id hfound hpage hid
      have hlength : found.bytes.length < UInt32.size := by
        have := h.valid.pageSize
        omega
      simpa [Nat.toUInt32, Nat.mod_eq_of_lt hlength] using hoffset
  | opened hunused hafter hsmall hnext =>
      -- no page had the number of the new one before
      obtain ⟨hkeeps, hstores⟩ := hspec (by simp)
      refine ⟨h.land hkeeps.valid hkeeps.grows (hstores _ rfl) ?_ (hwritten _ rfl), ?_⟩
      · intro number offset hplace found hfound hid
        obtain ⟨rfl, -, -⟩ := Landing.mem_places_iff.mp hplace
        have hlt := h.valid.id_lt hfound
        rw [hid] at hlt
        exact absurd hlt (Nat.lt_irrefl _)
      · rw [hnext, UInt32.toNat_add, UInt32.toNat_one, Nat.mod_eq_of_lt hnumbers]
  | refused failure hafter hcause hnext =>
      have hother : (.error failure : Except Failure Address) ≠
          .error (.capacityExhausted workers.pool.pageSize) :=
        fun heq => h.valid.refused_ne_exhausted hcause (Except.error.inj heq)
      refine ⟨?_, by rw [hnext]; rfl⟩
      simpa [Except.toOption] using h.of_perm (hspec hother).1.valid hafter
  | exhausted hused hafter hnext =>
      rw [hused] at hnumbers
      exact absurd hnumbers (by decide)

/-- One action keeps the records side by side. -/
theorem Tiled.step (h : workers.Tiled landed) (action : AllocatorAction)
    (hnumbers : workers.pool.nextId.toNat + workers.asked action < UInt32.size) :
    (workers.step action).2.Tiled
        (landed ++ landings [action] (workers.step action).1.toList) ∧
      (workers.step action).2.pool.nextId.toNat =
        workers.pool.nextId.toNat + workers.asked action := by
  cases action with
  | join =>
      have hnothing : landings [.join] (workers.step .join).1.toList = [] := rfl
      rw [hnothing, List.append_nil]
      exact ⟨h.of_perm (join_valid h.valid) (by rw [Allocators.step, pages_join]), rfl⟩
  | retire worker =>
      have hnothing : landings [.retire worker] (workers.step (.retire worker)).1.toList = [] := rfl
      obtain ⟨hpages, hnext, -⟩ := retire_pages workers worker
      rw [hnothing, List.append_nil]
      exact ⟨h.of_perm (retire_spec h.valid worker).1.valid hpages, congrArg UInt32.toNat hnext⟩
  | insert worker record =>
      rw [landings_insert]
      exact (insert_inserts workers worker record).tiled h (insert_spec h.valid worker record)
        hnumbers

/-- Any interleaving of the workers keeps the records side by side. -/
theorem Tiled.run (h : workers.Tiled landed) (actions : List AllocatorAction)
    (hnumbers : workers.pool.nextId.toNat + workers.askedInAll actions < UInt32.size) :
    (workers.run actions).2.Tiled (landed ++ landings actions (workers.run actions).1) := by
  induction actions generalizing workers landed with
  | nil => simpa [Allocators.run, landings] using h
  | cons action rest ih =>
      rw [askedInAll, ← Nat.add_assoc] at hnumbers
      obtain ⟨htiled, hnext⟩ := h.step action (Nat.lt_of_le_of_lt (Nat.le_add_right _ _) hnumbers)
      rw [run_cons, landings_cons, ← List.append_assoc]
      exact ih htiled (hnext ▸ hnumbers)

/-- Nothing has landed in a new pool. -/
theorem tiled_ofPool {pageSize : Nat} {pool : PagePool}
    (h : PagePool.ofPageSize? pageSize = .ok pool) :
    (ofPool pool).Tiled [] ∧ pool.nextId = 0 := by
  obtain ⟨hsize, rfl⟩ := PagePool.ofPageSize?_eq_ok_iff.mp h
  exact ⟨⟨⟨hsize.2, .refl _⟩, by simp, .nil, rfl⟩, rfl⟩

/-! ## The frozen arena -/

/-- No page is open exactly if no worker has one. -/
theorem closed_iff : workers.Closed ↔ ∀ current ∈ workers.current, current = none := by
  rw [Closed, List.eq_nil_iff_forall_not_mem]
  constructor
  · intro h current hcurrent
    cases current with
    | none => rfl
    | some page => exact absurd (List.reduceOption_mem_iff.mpr hcurrent) (h page)
  · intro h page hpage
    exact absurd (h _ (List.reduceOption_mem_iff.mp hpage)) (Option.some_ne_none page)

/-- A frozen arena has the pages handed out, and what was written to them. -/
theorem freeze_size (h : workers.Valid) {arena : Arena} (harena : workers.freeze.1 = .ok arena) :
    arena.pages.length = workers.pool.nextId.toNat ∧ arena.size = workers.written := by
  have hclosed := (freeze_ok_iff h).mp ⟨arena, harena⟩
  have hids := h.ids
  rw [pages, hclosed, List.append_nil] at hids
  obtain rfl : (⟨workers.pool.ordered.map Page.bytes⟩ : Arena) = arena :=
    Except.ok.inj ((PagePool.freeze_of_ids hids).symm.trans harena)
  have hperm : workers.pool.ordered.Perm workers.pool.returned := List.mergeSort_perm _ _
  constructor
  · have hlength := hids.length_eq
    rw [List.length_map, List.length_range] at hlength
    rw [List.length_map, hperm.length_eq, hlength]
  · rw [Arena.size, List.length_flatten, List.map_map, Allocators.written, pages, hclosed,
      List.append_nil]
    exact (hperm.map _).sum_eq

/-- Workers that insert records of any length in any order, and ask for fewer page numbers than
there are, leave pages that freeze exactly if none of them is open. In the frozen arena every record
is found where its insertion answered, no two records share a byte, there are as many pages as were
handed out, and as many bytes as were inserted. -/
theorem freeze_holds_insertions {pageSize : Nat} {pool : PagePool}
    (hpool : PagePool.ofPageSize? pageSize = .ok pool) (actions : List AllocatorAction)
    (hnumbers : (ofPool pool).askedInAll actions < UInt32.size) :
    let final := ((ofPool pool).run actions).2
    let landed := landings actions ((ofPool pool).run actions).1
    ((∃ arena, final.freeze.1 = .ok arena) ↔ ∀ current ∈ final.current, current = none) ∧
      ∀ arena, final.freeze.1 = .ok arena →
        (∀ landing ∈ landed, ∃ rest,
          arena.bytesAt landing.address = .ok (landing.record ++ rest)) ∧
        landed.Pairwise (fun landing other => landing.places.Disjoint other.places) ∧
        arena.pages.length = final.pool.nextId.toNat ∧
        arena.size = (landed.map fun landing => landing.record.length).sum := by
  intro final landed
  obtain ⟨hstart, hnext⟩ := tiled_ofPool hpool
  have hfinal : final.Tiled landed := by
    simpa using hstart.run actions (by simpa [ofPool, hnext] using hnumbers)
  refine ⟨(freeze_ok_iff hfinal.valid).trans closed_iff, ?_⟩
  intro arena harena
  obtain ⟨hcount, hsize⟩ := freeze_size hfinal.valid harena
  exact ⟨fun landing hlanding => bytesAt_of_stores hfinal.valid harena
    (hfinal.stores landing hlanding), hfinal.apart, hcount, hsize.trans hfinal.written⟩

/-- Two workers on pages of four bytes: an empty record, records that fill a page, and one that is
larger than a page. -/
def twoWorkers : List AllocatorAction :=
  [.join, .join, .insert 0 [], .insert 1 [1, 2, 3, 4, 5], .insert 0 [6, 7], .insert 0 [8, 9],
    .insert 0 [], .insert 1 [10], .retire 1, .insert 0 [11, 12], .retire 0]

/-- The records of two workers take four pages, and an empty record lies where its page ends. -/
theorem freeze_holds_insertions_twoWorkers :
    ∃ arena, ((ofPool (.ofPageSize 4)).run twoWorkers).2.freeze.1 = .ok arena ∧
      (∃ rest, arena.bytesAt ⟨1, 0⟩ = .ok ([1, 2, 3, 4, 5] ++ rest)) ∧
      (∃ rest, arena.bytesAt ⟨0, 4⟩ = .ok ([] ++ rest)) ∧
      (Landing.places ⟨⟨0, 0⟩, [6, 7]⟩).Disjoint (Landing.places ⟨⟨0, 2⟩, [8, 9]⟩) ∧
      arena.pages.length = 4 ∧ arena.size = 12 := by
  have hnumbers : (ofPool (.ofPageSize 4)).askedInAll twoWorkers < UInt32.size := by
    decide +kernel
  have hpool : PagePool.ofPageSize? 4 = .ok (.ofPageSize 4) := rfl
  obtain ⟨hiff, hholds⟩ := freeze_holds_insertions hpool twoWorkers hnumbers
  obtain ⟨arena, harena⟩ := hiff.mpr (by decide +kernel)
  obtain ⟨hrecords, hapart, hcount, hsize⟩ := hholds arena harena
  have hlanded : landings twoWorkers ((ofPool (.ofPageSize 4)).run twoWorkers).1 =
      [⟨⟨0, 0⟩, []⟩, ⟨⟨1, 0⟩, [1, 2, 3, 4, 5]⟩, ⟨⟨0, 0⟩, [6, 7]⟩, ⟨⟨0, 2⟩, [8, 9]⟩,
        ⟨⟨0, 4⟩, []⟩, ⟨⟨2, 0⟩, [10]⟩, ⟨⟨3, 0⟩, [11, 12]⟩] := by decide +kernel
  rw [hlanded] at hrecords hapart hsize
  have hpair := List.pairwise_iff_getElem.mp hapart 2 3 (by simp) (by simp) (by simp)
  exact ⟨arena, harena, hrecords ⟨⟨1, 0⟩, [1, 2, 3, 4, 5]⟩ (by simp),
    hrecords ⟨⟨0, 4⟩, []⟩ (by simp), hpair, hcount.trans (by decide +kernel), hsize⟩

end Allocators

end CompactAdjacency
