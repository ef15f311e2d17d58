import Mathlib
import CompactAdjacency.Proofs.Storage.Limits
import CompactAdjacency.Proofs.Storage.Places

/-!
# Page numbers

The counter of a pool goes up with every page number asked for, whether the number is handed out or
not, and begins anew behind the number that is never handed out. `Allocators.Numbered` gives the
numbers of all pages from the number of requests alone, and every run keeps it, `Numbered.run`. So
pages have numbers of their own as long as no more numbers are asked for than there are, refusals
counted, and no longer: `numbers_apart_iff`.
-/

namespace CompactAdjacency

namespace Allocators

variable {workers after : Allocators} {record : Bytes} {asked before : Nat}
variable {outcome : Except Failure Address} {landed : List Landing}

/-! ## Numbers handed out -/

/-- The page numbers that come of a number of requests: they count up, leave out the number that is
never handed out, and begin anew. -/
def handedOut (asked : Nat) : List Nat :=
  ((List.range asked).map (· % UInt32.size)).filter (· ≠ UInt32.size - 1)

/-- One more request hands out one more number, or none. -/
theorem handedOut_succ (asked : Nat) :
    handedOut (asked + 1) = handedOut asked ++
      if asked % UInt32.size = UInt32.size - 1 then [] else [asked % UInt32.size] := by
  rw [handedOut, List.range_succ, List.map_append, List.filter_append, ← handedOut,
    List.map_singleton, List.filter_singleton]
  by_cases hlast : asked % UInt32.size = UInt32.size - 1
  · simp [hlast]
  · simp

/-- More requests do not take back a number. -/
theorem handedOut_prefix_add (asked more : Nat) : handedOut asked <+: handedOut (asked + more) := by
  induction more with
  | zero => exact List.prefix_refl _
  | succ more ih =>
      rw [← Nat.add_assoc, handedOut_succ]
      exact ih.trans (List.prefix_append _ _)

/-- Each time the numbers begin anew, one request has come to nothing. -/
theorem length_handedOut (asked : Nat) :
    (handedOut asked).length + asked / UInt32.size = asked := by
  have hpos : 0 < UInt32.size := by decide
  induction asked with
  | zero => rfl
  | succ asked ih =>
      have hdvd : UInt32.size ∣ asked + 1 ↔ asked % UInt32.size = UInt32.size - 1 := by
        unfold UInt32.size
        omega
      rw [handedOut_succ, List.length_append, Nat.succ_div]
      by_cases hlast : asked % UInt32.size = UInt32.size - 1
      · rw [if_pos hlast, if_pos (hdvd.mpr hlast), List.length_nil]
        omega
      · rw [if_neg hlast, if_neg (mt hdvd.mp hlast), List.length_singleton]
        omega

/-- No number is handed out twice until more have been asked for than there are. -/
theorem handedOut_nodup_iff : (handedOut asked).Nodup ↔ asked ≤ UInt32.size := by
  constructor
  · intro hnodup
    by_contra hmore
    -- the request after the refused one is answered with the first number
    obtain ⟨more, rfl⟩ : ∃ more, asked = UInt32.size + 1 + more :=
      ⟨asked - (UInt32.size + 1), by omega⟩
    have hagain : handedOut (UInt32.size + 1) = handedOut UInt32.size ++ [0] := by
      rw [handedOut_succ, Nat.mod_self]
      rfl
    have hfirst : 0 ∈ handedOut UInt32.size := by
      refine List.mem_filter.mpr ⟨List.mem_map.mpr ⟨0, List.mem_range.mpr (by decide), rfl⟩, ?_⟩
      decide
    have htwice := hnodup.sublist (handedOut_prefix_add (UInt32.size + 1) more).sublist
    rw [hagain] at htwice
    exact (List.nodup_append.mp htwice).2.2 0 hfirst 0 (by simp) rfl
  · intro hle
    have hsame : (List.range asked).map (· % UInt32.size) = List.range asked := by
      refine (List.map_congr_left fun number hnumber => ?_).trans (List.map_id _)
      exact Nat.mod_eq_of_lt ((List.mem_range.mp hnumber).trans_le hle)
    rw [handedOut, hsame]
    exact List.nodup_range.filter _

/-! ## Numbers of pages -/

/-- The pages have the numbers that come of the requests so far, and the counter stands behind
them. -/
structure Numbered (workers : Allocators) (asked : Nat) : Prop where
  next : workers.pool.nextId.toNat = asked % UInt32.size
  ids : (workers.pages.map fun page => page.id.toNat).Perm (handedOut asked)

theorem numbered_ofPageSize (pageSize : Nat) : (ofPool (.ofPageSize pageSize)).Numbered 0 :=
  ⟨rfl, .refl _⟩

/-- The same pages and counter are numbered as before. -/
theorem Numbered.of_perm (h : workers.Numbered asked) (hperm : after.pages.Perm workers.pages)
    (hnext : after.pool.nextId = workers.pool.nextId) : after.Numbered asked :=
  ⟨hnext ▸ h.next, (hperm.map _).trans h.ids⟩

/-- An insertion gives a new page the number that its request is worth. -/
theorem Inserts.numbered (hinserts : workers.Inserts record after asked outcome)
    (h : workers.Numbered before) : after.Numbered (before + asked) := by
  have hcounter := h.next
  have hlast : workers.pool.nextId = 0xFFFFFFFF ↔ before % UInt32.size = UInt32.size - 1 := by
    rw [← UInt32.toNat_inj, hcounter]
    rfl
  cases hinserts with
  | appended page others hbefore hafter hfits hnext =>
      refine ⟨hnext ▸ hcounter, ?_⟩
      exact (hafter.map _).trans ((hbefore.map _).symm.trans h.ids)
  | opened hunused hafter hsmall hnext =>
      have hnumber : before % UInt32.size ≠ UInt32.size - 1 := mt hlast.mpr hunused
      refine ⟨?_, ?_⟩
      · rw [hnext, UInt32.toNat_add, UInt32.toNat_one, hcounter]
        exact Nat.mod_add_mod _ _ _
      · rw [handedOut_succ, if_neg hnumber, ← hcounter]
        exact (hafter.map _).trans ((h.ids.cons _).trans (List.perm_append_singleton _ _).symm)
  | refused failure hafter hcause hnext => exact h.of_perm hafter hnext
  | exhausted hused hafter hnext =>
      refine ⟨?_, ?_⟩
      · have hnumber := hlast.mp hused
        rw [hnext]
        unfold UInt32.size at hnumber ⊢
        show 0 = (before + 1) % _
        omega
      · rw [handedOut_succ, if_pos (hlast.mp hused), List.append_nil]
        exact (hafter.map _).trans h.ids

/-- One action keeps the pages numbered. -/
theorem Numbered.step (h : workers.Numbered before) (action : AllocatorAction) :
    (workers.step action).2.Numbered (before + workers.asked action) := by
  cases action with
  | join => exact h.of_perm (by rw [Allocators.step, pages_join]) rfl
  | retire worker =>
      obtain ⟨hpages, hnext, -⟩ := retire_pages workers worker
      exact h.of_perm hpages hnext
  | insert worker record => exact (insert_inserts workers worker record).numbered h

/-- Any interleaving of the workers keeps the pages numbered. -/
theorem Numbered.run (h : workers.Numbered before) (actions : List AllocatorAction) :
    (workers.run actions).2.Numbered (before + workers.askedInAll actions) := by
  induction actions generalizing workers before with
  | nil => exact h
  | cons action rest ih =>
      rw [run_cons, askedInAll, ← Nat.add_assoc]
      exact ih (h.step action)

/-- Pages have numbers of their own exactly until more have been asked for than there are. -/
theorem Numbered.nodup_iff (h : workers.Numbered asked) :
    (workers.pages.map Page.id).Nodup ↔ asked ≤ UInt32.size := by
  have hids : (workers.pages.map fun page => page.id.toNat) =
      (workers.pages.map Page.id).map UInt32.toNat := by
    rw [List.map_map]
    rfl
  have hinj : Function.Injective UInt32.toNat := fun _ _ => UInt32.toNat_inj.mp
  rw [← handedOut_nodup_iff, ← h.ids.nodup_iff, hids, List.nodup_map_iff hinj]

/-- Once all numbers have been asked for, the arena is full. -/
theorem Numbered.full (h : workers.Numbered asked) (hasked : UInt32.size ≤ asked) :
    workers.Full := by
  refine ⟨?_, ?_⟩
  · have hcount := length_handedOut asked
    have hlength := h.ids.length_eq
    rw [List.length_map] at hlength
    rw [h.next, hlength]
    unfold UInt32.size at hcount hasked ⊢
    omega
  · intro page hpage hid
    have hmem := h.ids.mem_iff.mp (List.mem_map_of_mem hpage)
    rw [handedOut, List.mem_filter, hid] at hmem
    exact absurd hmem.2 (by decide)

/-! ## Addresses of records -/

/-- Records that hold bytes lie inside of the pages that their addresses name, and no two of them
have the same address. -/
structure Located (workers : Allocators) (landed : List Landing) : Prop where
  pageSize : workers.pool.pageSize < UInt32.size
  inside : ∀ landing ∈ landed, landing.record ≠ [] → ∃ page ∈ workers.pages,
    page.id = landing.address.page ∧ landing.address.offset.toNat < page.bytes.length
  apart : landed.Pairwise fun landing other =>
    landing.record ≠ [] → other.record ≠ [] → landing.address ≠ other.address

/-- Records stay where they are while pages grow. -/
theorem Located.of_grows (h : workers.Located landed) (hgrows : workers.Grows after)
    (hpageSize : after.pool.pageSize = workers.pool.pageSize) : after.Located landed := by
  refine ⟨hpageSize ▸ h.pageSize, ?_, h.apart⟩
  intro landing hlanding hrecord
  obtain ⟨page, hpage, hid, hoffset⟩ := h.inside landing hlanding hrecord
  obtain ⟨grown, hgrown, hid', hprefix⟩ := hgrows page hpage
  exact ⟨grown, hgrown, hid'.trans hid, hoffset.trans_le hprefix.length_le⟩

/-- A record may land where no page of its address has bytes yet. -/
theorem Located.land (h : workers.Located landed) {landing : Landing}
    (hgrows : workers.Grows after) (hpageSize : after.pool.pageSize = workers.pool.pageSize)
    (hinside : ∃ page ∈ after.pages, page.id = landing.address.page ∧
      page.bytes.length = landing.address.offset.toNat + landing.record.length)
    (houtside : ∀ page ∈ workers.pages, page.id = landing.address.page →
      page.bytes.length ≤ landing.address.offset.toNat) :
    after.Located (landed ++ [landing]) := by
  have hkept := h.of_grows hgrows hpageSize
  refine ⟨hkept.pageSize, ?_, ?_⟩
  · intro other hother hrecord
    rcases List.mem_append.mp hother with hbefore | hnew
    · exact hkept.inside other hbefore hrecord
    · obtain rfl := List.mem_singleton.mp hnew
      obtain ⟨page, hpage, hid, hlength⟩ := hinside
      have hpos := List.length_pos_iff.mpr hrecord
      exact ⟨page, hpage, hid, by omega⟩
  · refine List.pairwise_append.mpr ⟨h.apart, List.pairwise_singleton _ _, ?_⟩
    intro other hother _ hnew hrecord _ haddress
    obtain rfl := List.mem_singleton.mp hnew
    obtain ⟨page, hpage, hid, hoffset⟩ := h.inside other hother hrecord
    rw [haddress] at hid hoffset
    exact Nat.not_lt.mpr (houtside page hpage hid) hoffset

/-- An insertion lands its record at an address of its own, if no two pages have the same number
behind it. -/
theorem Inserts.located (hinserts : workers.Inserts record after asked outcome)
    (h : workers.Located landed) (hpageSize : after.pool.pageSize = workers.pool.pageSize)
    (hnodup : (after.pages.map Page.id).Nodup) :
    after.Located (landed ++ (outcome.toOption.map (⟨·, record⟩)).toList) := by
  cases hinserts with
  | appended page others hbefore hafter hfits hnext =>
      have hgrown : { page with bytes := page.bytes ++ record } ∈ after.pages :=
        hafter.mem_iff.mpr List.mem_cons_self
      have hoffset : page.bytes.length.toUInt32.toNat = page.bytes.length := by
        have := h.pageSize
        exact Nat.mod_eq_of_lt (show page.bytes.length < UInt32.size by omega)
      refine h.land ?_ hpageSize ⟨_, hgrown, rfl, ?_⟩ ?_
      · intro other hother
        rcases List.mem_cons.mp (hbefore.mem_iff.mp hother) with rfl | hrest
        · exact ⟨_, hgrown, rfl, List.prefix_append _ _⟩
        · exact ⟨other, hafter.mem_iff.mpr (List.mem_cons_of_mem _ hrest), rfl,
            List.prefix_refl _⟩
      · rw [hoffset, List.length_append]
      · -- pages of the number of the open page are the open page
        intro other hother hid
        rw [hoffset]
        rcases List.mem_cons.mp (hbefore.mem_iff.mp hother) with rfl | hrest
        · exact Nat.le_refl _
        · have hids := (hafter.map Page.id).nodup_iff.mp hnodup
          rw [List.map_cons, List.nodup_cons] at hids
          exact absurd (List.mem_map.mpr ⟨other, hrest, hid⟩) hids.1
  | opened hunused hafter hsmall hnext =>
      have hids := (hafter.map Page.id).nodup_iff.mp hnodup
      rw [List.map_cons, List.nodup_cons] at hids
      refine h.land ?_ hpageSize ⟨_, hafter.mem_iff.mpr List.mem_cons_self, rfl, ?_⟩ ?_
      · exact fun other hother => ⟨other, hafter.mem_iff.mpr (List.mem_cons_of_mem _ hother), rfl,
          List.prefix_refl _⟩
      · exact (Nat.zero_add _).symm
      · intro other hother hid
        exact absurd (List.mem_map.mpr ⟨other, hother, hid⟩) hids.1
  | refused failure hafter hcause hnext =>
      simpa [Except.toOption] using h.of_grows (.of_perm hafter.symm) hpageSize
  | exhausted hused hafter hnext =>
      simpa [Except.toOption] using h.of_grows (.of_perm hafter.symm) hpageSize

/-- One action keeps addresses apart, as long as numbers are not asked for again. -/
theorem Located.step (h : workers.Located landed) (hnumbered : workers.Numbered before)
    (action : AllocatorAction) (hbound : before + workers.asked action ≤ UInt32.size) :
    (workers.step action).2.Located
      (landed ++ landings [action] (workers.step action).1.toList) := by
  have hnodup := (hnumbered.step action).nodup_iff.mpr hbound
  cases action with
  | join =>
      have hnothing : landings [.join] (workers.step .join).1.toList = [] := rfl
      rw [hnothing, List.append_nil]
      exact h.of_grows (join_grows workers) rfl
  | retire worker =>
      have hnothing : landings [.retire worker] (workers.step (.retire worker)).1.toList = [] := rfl
      obtain ⟨hpages, -, hpageSize⟩ := retire_pages workers worker
      rw [hnothing, List.append_nil]
      exact h.of_grows (.of_perm hpages.symm) hpageSize
  | insert worker record =>
      rw [landings_insert]
      exact (insert_inserts workers worker record).located h
        (insert_pageSize workers worker record) hnodup

/-- Any interleaving of the workers keeps addresses apart, as long as numbers are not asked for
again. -/
theorem Located.run (h : workers.Located landed) (hnumbered : workers.Numbered before)
    (actions : List AllocatorAction)
    (hbound : before + workers.askedInAll actions ≤ UInt32.size) :
    (workers.run actions).2.Located (landed ++ landings actions (workers.run actions).1) := by
  induction actions generalizing workers landed before with
  | nil => simpa [Allocators.run, landings] using h
  | cons action rest ih =>
      rw [askedInAll, ← Nat.add_assoc] at hbound
      have hstep := h.step hnumbered action (Nat.le_of_add_right_le hbound)
      rw [run_cons, landings_cons, ← List.append_assoc]
      exact ih hstep (hnumbered.step action) hbound

/-- However workers interleave, pages have numbers of their own and records that hold bytes have
addresses of their own, if and only if no more page numbers are asked for than there are. The
request that is refused counts as one of them; the one after it is answered with the number of the
first page. -/
theorem numbers_apart_iff {pageSize : Nat} {pool : PagePool}
    (hpool : PagePool.ofPageSize? pageSize = .ok pool) (actions : List AllocatorAction) :
    let final := ((ofPool pool).run actions).2
    let landed := landings actions ((ofPool pool).run actions).1
    ((final.pages.map Page.id).Nodup ∧
      landed.Pairwise fun landing other =>
        landing.record ≠ [] → other.record ≠ [] → landing.address ≠ other.address) ↔
      (ofPool pool).askedInAll actions ≤ UInt32.size := by
  intro final landed
  obtain ⟨hsize, rfl⟩ := PagePool.ofPageSize?_eq_ok_iff.mp hpool
  have hstart := numbered_ofPageSize pageSize
  have hfinal := hstart.run actions
  rw [Nat.zero_add] at hfinal
  constructor
  · rintro ⟨hnodup, -⟩
    exact hfinal.nodup_iff.mp hnodup
  · intro hbound
    have hempty : (ofPool (.ofPageSize pageSize)).Located [] := ⟨hsize.2, by simp, .nil⟩
    have hlocated := hempty.run hstart actions (by rwa [Nat.zero_add])
    exact ⟨hfinal.nodup_iff.mpr hbound, by simpa using hlocated.apart⟩

/-- Two workers that ask for four pages do not meet. -/
theorem numbers_apart_iff_twoWorkers :
    PagePool.ofPageSize? 4 = .ok (.ofPageSize 4) ∧
      (((ofPool (.ofPageSize 4)).run twoWorkers).2.pages.map Page.id).Nodup ∧
      (landings twoWorkers ((ofPool (.ofPageSize 4)).run twoWorkers).1).Pairwise
        fun landing other => landing.record ≠ [] → other.record ≠ [] →
          landing.address ≠ other.address := by
  have hpool : PagePool.ofPageSize? 4 = .ok (.ofPageSize 4) := rfl
  have hasked : (ofPool (.ofPageSize 4)).askedInAll twoWorkers ≤ UInt32.size := by
    decide +kernel
  exact ⟨hpool, (numbers_apart_iff hpool twoWorkers).mpr hasked⟩

/-! ## A number handed out again -/

/-- One worker on pages of one byte that has no page open, or a full one. -/
structure Filled (workers : Allocators) : Prop where
  pageSize : workers.pool.pageSize = 1
  current : ∃ current : Option Page, workers.current = [current] ∧
    ∀ page ∈ current, page.bytes.length = 1

/-- A worker whose page is full asks for a new one, and has it filled at once. -/
theorem Filled.insert (h : workers.Filled) :
    (workers.insert 0 [7]).2.Filled ∧
      (workers.insert 0 [7]).2.pool.nextId = workers.pool.nextId + 1 ∧
      workers.asked (.insert 0 [7]) = 1 ∧
      (workers.pool.nextId ≠ 0xFFFFFFFF →
        (workers.insert 0 [7]).1 = .ok ⟨workers.pool.nextId, 0⟩) := by
  obtain ⟨current, hcurrent, hfull⟩ := h.current
  obtain ⟨hnextId, hpageSize⟩ := retire_pool workers.pool current
  have hfits : current.filter (workers.pool.fits · [7]) = none := by
    cases current with
    | none => rfl
    | some page =>
        have hlength := hfull page rfl
        simp only [Option.filter_eq_none_iff, PagePool.fits, h.pageSize, Option.some.injEq,
          forall_eq', hlength]
        decide
  have hsmall : max ([7] : Bytes).length workers.pool.pageSize < allocationLimit := by
    rw [h.pageSize]
    exact Nat.lt_of_lt_of_le (by decide) size_le_allocationLimit
  have hfirst : workers.current[0]? = some current := by rw [hcurrent]; rfl
  have hasked : workers.asked (.insert 0 [7]) = 1 := by
    simp only [asked, hfirst, PagePool.asksForPage, hfits, hsmall, decide_true, Option.isNone_none,
      Bool.and_self, if_true]
  have hinsert : workers.insert 0 [7] =
      (((workers.pool.retire current).openPage [7]).outcome,
        ⟨((workers.pool.retire current).openPage [7]).pool,
          [((workers.pool.retire current).openPage [7]).current]⟩) := by
    unfold Allocators.insert
    rw [hfirst]
    simp only [PagePool.insert, hfits, hcurrent, List.set_cons_zero]
  rw [hasked, hinsert]
  simp only [PagePool.openPage, hnextId, hpageSize, ge_iff_le, if_neg (Nat.not_le.mpr hsmall)]
  by_cases hlast : workers.pool.nextId = 0xFFFFFFFF
  · rw [if_pos hlast]
    exact ⟨⟨h.pageSize, none, rfl, by simp⟩, rfl, trivial, fun hne => absurd hlast hne⟩
  · rw [if_neg hlast]
    exact ⟨⟨h.pageSize, _, rfl, by simp⟩, rfl, trivial, fun _ => rfl⟩

/-- Each insertion into full pages asks for a page number. -/
theorem Filled.askedInAll (h : workers.Filled) (count : Nat) :
    workers.askedInAll (List.replicate count (.insert 0 [7])) = count := by
  induction count generalizing workers with
  | zero => rfl
  | succ count ih =>
      obtain ⟨hfilled, -, hasked, -⟩ := h.insert
      rw [List.replicate_succ, Allocators.askedInAll, hasked]
      show 1 + (workers.insert 0 [7]).2.askedInAll _ = count + 1
      rw [ih hfilled, Nat.add_comm]

/-- A record lands on the first page when the counter comes around to it. -/
theorem Filled.lands (h : workers.Filled) (count : Nat)
    (haround : workers.pool.nextId + count.toUInt32 = 0) :
    ⟨⟨0, 0⟩, [7]⟩ ∈ landings (List.replicate (count + 1) (.insert 0 [7]))
      (workers.run (List.replicate (count + 1) (.insert 0 [7]))).1 := by
  induction count generalizing workers with
  | zero =>
      have hnext : workers.pool.nextId = 0 := by simpa using haround
      obtain ⟨-, -, -, hok⟩ := h.insert
      rw [List.replicate_succ, run_cons, landings_cons, landings_insert,
        hok (by rw [hnext]; decide), hnext]
      exact List.mem_append_left _ List.mem_cons_self
  | succ count ih =>
      obtain ⟨hfilled, hnext, -, -⟩ := h.insert
      have hcount : (count + 1).toUInt32 = 1 + count.toUInt32 := by
        rw [Nat.add_comm]
        exact UInt32.ofNat_add 1 count
      rw [hcount, ← UInt32.add_assoc, ← hnext] at haround
      rw [List.replicate_succ, run_cons, landings_cons]
      exact List.mem_append_right _ (ih hfilled haround)

/-- One worker that fills a page with every insertion, for one page more than there are page
numbers. -/
def onePageEach : List AllocatorAction :=
  .join :: List.replicate (UInt32.size + 1) (.insert 0 [7])

/-- The insertion behind the one that is refused lands where the first one did, on a page of the
same number. -/
theorem numbers_repeat_onePageEach :
    let final := ((ofPool (.ofPageSize 1)).run onePageEach).2
    let landed := landings onePageEach ((ofPool (.ofPageSize 1)).run onePageEach).1
    ¬ (final.pages.map Page.id).Nodup ∧
      ¬ landed.Pairwise fun landing other =>
        landing.record ≠ [] → other.record ≠ [] → landing.address ≠ other.address := by
  intro final landed
  have hjoined : (ofPool (.ofPageSize 1)).join.Filled := ⟨rfl, none, rfl, by simp⟩
  -- the number of insertions is kept as a variable, so that it is not counted down to zero
  obtain ⟨count, hcount⟩ : ∃ count, UInt32.size = count + 1 := ⟨UInt32.size - 1, rfl⟩
  have hactions : onePageEach = .join :: List.replicate (count + 1 + 1) (.insert 0 [7]) := by
    rw [onePageEach, hcount]
  constructor
  · have hasked : (ofPool (.ofPageSize 1)).askedInAll onePageEach = UInt32.size + 1 := by
      rw [hactions, Allocators.askedInAll, Allocators.step, hjoined.askedInAll, hcount]
      exact Nat.zero_add _
    have hfinal := (numbered_ofPageSize 1).run onePageEach
    rw [hasked, Nat.zero_add] at hfinal
    rw [hfinal.nodup_iff]
    exact Nat.not_succ_le_self _
  · obtain ⟨hfilled, hnext, -, hok⟩ := hjoined.insert
    have haround : (1 : UInt32) + count.toUInt32 = 0 := by
      obtain rfl : count = UInt32.size - 1 := by omega
      decide
    have hagain := hfilled.lands count (hnext ▸ haround)
    have hlanded : landed = [⟨⟨0, 0⟩, [7]⟩] ++
        landings (List.replicate (count + 1) (.insert 0 [7]))
          (((ofPool (.ofPageSize 1)).join.insert 0 [7]).2.run
            (List.replicate (count + 1) (.insert 0 [7]))).1 := by
      have hfirst := landings_insert (ofPool (.ofPageSize 1)).join 0 [7]
      rw [hok (by decide)] at hfirst
      show landings onePageEach ((ofPool (.ofPageSize 1)).run onePageEach).1 = _
      rw [hactions, run_cons, landings_cons, List.replicate_succ, Allocators.step, run_cons,
        landings_cons, hfirst]
      rfl
    rw [hlanded]
    intro hpairwise
    exact (List.pairwise_append.mp hpairwise).2.2 _ List.mem_cons_self _ hagain (by simp) (by simp)
      rfl

end Allocators

end CompactAdjacency
