import Mathlib
import CompactAdjacency.Proofs.Batch.Collapsing

/-!
# What a prepared batch is

`Batch.reference` says what becomes of a batch without sorting positions or cutting runs: the pairs
of targets and values are sorted, or for every different target the values given for it are folded
in the order they were given. `prepareInPlace_eq_reference` shows that this is what a batch is
prepared to. Sorting is stable, so that the pairs of one target keep their order,
`filter_mergeSort`, whichever way a batch is sorted, `sort_eq`; and the runs of a sorted list are
its elements of each key, `cut_runLengths`.
-/

namespace CompactAdjacency

/-- The fold of all values of a run, `none` for no values. -/
def Aggregation.foldAll (aggregation : Aggregation) : List Binary64 → Option Binary64
  | [] => none
  | first :: others => some (aggregation.fold first others)

namespace Batch

/-! ## The reference -/

/-- Targets and values in the order of the targets, those of one target in the order given. -/
def sortedPairs {α : Type} (targets : List UInt64) (values : List α) : List (UInt64 × α) :=
  (targets.zip values).mergeSort fun left right => left.1 ≤ right.1

/-- The values given for a target, in the order given. -/
def valuesOf {α : Type} (targets : List UInt64) (values : List α) (target : UInt64) : List α :=
  ((targets.zip values).filter fun pair => pair.1 = target).map Prod.snd

/-- The different targets, ascending. -/
def distinct (targets : List UInt64) : List UInt64 := targets.dedup.mergeSort

/-- What a batch is prepared to. -/
def reference (batch : Batch) (topology : Aggregation) (channels : List Aggregation) : Batch :=
  match topology.resolve with
  | .keepAll =>
      ⟨batch.targets.mergeSort,
        batch.channels.map fun values => (sortedPairs batch.targets values).map Prod.snd⟩
  | topology =>
      ⟨distinct batch.targets,
        batch.channels.mapIdx fun channel values =>
          (distinct batch.targets).filterMap fun target =>
            (topology.ofChannel channels channel).foldAll (valuesOf batch.targets values target)⟩

/-! ## Sorting by target -/

theorem pairwise_mergeSort_le (targets : List UInt64) :
    targets.mergeSort.Pairwise (· ≤ ·) := by
  have h : (targets.mergeSort fun left right => decide (left ≤ right)).Pairwise
      fun left right => decide (left ≤ right) = true := by
    refine List.pairwise_mergeSort ?_ ?_ targets
    · intro a b c hab hbc
      simp only [decide_eq_true_eq] at hab hbc ⊢
      exact UInt64.le_trans hab hbc
    · intro a b
      simpa using UInt64.le_total a b
  exact h.imp fun hle => of_decide_eq_true hle

/-- Ascending targets need not be sorted. -/
theorem mergeSort_of_pairwise {targets : List UInt64} (h : targets.Pairwise (· ≤ ·)) :
    targets.mergeSort = targets :=
  List.mergeSort_of_pairwise (h.imp fun hle => decide_eq_true hle)

/-- Pairs with ascending targets need not be sorted. -/
theorem sortedPairs_of_pairwise {α : Type} {targets : List UInt64}
    (h : targets.Pairwise (· ≤ ·)) {values : List α} (hlength : values.length = targets.length) :
    sortedPairs targets values = targets.zip values := by
  rw [← List.map_fst_zip hlength.ge, List.pairwise_map] at h
  exact List.mergeSort_of_pairwise (h.imp fun hle => decide_eq_true hle)

/-- Comparing neighbors is enough to see that targets ascend. -/
theorem ascends_iff {targets : List UInt64} :
    ascends targets = true ↔ targets.Pairwise (· ≤ ·) := by
  induction targets with
  | nil => simp [ascends]
  | cons target rest ih =>
      cases rest with
      | nil => simp [ascends]
      | cons next rest =>
          have hsplit : ascends (target :: next :: rest) = true ↔
              target ≤ next ∧ ascends (next :: rest) = true := by
            simp [ascends]
          have htrans : IsTrans UInt64 (· ≤ ·) := ⟨fun _ _ _ => UInt64.le_trans⟩
          rw [hsplit, ih, List.pairwise_cons_cons_iff_of_trans]

/-- Elements that sorting need not move relative to each other keep their order. -/
theorem filter_mergeSort {α : Type} {le : α → α → Bool}
    (htrans : ∀ a b c, le a b → le b c → le a c) (htotal : ∀ a b, le a b || le b a)
    {keep : α → Bool} (hkeep : ∀ a b, keep a → keep b → le a b) (values : List α) :
    (values.mergeSort le).filter keep = values.filter keep := by
  have hpairwise : (values.filter keep).Pairwise fun a b => le a b := by
    refine List.pairwise_of_forall_mem_list ?_
    intro a ha b hb
    exact hkeep a b (List.mem_filter.mp ha).2 (List.mem_filter.mp hb).2
  have hsublist := List.sublist_mergeSort htrans htotal hpairwise List.filter_sublist
  have hfiltered := hsublist.filter keep
  rw [List.filter_filter, List.filter_congr (fun _ _ => Bool.and_self _)] at hfiltered
  exact (hfiltered.eq_of_length (List.Perm.length_eq
    ((List.mergeSort_perm values le).filter keep).symm)).symm

/-- Sorting by target keeps the order of what has one target. -/
theorem filter_mergeSort_target {α : Type} (pairs : List (UInt64 × α)) (target : UInt64) :
    (pairs.mergeSort fun left right => left.1 ≤ right.1).filter (fun pair => pair.1 = target) =
      pairs.filter fun pair => pair.1 = target := by
  refine filter_mergeSort ?_ ?_ ?_ pairs
  · intro a b c hab hbc
    simp only [decide_eq_true_eq] at hab hbc ⊢
    exact UInt64.le_trans hab hbc
  · intro a b
    simpa using UInt64.le_total a.1 b.1
  · intro a b ha hb
    simp only [decide_eq_true_eq] at ha hb ⊢
    exact UInt64.le_of_eq (ha.trans hb.symm)

/-- The pairs of one target keep their order. -/
theorem filter_sortedPairs {α : Type} (targets : List UInt64) (values : List α) (target : UInt64) :
    ((sortedPairs targets values).filter fun pair => pair.1 = target).map Prod.snd =
      valuesOf targets values target := by
  rw [sortedPairs, filter_mergeSort_target, valuesOf]

/-- The order of positions sorts the targets. -/
theorem map_fst_order (targets : List UInt64) :
    (order targets).map Prod.fst = targets.mergeSort := by
  rw [order, List.map_mergeSort (s := fun left right => decide (left ≤ right)) (by simp),
    List.zipIdx_map_fst]

/-- Sorting pairs sorts their targets. -/
theorem map_fst_sortedPairs {α : Type} {targets : List UInt64} {values : List α}
    (hlength : values.length = targets.length) :
    (sortedPairs targets values).map Prod.fst = targets.mergeSort := by
  rw [sortedPairs, List.map_mergeSort (s := fun left right => decide (left ≤ right)) (by simp),
    List.map_fst_zip hlength.ge]

/-- The order of positions moves each value with its target. -/
theorem permute_order {α : Type} {targets : List UInt64} {values : List α}
    (hlength : values.length = targets.length) :
    permute (order targets) values = (sortedPairs targets values).map Prod.snd := by
  -- every position is inside, so that looking it up fails nowhere
  cases hvalues : values with
  | nil =>
      have hnone : targets = [] :=
        List.eq_nil_of_length_eq_zero (by simpa [hvalues] using hlength.symm)
      simp [hnone, sortedPairs, permute]
  | cons first rest =>
      rw [← hvalues]
      let place : UInt64 × Nat → UInt64 × α := fun entry => (entry.1, values.getD entry.2 first)
      have hplace : targets.zipIdx.map place = targets.zip values := by
        refine List.ext_getElem (by simp [hlength]) ?_
        intro index hindex hindex'
        have hlt : index < values.length := by
          simp only [List.length_zip] at hindex'
          omega
        simp [place, hlt]
      have hsorted : (order targets).map place = sortedPairs targets values := by
        rw [order, List.map_mergeSort (s := fun left right => decide (left.1 ≤ right.1))
          (by simp [place]), hplace, sortedPairs]
      rw [← hsorted, List.map_map, permute, ← List.filterMap_eq_map]
      refine List.filterMap_congr ?_
      intro entry hentry
      have hmem : entry ∈ targets.zipIdx := List.mem_mergeSort.mp hentry
      have hlt : entry.2 < values.length := by
        have := List.snd_lt_of_mem_zipIdx hmem
        omega
      simp [place, hlt]

/-! ## Runs of equal keys -/

/-- Pieces are cut alike from a list and from what is made of it. -/
theorem cut_map {α β : Type} (make : α → β) (lengths : List Nat) (values : List α) :
    cut lengths (values.map make) = (cut lengths values).map (List.map make) := by
  induction lengths generalizing values with
  | nil => rfl
  | cons length lengths ih =>
      simp only [cut, List.map_cons, ← List.map_take, ← List.map_drop, ih]

/-- The first element of an ascending list is the first of its different elements. -/
theorem dedup_cons_of_pairwise {key : UInt64} {keys : List UInt64}
    (h : (key :: keys).Pairwise (· ≤ ·)) :
    ∃ others, (key :: keys).dedup = key :: others ∧ key ∉ others := by
  have hsorted := h.sublist (List.dedup_sublist (key :: keys))
  have hnodup := List.nodup_dedup (key :: keys)
  have hmem : key ∈ (key :: keys).dedup := List.mem_dedup.mpr List.mem_cons_self
  cases hdedup : (key :: keys).dedup with
  | nil => simp [hdedup] at hmem
  | cons first others =>
      rw [hdedup] at hsorted hnodup hmem
      have hfirst : first ∈ key :: keys := by
        rw [← List.mem_dedup, hdedup]
        exact List.mem_cons_self
      have heq : first = key := by
        refine UInt64.le_antisymm ?_ ?_
        · rcases List.mem_cons.mp hmem with rfl | htail
          · exact UInt64.le_refl _
          · exact List.rel_of_pairwise_cons hsorted htail
        · rcases List.mem_cons.mp hfirst with rfl | htail
          · exact UInt64.le_refl _
          · exact List.rel_of_pairwise_cons h htail
      subst heq
      exact ⟨others, rfl, (List.nodup_cons.mp hnodup).1⟩

/-- An element in front plays no part for other keys. -/
theorem map_filter_cons {α : Type} {key : α → UInt64} (value : α) {targets : List UInt64}
    (h : key value ∉ targets) (values : List α) :
    (targets.map fun target => (value :: values).filter fun value => key value = target) =
      targets.map fun target => values.filter fun value => key value = target := by
  refine List.map_congr_left ?_
  intro target htarget
  refine List.filter_cons_of_neg ?_
  rw [decide_eq_true_eq]
  rintro rfl
  exact h htarget

/-- In an ascending list a key in front of a different one does not come again. -/
theorem notMem_of_pairwise {key next : UInt64} {keys : List UInt64}
    (h : (key :: next :: keys).Pairwise (· ≤ ·)) (hne : next ≠ key) : key ∉ next :: keys := by
  intro hmem
  have hfirst : key ≤ next := List.rel_of_pairwise_cons h List.mem_cons_self
  have hsecond : next ≤ key := by
    rcases List.mem_cons.mp hmem with rfl | htail
    · exact UInt64.le_refl _
    · exact List.rel_of_pairwise_cons (List.Pairwise.of_cons h) htail
  exact hne (UInt64.le_antisymm hsecond hfirst)

/-- The runs of a list with ascending keys are its elements of each key. -/
theorem cut_runLengths {α : Type} (key : α → UInt64) (values : List α)
    (h : (values.map key).Pairwise (· ≤ ·)) :
    cut (runLengths (values.map key)) values =
      (values.map key).dedup.map fun target => values.filter fun value => key value = target := by
  induction values with
  | nil => rfl
  | cons value values ih =>
      cases values with
      | nil => simp [runLengths, cut]
      | cons next values =>
          have htail := ih (List.Pairwise.of_cons h)
          obtain ⟨length, lengths, hlengths⟩ : ∃ length lengths,
              runLengths (key next :: values.map key) = length :: lengths :=
            ⟨_, _, runLengths_cons (key next) (values.map key)⟩
          obtain ⟨others, hothers, hnotMem⟩ := dedup_cons_of_pairwise (List.Pairwise.of_cons h)
          rw [List.map_cons, hlengths, cut, hothers, List.map_cons, List.cons.injEq] at htail
          obtain ⟨hrun, hruns⟩ := htail
          rw [List.map_cons, List.map_cons, runLengths_cons_cons hlengths]
          by_cases heq : key next = key value
          · -- the first run grows by one, and no other run has its key
            have hmem : key value ∈ key next :: values.map key := by simp [heq]
            rw [if_pos heq, cut, List.take_succ_cons, List.drop_succ_cons, hrun, hruns,
              List.dedup_cons_of_mem hmem, hothers, List.map_cons,
              map_filter_cons value (heq ▸ hnotMem),
              List.filter_cons_of_pos (a := value) (decide_eq_true heq.symm)]
          · -- the value comes before every other key and is a run alone
            have hfront : key value ∉ key next :: values.map key := notMem_of_pairwise h heq
            have halone : (next :: values).filter (fun other => key other = key value) = [] := by
              refine List.filter_eq_nil_iff.mpr ?_
              intro other hother hequal
              rw [← of_decide_eq_true hequal, ← List.map_cons] at hfront
              exact hfront (List.mem_map_of_mem hother)
            rw [if_neg heq, cut, cut, List.dedup_cons_of_notMem hfront, List.map_cons,
              map_filter_cons value (mt List.mem_dedup.mp hfront), hothers, List.map_cons,
              List.take_succ_cons, List.drop_succ_cons, List.take_zero, List.drop_zero, hrun, hruns,
              List.filter_cons_of_pos (a := value) (decide_eq_true rfl), halone]

/-! ## Collapsing -/

/-- Sorting first does not change which targets there are. -/
theorem dedup_mergeSort (targets : List UInt64) : targets.mergeSort.dedup = distinct targets := by
  have hperm : targets.mergeSort.dedup.Perm (distinct targets) :=
    ((List.mergeSort_perm targets _).dedup).trans (List.mergeSort_perm targets.dedup _).symm
  refine hperm.eq_of_pairwise ?_ ?_ (pairwise_mergeSort_le _)
  · intro a b _ _ hab hba
    exact UInt64.le_antisymm hab hba
  · exact (pairwise_mergeSort_le targets).sublist (List.dedup_sublist _)

theorem mem_distinct {targets : List UInt64} {target : UInt64} :
    target ∈ distinct targets ↔ target ∈ targets := by
  rw [distinct, List.mem_mergeSort, List.mem_dedup]

/-- The runs of sorted pairs are those of each target. -/
theorem cut_sortedPairs {α : Type} {targets : List UInt64} {values : List α}
    (hlength : values.length = targets.length) :
    cut (runLengths targets.mergeSort) (sortedPairs targets values) =
      (distinct targets).map fun target =>
        (sortedPairs targets values).filter fun pair => pair.1 = target := by
  have h := cut_runLengths Prod.fst (sortedPairs targets values)
  rw [map_fst_sortedPairs hlength, dedup_mergeSort] at h
  exact h (pairwise_mergeSort_le targets)

/-- The first targets of the runs are the different targets. -/
theorem filterMap_head?_cut (targets : List UInt64) :
    (cut (runLengths targets.mergeSort) targets.mergeSort).filterMap List.head? =
      distinct targets := by
  have h := cut_runLengths id targets.mergeSort
  rw [List.map_id, dedup_mergeSort] at h
  rw [h (pairwise_mergeSort_le targets), List.filterMap_map]
  conv_rhs => rw [← List.filterMap_some (l := distinct targets)]
  refine List.filterMap_congr ?_
  intro target htarget
  have hmem : target ∈ targets.mergeSort := List.mem_mergeSort.mpr (mem_distinct.mp htarget)
  show (targets.mergeSort.filter fun value => value = target).head? = some target
  rw [List.filter_eq, List.head?_replicate, if_neg (List.count_pos_iff.mpr hmem).ne']

/-- A collapsed channel holds the fold of each target's values. -/
theorem collapseChannel_eq {targets : List UInt64} {values : List Binary64}
    (hlength : values.length = targets.length) (aggregation : Aggregation) :
    collapseChannel aggregation (runLengths targets.mergeSort)
        ((sortedPairs targets values).map Prod.snd) =
      (distinct targets).filterMap fun target =>
        aggregation.foldAll (valuesOf targets values target) := by
  rw [collapseChannel, cut_map, cut_sortedPairs hlength, List.map_map, List.filterMap_map]
  refine List.filterMap_congr ?_
  intro target _
  simp only [Function.comp_apply, filter_sortedPairs]
  rfl

/-! ## Preparing -/

/-- No channel is named exactly if all of them have one value per target. -/
theorem mismatch_eq_none_iff {batch : Batch} :
    mismatch batch.targets.length batch.channels = none ↔ batch.Rectangular := by
  simp only [mismatch, Option.map_eq_none_iff, List.find?_eq_none, decide_eq_true_eq, not_not]
  constructor
  · intro h values hvalues
    obtain ⟨index, hindex, rfl⟩ := List.mem_iff_getElem.mp hvalues
    exact h (batch.channels[index], index) (List.mem_zipIdx_iff_getElem?.mpr (by simp [hindex]))
  · rintro h ⟨values, channel⟩ hvalues
    exact h values (List.fst_mem_of_mem_zipIdx hvalues)

/-- A channel of another length is named if those before it have the right one. -/
theorem mismatch_append {length : Nat} {front back : List (List Binary64)} {values : List Binary64}
    (hfront : ∀ earlier ∈ front, earlier.length = length) (hvalues : values.length ≠ length) :
    mismatch length (front ++ values :: back) = some (front.length, values.length) := by
  have hskipped : front.zipIdx.find? (fun channel => channel.1.length ≠ length) = none := by
    rw [List.find?_eq_none]
    rintro ⟨earlier, index⟩ hearlier
    simpa using hfront earlier (List.fst_mem_of_mem_zipIdx hearlier)
  rw [mismatch, List.zipIdx_append, List.find?_append, hskipped, List.zipIdx_cons,
    List.find?_cons_of_pos (by simpa using hvalues), Nat.zero_add]
  rfl

/-- The channel that is named is the first one of another length. -/
theorem exists_of_mismatch {batch : Batch} {channel found : Nat}
    (h : mismatch batch.targets.length batch.channels = some (channel, found)) :
    ∃ front values back, batch.channels = front ++ values :: back ∧
      (∀ earlier ∈ front, earlier.length = batch.targets.length) ∧
      values.length ≠ batch.targets.length ∧ front.length = channel ∧ values.length = found := by
  cases hfind : batch.channels.find? fun values => values.length ≠ batch.targets.length with
  | none =>
      have hrectangular : batch.Rectangular := by
        intro values hvalues
        simpa using List.find?_eq_none.mp hfind values hvalues
      rw [mismatch_eq_none_iff.mpr hrectangular] at h
      simp at h
  | some values =>
      obtain ⟨hvalues, front, back, hchannels, hfront⟩ := List.find?_eq_some_iff_append.mp hfind
      have hvalues' : values.length ≠ batch.targets.length := by simpa using hvalues
      have hfront' : ∀ earlier ∈ front, earlier.length = batch.targets.length := by
        intro earlier hearlier
        simpa using hfront earlier hearlier
      rw [hchannels, mismatch_append hfront' hvalues'] at h
      obtain ⟨hchannel, hfound⟩ := Prod.mk.inj (Option.some.inj h)
      exact ⟨front, values, back, hchannels, hfront', hvalues', hchannel, hfound⟩

/-- Sorting a batch sorts the pairs of every channel, however it is done. -/
theorem sort_eq {batch : Batch} (h : batch.Rectangular) :
    batch.sort = ⟨batch.targets.mergeSort,
      batch.channels.map fun values => (sortedPairs batch.targets values).map Prod.snd⟩ := by
  unfold sort
  split
  case isTrue hascends =>
    have hpairwise := ascends_iff.mp hascends
    have hchannels : batch.channels.map (fun values =>
        (sortedPairs batch.targets values).map Prod.snd) = batch.channels := by
      conv_rhs => rw [← List.map_id batch.channels]
      refine List.map_congr_left ?_
      intro values hvalues
      rw [sortedPairs_of_pairwise hpairwise (h values hvalues),
        List.map_snd_zip (h values hvalues).le, id]
    rw [hchannels, mergeSort_of_pairwise hpairwise]
  case isFalse hdescends =>
    split
    case isTrue hnone => simp [List.isEmpty_iff.mp hnone]
    case isFalse hsome =>
      dsimp only
      rw [map_fst_order,
        List.map_congr_left fun values hvalues => permute_order (h values hvalues)]

/-- Sorting keeps one value per target. -/
theorem sort_rectangular {batch : Batch} (h : batch.Rectangular) : batch.sort.Rectangular := by
  rw [sort_eq h]
  intro column hcolumn
  obtain ⟨values, hvalues, rfl⟩ := List.mem_map.mp hcolumn
  simp [sortedPairs, h values hvalues]

/-- Collapsing a sorted batch folds the values of each target. -/
theorem collapse_sort {batch : Batch} (h : batch.Rectangular) (aggregation : Nat → Aggregation) :
    batch.sort.collapse aggregation =
      ⟨distinct batch.targets,
        batch.channels.mapIdx fun channel values =>
          (distinct batch.targets).filterMap fun target =>
            (aggregation channel).foldAll (valuesOf batch.targets values target)⟩ := by
  rw [sort_eq h, collapse, filterMap_head?_cut]
  refine congrArg _ ?_
  refine List.ext_getElem (by simp) ?_
  intro channel hchannel hchannel'
  simp only [List.getElem_mapIdx, List.getElem_map]
  exact collapseChannel_eq (h _ (List.getElem_mem _)) _

/-- A batch with a channel of another length is refused, and stays as it is. -/
theorem prepareInPlace_of_mismatch {batch : Batch} {channel found : Nat}
    (h : mismatch batch.targets.length batch.channels = some (channel, found)) (node : Nat)
    (topology : Aggregation) (channels : List Aggregation) :
    batch.prepareInPlace node topology channels =
      ⟨.error (.channelLength node channel found batch.targets.length), batch⟩ := by
  simp only [prepareInPlace, h]

/-- A batch is prepared to its reference, and its relationships are counted. -/
theorem prepareInPlace_eq_reference {batch : Batch} (h : batch.Rectangular) (node : Nat)
    (topology : Aggregation) (channels : List Aggregation) :
    batch.prepareInPlace node topology channels =
      ⟨.ok (batch.reference topology channels).targets.length,
        batch.reference topology channels⟩ := by
  unfold prepareInPlace reference
  simp only [mismatch_eq_none_iff.mpr h]
  cases topology.resolve with
  | keepAll => simp only [sort_eq h, List.length_mergeSort]
  | byDefault | single | sum | min | max | count =>
      simp only [Columns.run_ofBatch (sort_rectangular h), collapse_sort h]

/-- A batch is prepared to its reference. -/
theorem prepare_eq_reference {batch : Batch} (h : batch.Rectangular) (node : Nat)
    (topology : Aggregation) (channels : List Aggregation) :
    batch.prepare node topology channels = .ok (batch.reference topology channels) := by
  rw [prepare, prepareInPlace_eq_reference h]
  rfl

/-- A batch that is refused is not prepared. -/
theorem prepare_of_mismatch {batch : Batch} {channel found : Nat}
    (h : mismatch batch.targets.length batch.channels = some (channel, found)) (node : Nat)
    (topology : Aggregation) (channels : List Aggregation) :
    batch.prepare node topology channels =
      .error (.channelLength node channel found batch.targets.length) := by
  rw [prepare, prepareInPlace_of_mismatch h]
  rfl

/-- Only batches whose channels have one value per target are prepared. -/
theorem prepare_eq_ok_iff {batch prepared : Batch} {node : Nat} {topology : Aggregation}
    {channels : List Aggregation} :
    batch.prepare node topology channels = .ok prepared ↔
      batch.Rectangular ∧ batch.reference topology channels = prepared := by
  by_cases hrectangular : batch.Rectangular
  · rw [prepare_eq_reference hrectangular, Except.ok.injEq]
    exact ⟨fun h => ⟨hrectangular, h⟩, fun h => h.2⟩
  · have hmismatch := mt mismatch_eq_none_iff.mp hrectangular
    obtain ⟨channel, hchannel⟩ := Option.ne_none_iff_exists'.mp hmismatch
    simp [prepare_of_mismatch hchannel, hrectangular]

/-! ## The shape of a reference -/

/-- The targets of a reference ascend. -/
theorem reference_ascending (batch : Batch) (topology : Aggregation)
    (channels : List Aggregation) :
    (batch.reference topology channels).targets.Pairwise (· ≤ ·) := by
  unfold reference
  split
  case h_1 => exact pairwise_mergeSort_le batch.targets
  case h_2 => exact pairwise_mergeSort_le batch.targets.dedup

/-- No relationships are added. -/
theorem length_reference_le (batch : Batch) (topology : Aggregation)
    (channels : List Aggregation) :
    (batch.reference topology channels).targets.length ≤ batch.targets.length := by
  unfold reference
  split
  case h_1 => exact (List.length_mergeSort _).le
  case h_2 =>
    rw [distinct, List.length_mergeSort]
    exact (List.dedup_sublist _).length_le

/-- Every channel is kept. -/
theorem length_channels_reference (batch : Batch) (topology : Aggregation)
    (channels : List Aggregation) :
    (batch.reference topology channels).channels.length = batch.channels.length := by
  unfold reference
  split
  case h_1 => exact List.length_map _
  case h_2 => exact List.length_mapIdx

/-- Values are given for each of the targets. -/
theorem valuesOf_ne_nil {α : Type} {targets : List UInt64} {values : List α}
    (hlength : values.length = targets.length) {target : UInt64} (htarget : target ∈ targets) :
    valuesOf targets values target ≠ [] := by
  rw [← List.map_fst_zip hlength.ge, List.mem_map] at htarget
  obtain ⟨pair, hpair, rfl⟩ := htarget
  have hmem : pair ∈ (targets.zip values).filter fun other => other.1 = pair.1 :=
    List.mem_filter.mpr ⟨hpair, decide_eq_true rfl⟩
  exact List.ne_nil_of_mem (List.mem_map_of_mem hmem)

/-- The channels of a reference have one value per target. -/
theorem reference_rectangular {batch : Batch} (h : batch.Rectangular) (topology : Aggregation)
    (channels : List Aggregation) : (batch.reference topology channels).Rectangular := by
  unfold reference
  split
  case h_1 =>
    intro column hcolumn
    obtain ⟨values, hvalues, rfl⟩ := List.mem_map.mp hcolumn
    have hlength := h values hvalues
    simp only [List.length_map, sortedPairs, List.length_mergeSort, List.length_zip, hlength,
      Nat.min_self]
  case h_2 =>
    intro column hcolumn
    obtain ⟨channel, hchannel, rfl⟩ := List.mem_mapIdx.mp hcolumn
    refine List.filterMap_length_eq_length.mpr ?_
    intro target htarget
    have hne := valuesOf_ne_nil (h _ (List.getElem_mem hchannel)) (mem_distinct.mp htarget)
    obtain ⟨first, others, hvalues⟩ := List.exists_cons_of_ne_nil hne
    rw [hvalues]
    rfl

end Batch

end CompactAdjacency
