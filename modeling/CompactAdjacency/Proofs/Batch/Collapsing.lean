import Mathlib
import CompactAdjacency.Batch.Preparing

/-!
# Collapsing in place

Columns are collapsed while they are read. Nothing is lost, since a step writes behind the run it
has read, `Columns.Sound`: what the columns come to in the end, `Columns.result`, is the same before
and after each step, and at the end it has been written. `Columns.run_ofBatch` reads this as a
statement about batches: every run of equal targets becomes its first target, with the fold of its
values in each channel.
-/

namespace CompactAdjacency

namespace Batch

/-! ## Runs -/

/-- A key in front of an equal one makes the first run longer, and is a run of its own otherwise. -/
theorem runLengths_cons_cons {key next : UInt64} {keys : List UInt64} {length : Nat}
    {lengths : List Nat} (h : runLengths (next :: keys) = length :: lengths) :
    runLengths (key :: next :: keys) =
      if next = key then (length + 1) :: lengths else 1 :: length :: lengths := by
  conv_lhs => unfold runLengths
  simp only [h]

/-- The first run reaches as far as keys are equal to the first one. -/
theorem runLengths_cons (key : UInt64) (keys : List UInt64) :
    runLengths (key :: keys) =
      (1 + (keys.takeWhile fun other => other = key).length) ::
        runLengths (keys.drop (keys.takeWhile fun other => other = key).length) := by
  induction keys generalizing key with
  | nil => rfl
  | cons next keys ih =>
      rw [runLengths_cons_cons (ih next)]
      by_cases hequal : next = key
      · subst hequal
        simp only [if_pos, List.takeWhile_cons, decide_true, List.length_cons, List.drop_succ_cons]
        rw [Nat.add_assoc]
      · simp only [if_neg hequal, List.takeWhile_cons, decide_eq_false hequal, List.length_nil,
          List.drop_zero, Bool.false_eq_true, if_false, ih next]

/-- The value of each run of a channel. -/
def collapseChannel (aggregation : Aggregation) (lengths : List Nat) (values : List Binary64) :
    List Binary64 :=
  (cut lengths values).filterMap fun run =>
    match run with
    | [] => none
    | first :: others => some (aggregation.fold first others)

/-- The batch with one relationship for each run of equal targets. -/
def collapse (batch : Batch) (aggregation : Nat → Aggregation) : Batch :=
  let lengths := runLengths batch.targets
  ⟨(cut lengths batch.targets).filterMap List.head?,
    batch.channels.mapIdx fun channel => collapseChannel (aggregation channel) lengths⟩

/-- A batch whose channels have one value per target. -/
def Rectangular (batch : Batch) : Prop :=
  ∀ values ∈ batch.channels, values.length = batch.targets.length

end Batch

/-! ## Columns -/

namespace Columns

open Batch

variable {aggregation : Nat → Aggregation} {columns : Columns}

/-- The end of a run that reaches up to a position is behind the equal targets there. -/
theorem runEnd_eq (targets : Array UInt64) (target : UInt64) (stop : Nat) :
    runEnd targets target stop =
      stop + ((targets.toList.drop stop).takeWhile fun other => other = target).length := by
  fun_induction runEnd targets target stop with
  | case1 stop h hequal ih =>
      have hfront : targets.toList.drop stop = target :: targets.toList.drop (stop + 1) := by
        rw [← hequal]
        exact List.drop_eq_getElem_cons (by simpa using h)
      rw [ih, hfront, List.takeWhile_cons_of_pos (by simp), List.length_cons]
      omega
  | case2 stop h hdiffers =>
      rw [List.drop_eq_getElem_cons (by simpa using h), List.takeWhile_cons_of_neg
        (by simpa using hdiffers), List.length_nil, Nat.add_zero]
  | case3 stop h =>
      rw [List.drop_eq_nil_of_le (by simpa using h), List.takeWhile_nil, List.length_nil,
        Nat.add_zero]

/-- A run ends inside of the targets. -/
theorem runEnd_le {targets : Array UInt64} {stop : Nat} (h : stop ≤ targets.size)
    (target : UInt64) : runEnd targets target stop ≤ targets.size := by
  fun_induction runEnd targets target stop with
  | case1 stop h' hequal ih => exact ih h'
  | case2 stop h' hdiffers => exact h
  | case3 stop h' => exact h

/-- The first of the runs still to be read ends where the next one starts. -/
theorem runLengths_drop {targets : Array UInt64} {read stop : Nat} (hread : read < targets.size)
    (hstop : runEnd targets targets[read] (read + 1) = stop) :
    runLengths (targets.toList.drop read) =
      (stop - read) :: runLengths (targets.toList.drop stop) := by
  have hfront : targets.toList.drop read = targets[read] :: targets.toList.drop (read + 1) :=
    List.drop_eq_getElem_cons (by simpa using hread)
  have hlength : stop = read + 1 + ((targets.toList.drop (read + 1)).takeWhile
      fun other => other = targets[read]).length := by
    rw [← hstop, runEnd_eq]
  rw [hfront, runLengths_cons, List.drop_drop, ← hlength]
  exact congrArg (· :: _) (by omega)

/-- A list that is written to behind what has been read from it: the entry comes after the entries
written before it, and the entries still to be read stay. -/
theorem set_behind {α : Type} {values : List α} {write stop : Nat} (hwrite : write < stop)
    (hinside : write < values.length) (value : α) :
    (values.set write value).take (write + 1) = values.take write ++ [value] ∧
      (values.set write value).drop stop = values.drop stop := by
  refine ⟨?_, List.drop_set_of_lt hwrite⟩
  rw [List.take_add_one, List.take_set_of_le (Nat.le_refl write), List.getElem?_set_self hinside]
  rfl

/-- What the columns come to: the relationships written, and one for each run still to be read. -/
def result (aggregation : Nat → Aggregation) (columns : Columns) : Batch :=
  let lengths := runLengths (columns.targets.toList.drop columns.read)
  ⟨columns.targets.toList.take columns.write ++
      (cut lengths (columns.targets.toList.drop columns.read)).filterMap List.head?,
    columns.channels.mapIdx fun channel values =>
      values.toList.take columns.write ++
        collapseChannel (aggregation channel) lengths (values.toList.drop columns.read)⟩

/-- Columns of equal lengths, written no further than they have been read. -/
structure Sound (columns : Columns) : Prop where
  behind : columns.write ≤ columns.read
  inside : columns.read ≤ columns.targets.size
  rectangular : ∀ values ∈ columns.channels, values.size = columns.targets.size

@[simp] theorem size_reduce (aggregation : Aggregation) (read stop write : Nat)
    (values : Array Binary64) :
    (reduce aggregation read stop write values).size = values.size := by
  unfold reduce
  split
  case h_1 => rfl
  case h_2 => exact Array.size_setIfInBounds

/-- Reducing a run writes its fold behind it. -/
theorem reduce_behind (aggregation : Aggregation) {values : Array Binary64} {read stop write : Nat}
    (hwrite : write ≤ read) (hread : read < values.size) (hstop : read < stop)
    (lengths : List Nat) :
    let reduced := (reduce aggregation read stop write values).toList
    reduced.take (write + 1) ++ collapseChannel aggregation lengths (reduced.drop stop) =
      values.toList.take write ++
        collapseChannel aggregation ((stop - read) :: lengths) (values.toList.drop read) := by
  intro reduced
  obtain ⟨count, rfl⟩ := Nat.exists_eq_add_of_lt hstop
  have hlength : read < values.toList.length := hread
  have hrun : (values.extract (read + 1) (read + count + 1)).toList =
      (values.toList.drop (read + 1)).take count := by
    rw [Array.toList_extract, List.extract_eq_take_drop, Nat.add_right_comm,
      Nat.add_sub_cancel_left]
  have hreduced : reduced = values.toList.set write
      (aggregation.fold values[read] ((values.toList.drop (read + 1)).take count)) := by
    simp only [reduced, reduce, Array.getElem?_eq_getElem hread, Array.toList_setIfInBounds, hrun]
  obtain ⟨htake, hdrop⟩ := set_behind (hwrite.trans_lt hstop) (hwrite.trans_lt hlength)
    (aggregation.fold values[read] ((values.toList.drop (read + 1)).take count))
  have hcount : read + count + 1 - read = count + 1 := by omega
  have hafter : read + 1 + count = read + count + 1 := by omega
  rw [hreduced, htake, hdrop, List.append_assoc, List.drop_eq_getElem_cons hlength,
    collapseChannel, collapseChannel, cut, hcount, List.take_succ_cons, List.drop_succ_cons,
    List.drop_drop, hafter, List.filterMap_cons]
  rfl

/-- A step writes behind what it has read. -/
theorem Sound.step (hsound : columns.Sound) (hread : columns.read < columns.targets.size) :
    (columns.step aggregation columns.targets[columns.read]).Sound := by
  have hstop : columns.read + 1 ≤ runEnd columns.targets columns.targets[columns.read]
      (columns.read + 1) := le_runEnd ..
  refine ⟨(Nat.succ_le_succ hsound.behind).trans hstop, ?_, ?_⟩
  · simpa [Columns.step] using runEnd_le (Nat.succ_le_of_lt hread) columns.targets[columns.read]
  · intro values hvalues
    obtain ⟨channel, hchannel, rfl⟩ := List.mem_mapIdx.mp hvalues
    simpa [Columns.step] using hsound.rectangular _ (List.getElem_mem hchannel)

/-- A step does not change what the columns come to: one relationship more is written, for the run
that is no longer to be read. -/
theorem result_step (hsound : columns.Sound) (hread : columns.read < columns.targets.size) :
    (columns.step aggregation columns.targets[columns.read]).result aggregation =
      columns.result aggregation := by
  obtain ⟨stop, hstop⟩ : ∃ stop, runEnd columns.targets columns.targets[columns.read]
      (columns.read + 1) = stop := ⟨_, rfl⟩
  have hlength : columns.read < columns.targets.toList.length := hread
  have hbefore : columns.read < stop := hstop ▸ le_runEnd ..
  obtain ⟨htake, hdrop⟩ := set_behind (hsound.behind.trans_lt hbefore)
    (hsound.behind.trans_lt hlength) columns.targets[columns.read]
  have hfirst : ((columns.targets.toList.drop columns.read).take (stop - columns.read)).head? =
      some columns.targets[columns.read] := by
    rw [List.head?_take, if_neg (Nat.sub_ne_zero_of_lt hbefore), List.head?_drop]
    simp [hread]
  simp only [result, Columns.step, hstop, Array.toList_setIfInBounds, htake, hdrop,
    runLengths_drop hread hstop, Batch.mk.injEq]
  constructor
  · rw [cut, List.filterMap_cons_some hfirst, List.drop_drop,
      Nat.add_sub_cancel' hbefore.le, List.append_assoc]
    rfl
  · rw [List.mapIdx_mapIdx]
    refine List.ext_getElem (by simp) ?_
    intro channel hchannel hchannel'
    simp only [List.length_mapIdx] at hchannel
    simp only [List.getElem_mapIdx, Function.comp_apply]
    have hsize := hsound.rectangular _ (List.getElem_mem hchannel)
    exact reduce_behind (aggregation channel) hsound.behind (hsize ▸ hread) hbefore _

/-- At the end of the targets everything has been written. -/
theorem result_of_end (hend : ¬ columns.read < columns.targets.size) :
    columns.result aggregation = columns.written := by
  have hdrop : columns.targets.toList.drop columns.read = [] :=
    List.drop_eq_nil_of_le (Nat.not_lt.mp hend)
  simp only [result, written, hdrop, runLengths, cut, collapseChannel, List.filterMap_nil,
    List.append_nil, Array.take_eq_extract, Array.toList_extract, List.extract_eq_take_drop,
    List.drop_zero, Nat.sub_zero, Batch.mk.injEq, true_and]
  refine List.ext_getElem (by simp) ?_
  intro channel hchannel hchannel'
  rw [List.getElem_mapIdx, List.getElem_map]

/-- All that the columns come to is written by the end. -/
theorem Sound.run (hsound : columns.Sound) (aggregation : Nat → Aggregation) :
    (columns.run aggregation).Sound ∧
      (columns.run aggregation).written = columns.result aggregation := by
  fun_induction columns.run aggregation with
  | case1 columns hread ih => exact result_step hsound hread ▸ ih (hsound.step hread)
  | case2 columns hend => exact ⟨hsound, (result_of_end hend).symm⟩

/-- Nothing has been read from the columns of a batch. -/
theorem sound_ofBatch {batch : Batch} (h : batch.Rectangular) : (ofBatch batch).Sound := by
  refine ⟨Nat.le_refl 0, Nat.zero_le _, ?_⟩
  intro values hvalues
  obtain ⟨given, hgiven, rfl⟩ := List.mem_map.mp hvalues
  exact h given hgiven

/-- Collapsing in place leaves one relationship for each run, and counts them. -/
theorem run_ofBatch {batch : Batch} (h : batch.Rectangular) (aggregation : Nat → Aggregation) :
    ((ofBatch batch).run aggregation).written = batch.collapse aggregation ∧
      ((ofBatch batch).run aggregation).write = (batch.collapse aggregation).targets.length := by
  obtain ⟨hsound, hwritten⟩ := (sound_ofBatch h).run aggregation
  have hresult : (ofBatch batch).result aggregation = batch.collapse aggregation := by
    simp only [result, ofBatch, collapse, List.take_zero, List.drop_zero, List.nil_append,
      Batch.mk.injEq, true_and]
    refine List.ext_getElem (by simp) ?_
    intro channel hchannel hchannel'
    rw [List.getElem_mapIdx, List.getElem_mapIdx, List.getElem_map]
  refine ⟨hwritten.trans hresult, ?_⟩
  rw [← hresult, ← hwritten, written]
  have := hsound.behind.trans hsound.inside
  simpa using this

end Columns

end CompactAdjacency
