import CompactAdjacency.Failure

/-!
# Gaps of ascending lists

An ascending list is kept as its first value followed by the differences between neighbors, which
are small where the list is dense. `gaps` takes the differences, `sumsFrom` adds them up again, and
`firstDescent` finds where a list stops ascending. Addition and subtraction wrap at 64 bits, so that
`sumsFrom` undoes `gaps` on every list; on an ascending one neither ever wraps. `encodeInPlace?`
puts the differences in the place of the values, each subtraction checked.
-/

namespace CompactAdjacency.Gaps

/-- The differences between the values of a list, the first one from `previous`. -/
def gapsFrom (previous : UInt64) : List UInt64 → List UInt64
  | [] => []
  | value :: rest => (value - previous) :: gapsFrom value rest

/-- The first value of a list and the differences between its neighbors. -/
def gaps (values : List UInt64) : List UInt64 := gapsFrom 0 values

/-- The running sums of a list of differences, starting from `previous`. -/
def sumsFrom (previous : UInt64) : List UInt64 → List UInt64
  | [] => []
  | gap :: rest => (previous + gap) :: sumsFrom (previous + gap) rest

/-- The position of the first value smaller than the one before it, the list starting at
`position`. -/
def descentFrom (position : Nat) : List UInt64 → Option Nat
  | first :: second :: rest =>
      if second < first then some (position + 1) else descentFrom (position + 1) (second :: rest)
  | _ => none

/-- The position of the first value smaller than the one before it, `none` for an ascending
list. -/
def firstDescent (values : List UInt64) : Option Nat := descentFrom 0 values

/-- The gaps of the targets of a node, which have to ascend. -/
def encode (node : Nat) (values : List UInt64) : Except Failure (List UInt64) :=
  match firstDescent values with
  | some position => .error (.unsortedTargets node position)
  | none => .ok (gaps values)

/-- The differences between the values of a list, the first one from `previous`; `none` if a value
is taken from a smaller one. -/
def differencesFrom? (previous : UInt64) : List UInt64 → Option (List UInt64)
  | [] => some []
  | value :: rest =>
      if previous ≤ value then (differencesFrom? value rest).map ((value - previous) :: ·) else none

/-- Puts gaps in the place of the targets of a node, which are left as they are if they do not
ascend. What is answered is how that went, and the list as it is then; `none` if a value is taken
from a smaller one. -/
def encodeInPlace? (node : Nat) (values : List UInt64) :
    Option (Except Failure Unit × List UInt64) :=
  match firstDescent values with
  | some position => some (.error (.unsortedTargets node position), values)
  | none => (differencesFrom? 0 values).map fun gaps => (.ok (), gaps)

/-- Adding up the gaps of a list gives the list back. -/
theorem sumsFrom_gapsFrom (previous : UInt64) (values : List UInt64) :
    sumsFrom previous (gapsFrom previous values) = values := by
  induction values generalizing previous with
  | nil => rfl
  | cons value rest ih =>
      have h : previous + (value - previous) = value := by
        rw [UInt64.add_comm, UInt64.sub_add_cancel]
      simp [gapsFrom, sumsFrom, h, ih]

/-- A list ascends exactly if no value is smaller than the one before it. -/
theorem descentFrom_eq_none_iff {position : Nat} {values : List UInt64} :
    descentFrom position values = none ↔ values.Pairwise (· ≤ ·) := by
  induction values generalizing position with
  | nil => simp [descentFrom]
  | cons first rest ih =>
      cases rest with
      | nil => simp [descentFrom]
      | cons second rest =>
          rw [descentFrom]
          split
          case isTrue hdescent =>
            simp only [reduceCtorEq, List.pairwise_cons, false_iff]
            intro h
            exact absurd hdescent (UInt64.not_lt.mpr (h.1 second (by simp)))
          case isFalse hascent =>
            rw [ih]
            refine ⟨fun h => List.pairwise_cons.mpr ⟨?_, h⟩, fun h => h.tail⟩
            intro value hvalue
            rcases List.mem_cons.mp hvalue with rfl | hrest
            · exact UInt64.not_lt.mp hascent
            · exact UInt64.le_trans (UInt64.not_lt.mp hascent)
                ((List.pairwise_cons.mp h).1 value hrest)

/-- An ascending list has gaps. -/
theorem encode_of_ascending (node : Nat) {values : List UInt64}
    (h : values.Pairwise (· ≤ ·)) :
    encode node values = .ok (gaps values) := by
  have hnone : firstDescent values = none := descentFrom_eq_none_iff.mpr h
  simp only [encode, hnone]

/-- The value behind an index is smaller than the one at the index. -/
def Descends (values : List UInt64) (index : Nat) : Prop :=
  ∃ _ : index + 1 < values.length, values[index + 1] < values[index]

theorem descends_zero {first second : UInt64} {rest : List UInt64} :
    Descends (first :: second :: rest) 0 ↔ second < first := by
  simp [Descends]

theorem descends_succ {first : UInt64} {rest : List UInt64} {index : Nat} :
    Descends (first :: rest) (index + 1) ↔ Descends rest index := by
  simp [Descends]

/-- The position found is that of the first value smaller than the one before it. -/
theorem descentFrom_eq_some_iff {offset position : Nat} {values : List UInt64} :
    descentFrom offset values = some position ↔
      ∃ index, position = offset + index + 1 ∧ Descends values index ∧
        ∀ earlier < index, ¬ Descends values earlier := by
  induction values generalizing offset with
  | nil => simp [descentFrom, Descends]
  | cons first rest ih =>
      cases rest with
      | nil => simp [descentFrom, Descends]
      | cons second rest =>
          rw [descentFrom]
          split
          case isTrue hdescent =>
            constructor
            · intro h
              obtain rfl := Option.some.inj h
              exact ⟨0, rfl, descends_zero.mpr hdescent, by omega⟩
            · rintro ⟨index, rfl, -, hearlier⟩
              cases index with
              | zero => rfl
              | succ index =>
                  exact absurd (descends_zero.mpr hdescent) (hearlier 0 (Nat.succ_pos index))
          case isFalse hascent =>
            rw [ih]
            constructor
            · rintro ⟨index, rfl, hindex, hearlier⟩
              refine ⟨index + 1, by omega, descends_succ.mpr hindex, ?_⟩
              intro earlier hlt
              cases earlier with
              | zero => exact mt descends_zero.mp hascent
              | succ earlier =>
                  exact mt descends_succ.mp (hearlier earlier (Nat.lt_of_succ_lt_succ hlt))
            · rintro ⟨index, rfl, hindex, hearlier⟩
              cases index with
              | zero => exact absurd (descends_zero.mp hindex) hascent
              | succ index =>
                  refine ⟨index, by omega, descends_succ.mp hindex, ?_⟩
                  intro earlier hlt hdescends
                  exact hearlier (earlier + 1) (Nat.succ_lt_succ hlt) (descends_succ.mpr hdescends)

/-- There are as many running sums as differences. -/
@[simp] theorem length_sumsFrom (previous : UInt64) (values : List UInt64) :
    (sumsFrom previous values).length = values.length := by
  induction values generalizing previous with
  | nil => rfl
  | cons gap rest ih => simp [sumsFrom, ih]

/-- The running sums go on from the last one. -/
theorem sumsFrom_append (previous : UInt64) (front rest : List UInt64) :
    sumsFrom previous (front ++ rest) =
      sumsFrom previous front ++
        sumsFrom ((sumsFrom previous front).getLastD previous) rest := by
  induction front generalizing previous with
  | nil => rfl
  | cons gap front ih =>
      simp only [List.cons_append, sumsFrom, ih, List.getLastD_cons]

end CompactAdjacency.Gaps
