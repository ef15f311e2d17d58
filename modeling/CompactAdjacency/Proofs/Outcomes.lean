import Mathlib

/-!
# Chains of operations that may fail

An operation written with `do` succeeds exactly if each of its steps does. `bind_eq_ok_iff` takes
such a chain apart one step at a time, so that no proof has to split on the failures in it.
-/

namespace CompactAdjacency

variable {ε α β : Type}

/-- A chain succeeds exactly if its first step does and the rest does after it. -/
theorem bind_eq_ok_iff {first : Except ε α} {rest : α → Except ε β} {result : β} :
    (first >>= rest) = .ok result ↔ ∃ value, first = .ok value ∧ rest value = .ok result := by
  cases first with
  | error failure => simp [bind, Except.bind]
  | ok value => simp [bind, Except.bind]

/-- A chain fails exactly if its first step does, or the rest does after it. -/
theorem bind_eq_error_iff {first : Except ε α} {rest : α → Except ε β} {failure : ε} :
    (first >>= rest) = .error failure ↔
      first = .error failure ∨ ∃ value, first = .ok value ∧ rest value = .error failure := by
  cases first with
  | error failure' => simp [bind, Except.bind]
  | ok value => simp [bind, Except.bind]

/-- The last step of a chain always succeeds. -/
theorem pure_eq_ok_iff {value result : α} :
    (pure value : Except ε α) = .ok result ↔ value = result := by
  simp [pure, Except.pure]

/-- What is made of a result succeeds exactly if there is a result. -/
theorem map_eq_ok_iff {outcome : Except ε α} {make : α → β} {result : β} :
    outcome.map make = .ok result ↔ ∃ value, outcome = .ok value ∧ make value = result := by
  cases outcome with
  | error failure => simp [Except.map]
  | ok value => simp [Except.map]

/-- What is made of a result fails exactly as there is no result. -/
theorem map_eq_error_iff {outcome : Except ε α} {make : α → β} {failure : ε} :
    outcome.map make = .error failure ↔ outcome = .error failure := by
  cases outcome with
  | error failure' => simp [Except.map]
  | ok value => simp [Except.map]

/-! ## One step for each element of a list -/

/-- What every step of a chain over a list preserves holds at its end. -/
theorem foldlM_preserves {motive : β → Prop} {step : β → α → Except ε β}
    (hstep : ∀ state item next, motive state → step state item = .ok next → motive next)
    {items : List α} {state result : β} (hstate : motive state)
    (hfold : items.foldlM step state = .ok result) : motive result := by
  induction items generalizing state with
  | nil =>
      obtain rfl := pure_eq_ok_iff.mp hfold
      exact hstate
  | cons item items ih =>
      rw [List.foldlM_cons, bind_eq_ok_iff] at hfold
      obtain ⟨next, hitem, hrest⟩ := hfold
      exact ih (hstep state item next hstate hitem) hrest

/-- Counting that never goes back ends where it started exactly if no element is counted. -/
theorem foldlM_count_eq_iff {step : Nat → α → Except ε Nat} {passes : α → Prop}
    (hmono : ∀ count item next, step count item = .ok next → count ≤ next)
    (hpasses : ∀ count item, step count item = .ok count ↔ passes item) (items : List α)
    (count : Nat) :
    items.foldlM step count = .ok count ↔ ∀ item ∈ items, passes item := by
  induction items with
  | nil => simp [pure, Except.pure]
  | cons item items ih =>
      rw [List.foldlM_cons, bind_eq_ok_iff, List.forall_mem_cons, ← ih, ← hpasses count item]
      constructor
      · rintro ⟨next, hitem, hrest⟩
        -- the rest goes no further back than `next`, and it ends at `count`
        have hback : next ≤ count := foldlM_preserves
          (fun state item after hle hstep => hle.trans (hmono state item after hstep))
          (Nat.le_refl next) hrest
        obtain rfl := Nat.le_antisymm (hmono count item next hitem) hback
        exact ⟨hitem, hrest⟩
      · rintro ⟨hitem, hrest⟩
        exact ⟨count, hitem, hrest⟩

end CompactAdjacency
