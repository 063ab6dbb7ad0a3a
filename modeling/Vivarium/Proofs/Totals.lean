import Mathlib
import Vivarium.Pool

/-!
# Totals

Slots and cells are numbered from zero, and each holds one thing or nothing. The
total over the first of them changes by what one of them holds before and after;
over the slots of a pool it is the sum over the list of its organisms.
-/
namespace Vivarium

variable {α M : Type} [AddCommMonoid M]

/-- The sum of the values held in the first places. -/
def total (size : Nat) (value : α → M) (held : Nat → Option α) : M :=
  ∑ place ∈ Finset.range size, (held place).elim 0 value

/-- A change in one place changes the total by the two values. -/
theorem total_update {size place : Nat} (inside : place < size) (value : α → M)
    (held : Nat → Option α) (after : Option α) :
    total size value (Function.update held place after) + (held place).elim 0 value =
      total size value held + after.elim 0 value := by
  have member := Finset.mem_range.mpr inside
  have values : (fun other => (Function.update held place after other).elim 0 value) =
      Function.update (fun other => (held other).elim 0 value) place (after.elim 0 value) := by
    funext other
    simp only [Function.update_apply]
    split <;> rfl
  unfold total
  -- Both sums split into the place that changes and all the others.
  rw [values, Finset.sum_update_of_mem member, Finset.sdiff_singleton_eq_erase,
    ← Finset.sum_erase_add _ (fun other => (held other).elim 0 value) member, add_assoc, add_comm]

/-- What is put into an empty place is added. -/
theorem total_put {size place : Nat} {held : Nat → Option α} (inside : place < size)
    (vacant : held place = none) (value : α → M) (entry : α) :
    total size value (Function.update held place (some entry)) =
      total size value held + value entry := by
  have changed := total_update inside value held (some entry)
  rwa [vacant, Option.elim_none, Option.elim_some, add_zero] at changed

/-- What is taken away is missing. -/
theorem total_clear {size place : Nat} {held : Nat → Option α} {entry : α} (inside : place < size)
    (there : held place = some entry) (value : α → M) :
    total size value (Function.update held place none) + value entry = total size value held := by
  have changed := total_update inside value held none
  rwa [there, Option.elim_none, Option.elim_some, add_zero] at changed

/-- What takes the place of an entry differs by the two values. -/
theorem total_change {size place : Nat} {held : Nat → Option α} {entry : α} (inside : place < size)
    (there : held place = some entry) (value : α → M) (after : α) :
    total size value (Function.update held place (some after)) + value entry =
      total size value held + value after := by
  have changed := total_update inside value held (some after)
  rwa [there, Option.elim_some, Option.elim_some] at changed

theorem total_empty {size : Nat} {held : Nat → Option α} (value : α → M)
    (empty : ∀ place, held place = none) : total size value held = 0 :=
  Finset.sum_eq_zero fun place _ => by rw [empty, Option.elim_none]

/-- Each place holds one entry at most. -/
theorem total_one_le (size : Nat) (held : Nat → Option α) :
    total size (fun _ => 1) held ≤ size := by
  have each : ∀ place ∈ Finset.range size, (held place).elim 0 (fun _ => 1) ≤ 1 := by
    intro place _
    cases held place <;> simp
  simpa [total] using Finset.sum_le_card_nsmul _ _ _ each

theorem total_map {β : Type} (size : Nat) (value : β → M) (view : α → β) (held : Nat → Option α) :
    total size value (fun place => (held place).map view) = total size (value ∘ view) held := by
  unfold total
  exact Finset.sum_congr rfl fun place _ => Option.elim_map _

namespace Pool

theorem sum_liveBelow (pool : Pool) (value : Organism → M) (bound : Nat)
    (found : List (Nat × Organism)) :
    ((pool.liveBelow bound found).map (value ·.2)).sum =
      total bound value pool.get? + (found.map (value ·.2)).sum := by
  induction bound generalizing found with
  | zero => simp [liveBelow, total]
  | succ bound ih =>
    unfold liveBelow
    have last : total (bound + 1) value pool.get? =
        total bound value pool.get? + (pool.get? bound).elim 0 value := Finset.sum_range_succ _ _
    split
    next vacant => rw [ih, last, vacant, Option.elim_none, add_zero]
    next org live => rw [ih, last, live, Option.elim_some, List.map_cons, List.sum_cons, add_assoc]

/-- The sum over the organisms of a pool is a total over its slots. -/
theorem sum_toList (pool : Pool) (value : Organism → M) :
    (pool.toList.map (value ·.2)).sum = total pool.capacity value pool.get? := by
  rw [toList, sum_liveBelow, List.map_nil, List.sum_nil, add_zero]

end Pool

end Vivarium
