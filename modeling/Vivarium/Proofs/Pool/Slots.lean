import Mathlib.Data.List.Perm.Subperm
import Mathlib.Logic.Function.Basic
import Vivarium.Pool

/-!
# The slots of a pool

A pool is a map from slots to organisms with a stack of free slots beside it.
`Pool.Consistent` ties the two together, and each operation is described by what
it does to the map: it updates one slot or leaves the map alone.
-/
namespace Vivarium

/-- The organism that a slot holds. -/
def PoolSlot.organism? : PoolSlot → Option Organism
  | .live org => some org
  | _ => none

namespace Pool

/-- The stack holds exactly the free slots, each once, and all others are counted. -/
structure Consistent (pool : Pool) : Prop where
  nodup : pool.free.Nodup
  mem_free : ∀ slot, slot ∈ pool.free ↔ pool.slots[slot]? = some .free
  allocated : pool.allocated + pool.free.length = pool.capacity

/-- The pool is consistent and the organism of no slot but `out` is outside of it. -/
structure LentOnly (pool : Pool) (out : Option Nat) : Prop where
  consistent : pool.Consistent
  lent : ∀ slot, pool.slots[slot]? = some .lent ↔ out = some slot

/-! ### Reading slots -/

theorem get?_eq_some_iff (pool : Pool) (slot : Nat) (org : Organism) :
    pool.get? slot = some org ↔ pool.slots[slot]? = some (.live org) := by
  unfold get?
  split
  next live => simp [live]
  next other => constructor <;> simp_all

theorem isLent_iff (pool : Pool) (slot : Nat) :
    pool.isLent slot = true ↔ pool.slots[slot]? = some .lent := by
  unfold isLent
  split
  next lent => simp [lent]
  next other => simp_all

theorem get?_eq_bind (pool : Pool) :
    pool.get? = fun slot => pool.slots[slot]?.bind PoolSlot.organism? := by
  funext slot
  unfold get?
  split
  next live => simp [live, PoolSlot.organism?]
  next other =>
    cases held : pool.slots[slot]? with
    | none => rfl
    | some state =>
      cases state with
      | free | lent => rfl
      | live org => exact absurd held (other org)

theorem lt_capacity_of_getElem? {pool : Pool} {slot : Nat} {state : PoolSlot}
    (held : pool.slots[slot]? = some state) : slot < pool.capacity := by
  obtain ⟨inside, _⟩ := Array.getElem?_eq_some_iff.mp held
  exact inside

/-- Writing one slot changes the map there and nowhere else. -/
theorem get?_setSlot (pool : Pool) (slot : Nat) (state : PoolSlot) (free : List Nat)
    (allocated : Nat) (inside : slot < pool.capacity) :
    ({ slots := pool.slots.setIfInBounds slot state, free, allocated } : Pool).get?
      = Function.update pool.get? slot state.organism? := by
  rw [get?_eq_bind, get?_eq_bind]
  funext other
  unfold capacity at inside
  by_cases same : other = slot
  · subst same
    simp [inside]
  · simp [same, Ne.symm same]

/-! ### The free slots -/

theorem consistent_empty (capacity : Nat) : (empty capacity).Consistent where
  nodup := List.nodup_range
  mem_free slot := by
    by_cases inside : slot < capacity <;> simp [empty, inside]
  allocated := by simp [empty, Pool.capacity]

theorem lentOnly_empty (capacity : Nat) : (empty capacity).LentOnly none where
  consistent := consistent_empty capacity
  lent slot := by
    by_cases inside : slot < capacity <;> simp [empty, inside]

theorem get?_empty (capacity slot : Nat) : (empty capacity).get? slot = none := by
  rw [get?_eq_bind]
  by_cases inside : slot < capacity <;>
    simp [empty, inside, PoolSlot.organism?]

/-- A slot that stays allocated may change what it holds. -/
theorem Consistent.setSlot {pool : Pool} (consistent : pool.Consistent) {slot : Nat}
    {before after : PoolSlot} (held : pool.slots[slot]? = some before)
    (wasAllocated : before ≠ .free) (isAllocated : after ≠ .free) :
    ({ pool with slots := pool.slots.setIfInBounds slot after } : Pool).Consistent where
  nodup := consistent.nodup
  mem_free other := by
    have inside := lt_capacity_of_getElem? held
    rw [consistent.mem_free, Array.getElem?_setIfInBounds]
    by_cases same : slot = other
    · subst same
      rw [held, if_pos rfl, if_pos (show slot < pool.slots.size from inside)]
      simp [wasAllocated, isAllocated]
    · simp [same]
  allocated := by simpa [Pool.capacity] using consistent.allocated

/-- A slot that is not free is counted. -/
theorem Consistent.allocated_pos {pool : Pool} (consistent : pool.Consistent) {slot : Nat}
    {state : PoolSlot} (held : pool.slots[slot]? = some state) (isAllocated : state ≠ .free) :
    1 ≤ pool.allocated := by
  have notFree : slot ∉ pool.free := by
    rw [consistent.mem_free, held, Option.some.injEq]
    exact isAllocated
  have inside : slot :: pool.free ⊆ List.range pool.capacity := by
    intro other member
    rw [List.mem_range]
    rcases List.mem_cons.mp member with rfl | member
    · exact lt_capacity_of_getElem? held
    · exact lt_capacity_of_getElem? ((consistent.mem_free other).mp member)
  have fewer := (List.subperm_of_subset
    (List.nodup_cons.mpr ⟨notFree, consistent.nodup⟩) inside).length_le
  have total := consistent.allocated
  rw [List.length_cons, List.length_range] at fewer
  omega

/-- The top of the stack may be put to use. -/
theorem Consistent.occupy {pool : Pool} (consistent : pool.Consistent) {slot : Nat}
    {rest : List Nat} (stack : pool.free = slot :: rest) (org : Organism) :
    ({ slots := pool.slots.setIfInBounds slot (.live org), free := rest,
       allocated := pool.allocated + 1 } : Pool).Consistent := by
  have vacant : pool.slots[slot]? = some .free :=
    (consistent.mem_free slot).mp (by simp [stack])
  have inside : slot < pool.slots.size := lt_capacity_of_getElem? vacant
  have fresh : slot ∉ rest ∧ rest.Nodup := by
    simpa [stack] using consistent.nodup
  refine ⟨fresh.2, ?_, ?_⟩
  -- The stack loses its top, which is the one slot that is no longer free.
  · intro other
    have old := consistent.mem_free other
    rw [stack, List.mem_cons] at old
    rw [Array.getElem?_setIfInBounds]
    by_cases same : slot = other
    · subst same
      simp [fresh.1, inside]
    · simp [same, ← old, Ne.symm same]
  · have total := consistent.allocated
    simp only [stack, List.length_cons, Pool.capacity, Array.size_setIfInBounds] at total ⊢
    omega

/-- An allocated slot may be given back; it is not on the stack, so it can be pushed. -/
theorem Consistent.vacate {pool : Pool} (consistent : pool.Consistent) {slot : Nat}
    {state : PoolSlot} (held : pool.slots[slot]? = some state) (wasAllocated : state ≠ .free) :
    ({ slots := pool.slots.setIfInBounds slot .free, free := slot :: pool.free,
       allocated := pool.allocated - 1 } : Pool).Consistent := by
  have inside : slot < pool.slots.size := lt_capacity_of_getElem? held
  have fresh : slot ∉ pool.free := by
    rw [consistent.mem_free, held]
    simpa using wasAllocated
  refine ⟨List.nodup_cons.mpr ⟨fresh, consistent.nodup⟩, ?_, ?_⟩
  · intro other
    rw [List.mem_cons, Array.getElem?_setIfInBounds, consistent.mem_free]
    by_cases same : slot = other
    · subst same
      simp [inside]
    · simp [same, Ne.symm same]
  · have total := consistent.allocated
    have counted := consistent.allocated_pos held wasAllocated
    simp only [List.length_cons, Pool.capacity, Array.size_setIfInBounds] at total ⊢
    omega

/-- The next free slot is taken. -/
theorem insert_eq_some {pool next : Pool} {org : Organism} {slot : Nat} {out : Option Nat}
    (ready : pool.LentOnly out) (inserted : pool.insert org = .ok (some slot, next)) :
    next.LentOnly out ∧ slot < pool.capacity ∧ pool.get? slot = none ∧ out ≠ some slot ∧
      next.get? = Function.update pool.get? slot (some org) ∧ next.capacity = pool.capacity := by
  unfold insert at inserted
  cases stack : pool.free with
  | nil => simp [stack] at inserted
  | cons top rest =>
    simp only [stack] at inserted
    split at inserted
    next inside =>
      obtain ⟨allocated, counted, answer⟩ := (bind_eq_ok_iff _ _ _).mp inserted
      simp only [pure_eq_ok_iff, Prod.mk.injEq, Option.some.injEq] at answer
      obtain ⟨rfl, rfl⟩ := answer
      obtain ⟨-, rfl⟩ := (Count.add_eq_ok_iff _ _ _ _).mp counted
      have consistent := ready.consistent
      have vacant : pool.slots[top]? = some .free :=
        (consistent.mem_free top).mp (by simp [stack])
      refine ⟨⟨consistent.occupy stack org, ?_⟩, inside, ?_, ?_, ?_, ?_⟩
      · intro other
        have old := ready.lent other
        rw [Array.getElem?_setIfInBounds]
        by_cases same : top = other
        · subst same
          rw [vacant] at old
          simpa [inside] using old
        · simpa [same] using old
      · rw [get?_eq_bind]
        simp [vacant, PoolSlot.organism?]
      · intro lent
        rw [(ready.lent top).mpr lent] at vacant
        cases vacant
      · exact get?_setSlot pool top (.live org) rest (pool.allocated + 1) inside
      · simp [Pool.capacity]
    next => simp at inserted

theorem insert_eq_none {pool next : Pool} {org : Organism}
    (inserted : pool.insert org = .ok (none, next)) : next = pool ∧ pool.isFull = true := by
  unfold insert at inserted
  cases stack : pool.free with
  | nil =>
    simp only [stack, Except.ok.injEq, Prod.mk.injEq, true_and] at inserted
    exact ⟨inserted.symm, by simp [isFull, stack]⟩
  | cons top rest =>
    simp only [stack] at inserted
    split at inserted
    next inside =>
      obtain ⟨allocated, _, answer⟩ := (bind_eq_ok_iff _ _ _).mp inserted
      simp [pure_eq_ok_iff] at answer
    next => simp at inserted

/-- An allocated slot becomes free and the next one to be taken. -/
theorem freeSlot_eq_ok {pool next : Pool} {slot : Nat} {state : PoolSlot} {out : Option Nat}
    (ready : pool.LentOnly out) (held : pool.slots[slot]? = some state)
    (wasAllocated : state ≠ .free) (freed : pool.freeSlot slot = .ok next) :
    next.LentOnly (if out = some slot then none else out) ∧
      next.get? = Function.update pool.get? slot none ∧ next.capacity = pool.capacity := by
  unfold freeSlot at freed
  obtain ⟨allocated, counted, answer⟩ := (bind_eq_ok_iff _ _ _).mp freed
  rw [pure_eq_ok_iff] at answer
  subst answer
  obtain ⟨-, rfl⟩ := (Count.sub_eq_ok_iff _ _ _).mp counted
  have inside : slot < pool.slots.size := lt_capacity_of_getElem? held
  refine ⟨⟨ready.consistent.vacate held wasAllocated, ?_⟩,
    get?_setSlot pool slot .free _ (pool.allocated - 1) inside, ?_⟩
  · intro other
    rw [Array.getElem?_setIfInBounds]
    by_cases same : slot = other
    · subst same
      simp [inside]
    · have old := ready.lent other
      by_cases lent : out = some slot
      · simpa [same, lent] using old
      · simpa [same, lent] using old
  · simp [Pool.capacity]

/-! ### The operations on slots -/

theorem remove_eq_some {pool next : Pool} {slot : Nat} {org : Organism} {out : Option Nat}
    (ready : pool.LentOnly out) (removed : pool.remove slot = .ok (some org, next)) :
    pool.get? slot = some org ∧ next.LentOnly out ∧
      next.get? = Function.update pool.get? slot none ∧ next.capacity = pool.capacity := by
  unfold remove at removed
  cases live : pool.get? slot with
  | none => simp [live] at removed
  | some resident =>
    simp only [live] at removed
    obtain ⟨pool', freed, answer⟩ := (bind_eq_ok_iff _ _ _).mp removed
    simp only [pure_eq_ok_iff, Prod.mk.injEq, Option.some.injEq] at answer
    obtain ⟨rfl, rfl⟩ := answer
    have held := (pool.get?_eq_some_iff slot resident).mp live
    obtain ⟨freedReady, map, size⟩ := freeSlot_eq_ok ready held (by simp) freed
    have inPool : out ≠ some slot := by
      intro lent
      rw [(ready.lent slot).mpr lent] at held
      cases held
    rw [if_neg inPool] at freedReady
    exact ⟨rfl, freedReady, map, size⟩

theorem remove_eq_none {pool next : Pool} {slot : Nat}
    (removed : pool.remove slot = .ok (none, next)) : pool.get? slot = none ∧ next = pool := by
  unfold remove at removed
  cases live : pool.get? slot with
  | none =>
    simp only [live, Except.ok.injEq, Prod.mk.injEq, true_and] at removed
    exact ⟨rfl, removed.symm⟩
  | some resident =>
    simp only [live] at removed
    obtain ⟨pool', _, answer⟩ := (bind_eq_ok_iff _ _ _).mp removed
    simp [pure_eq_ok_iff] at answer

theorem update_of_get? {pool : Pool} {slot : Nat} {before : Organism} {out : Option Nat}
    (ready : pool.LentOnly out) (live : pool.get? slot = some before) (after : Organism) :
    (pool.update slot after).LentOnly out ∧
      (pool.update slot after).get? = Function.update pool.get? slot (some after) ∧
      (pool.update slot after).capacity = pool.capacity := by
  have held := (pool.get?_eq_some_iff slot before).mp live
  have inside := lt_capacity_of_getElem? held
  refine ⟨⟨ready.consistent.setSlot held (by simp) (by simp), ?_⟩, ?_, ?_⟩
  · intro other
    have old := ready.lent other
    unfold update
    rw [Array.getElem?_setIfInBounds]
    by_cases same : slot = other
    · subst same
      rw [held] at old
      simpa [show slot < pool.slots.size from inside] using old
    · simpa [same] using old
  · exact get?_setSlot pool slot (.live after) _ _ inside
  · simp [update, Pool.capacity]

/-- Lending takes the organism out of the map. -/
theorem take_eq_some {pool next : Pool} {slot : Nat} {org : Organism}
    (ready : pool.LentOnly none) (taken : pool.take slot = some (org, next)) :
    pool.get? slot = some org ∧ next.LentOnly (some slot) ∧
      next.get? = Function.update pool.get? slot none ∧ next.capacity = pool.capacity := by
  unfold take at taken
  cases live : pool.get? slot with
  | none => simp [live] at taken
  | some resident =>
    simp only [live, Option.some.injEq, Prod.mk.injEq] at taken
    obtain ⟨rfl, rfl⟩ := taken
    have held := (pool.get?_eq_some_iff slot resident).mp live
    have inside := lt_capacity_of_getElem? held
    refine ⟨rfl, ⟨ready.consistent.setSlot held (by simp) (by simp), ?_⟩, ?_, ?_⟩
    · intro other
      have old := ready.lent other
      rw [Array.getElem?_setIfInBounds]
      by_cases same : slot = other
      · subst same
        simp [show slot < pool.slots.size from inside]
      · simpa [same] using old
    · exact get?_setSlot pool slot .lent _ _ inside
    · simp [Pool.capacity]

/-- What comes back enters the map again. -/
theorem restore_of_lent {pool : Pool} {slot : Nat} (ready : pool.LentOnly (some slot))
    (org : Organism) :
    (pool.restore slot org).LentOnly none ∧
      (pool.restore slot org).get? = Function.update pool.get? slot (some org) ∧
      (pool.restore slot org).capacity = pool.capacity := by
  have held : pool.slots[slot]? = some .lent := (ready.lent slot).mpr rfl
  have inside := lt_capacity_of_getElem? held
  have lent : pool.isLent slot = true := (pool.isLent_iff slot).mpr held
  -- The slot is lent, so nothing that lives in it is overwritten.
  have restored : pool.restore slot org = pool.update slot org := by
    simp [restore, lent]
  rw [restored]
  refine ⟨⟨ready.consistent.setSlot held (by simp) (by simp), ?_⟩, ?_, ?_⟩
  · intro other
    have old := ready.lent other
    unfold update
    rw [Array.getElem?_setIfInBounds]
    by_cases same : slot = other
    · subst same
      simp [show slot < pool.slots.size from inside]
    · simpa [same] using old
  · exact get?_setSlot pool slot (.live org) _ _ inside
  · simp [update, Pool.capacity]

/-- A slot that is lent is not in the map, so giving it up leaves the map alone. -/
theorem release_of_lent {pool next : Pool} {slot : Nat} (ready : pool.LentOnly (some slot))
    (released : pool.release slot = .ok next) :
    next.LentOnly none ∧ next.get? = Function.update pool.get? slot none ∧
      next.capacity = pool.capacity := by
  have held : pool.slots[slot]? = some .lent := (ready.lent slot).mpr rfl
  have lent : pool.isLent slot = true := (pool.isLent_iff slot).mpr held
  simp only [release, lent, if_true] at released
  simpa using freeSlot_eq_ok ready held (by simp) released

/-! ### Sizes -/

variable {pool next : Pool} {slot : Nat} {org : Organism}

theorem size_of_insert (inserted : pool.insert org = .ok (some slot, next)) :
    next.size = pool.size + 1 := by
  unfold insert at inserted
  split at inserted
  · cases inserted
  · split at inserted
    · obtain ⟨allocated, counted, answer⟩ := (bind_eq_ok_iff _ _ _).mp inserted
      cases answer
      exact ((Count.add_eq_ok_iff _ _ _ _).mp counted).2
    · cases inserted

theorem size_of_freeSlot (freed : pool.freeSlot slot = .ok next) :
    1 ≤ pool.size ∧ next.size = pool.size - 1 := by
  obtain ⟨allocated, counted, answer⟩ := (bind_eq_ok_iff _ _ _).mp freed
  cases answer
  exact (Count.sub_eq_ok_iff _ _ _).mp counted

theorem size_of_remove (removed : pool.remove slot = .ok (some org, next)) :
    1 ≤ pool.size ∧ next.size = pool.size - 1 := by
  unfold remove at removed
  split at removed
  · cases removed
  · obtain ⟨freed, freeing, answer⟩ := (bind_eq_ok_iff _ _ _).mp removed
    cases answer
    exact size_of_freeSlot freeing

theorem size_of_take (taken : pool.take slot = some (org, next)) : next.size = pool.size := by
  unfold take at taken
  split at taken
  · cases taken
  · cases taken
    rfl

theorem size_restore (pool : Pool) (slot : Nat) (org : Organism) :
    (pool.restore slot org).size = pool.size := by
  unfold restore
  split <;> rfl

theorem size_of_release (ready : pool.LentOnly (some slot))
    (released : pool.release slot = .ok next) : 1 ≤ pool.size ∧ next.size = pool.size - 1 := by
  have lent : pool.isLent slot = true := (pool.isLent_iff slot).mpr ((ready.lent slot).mpr rfl)
  unfold release at released
  rw [if_pos lent] at released
  exact size_of_freeSlot released

/-! ### The stack -/

/-- The slot on top is the one that is used. -/
theorem slot_of_insert {answer : Option Nat} {rest : List Nat} (stack : pool.free = slot :: rest)
    (inserted : pool.insert org = .ok (answer, next)) : answer = some slot := by
  unfold insert at inserted
  rw [stack] at inserted
  simp only at inserted
  split at inserted
  · obtain ⟨allocated, _, answer⟩ := (bind_eq_ok_iff _ _ _).mp inserted
    cases answer
    rfl
  · cases inserted

theorem free_of_remove (removed : pool.remove slot = .ok (some org, next)) :
    next.free = slot :: pool.free := by
  unfold remove at removed
  split at removed
  · cases removed
  · obtain ⟨freed, freeing, answer⟩ := (bind_eq_ok_iff _ _ _).mp removed
    cases answer
    obtain ⟨allocated, _, answer⟩ := (bind_eq_ok_iff _ _ _).mp freeing
    cases answer
    rfl

end Pool

end Vivarium
