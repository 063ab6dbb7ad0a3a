import Vivarium.Organism
import Vivarium.Bounded

/-!
# The pool

A fixed number of slots for organisms. A slot that is taken while its organism
executes is lent: it stays allocated until the organism comes back or is given
up. Free slots stand on a stack, so the slot freed last is the next one used.
-/
namespace Vivarium

/-- What a slot holds. -/
inductive PoolSlot where
  | free
  /-- Allocated; its organism executes outside the pool. -/
  | lent
  | live (org : Organism)

instance : Inhabited PoolSlot := ⟨.free⟩

/-- Slots for organisms. -/
structure Pool where
  slots : Array PoolSlot
  /-- Free slots, the next one to use first. -/
  free : List Nat
  /-- Slots that are not free. -/
  allocated : Nat

namespace Pool

def empty (capacity : Nat) : Pool :=
  { slots := Array.replicate capacity .free, free := List.range capacity, allocated := 0 }

/-- A pool of free slots, if there is room for them. -/
def create (capacity : Nat) : Outcome Pool := do
  reserve capacity Organism.bytes
  return empty capacity

def capacity (pool : Pool) : Nat := pool.slots.size

/-- Slots allocated, lent ones included. -/
def size (pool : Pool) : Nat := pool.allocated

def isEmpty (pool : Pool) : Bool := pool.allocated == 0

def isFull (pool : Pool) : Bool := pool.free.isEmpty

def get? (pool : Pool) (slot : Nat) : Option Organism :=
  match pool.slots[slot]? with
  | some (.live org) => some org
  | _ => none

def isLent (pool : Pool) (slot : Nat) : Bool :=
  match pool.slots[slot]? with
  | some .lent => true
  | _ => false

/-- Store an organism in the free slot that is next. -/
def insert (pool : Pool) (org : Organism) : Outcome (Option Nat × Pool) :=
  match pool.free with
  | [] => .ok (none, pool)
  | slot :: free =>
    if slot < pool.slots.size then do
      let allocated ← Count.add limit64 pool.allocated 1
      return (some slot, { slots := pool.slots.setIfInBounds slot (.live org), free, allocated })
    else .error .outOfRange

/-- Put a slot on the stack of free ones. -/
def freeSlot (pool : Pool) (slot : Nat) : Outcome Pool := do
  let allocated ← Count.sub pool.allocated 1
  return { slots := pool.slots.setIfInBounds slot .free, free := slot :: pool.free, allocated }

/-- Take the organism of a slot away and free the slot. -/
def remove (pool : Pool) (slot : Nat) : Outcome (Option Organism × Pool) :=
  match pool.get? slot with
  | none => .ok (none, pool)
  | some org => do
    let pool ← pool.freeSlot slot
    return (some org, pool)

/-- Put another state of the organism of a slot in its place. -/
def update (pool : Pool) (slot : Nat) (org : Organism) : Pool :=
  { pool with slots := pool.slots.setIfInBounds slot (.live org) }

/-- Lend the organism of a slot. -/
def take (pool : Pool) (slot : Nat) : Option (Organism × Pool) :=
  match pool.get? slot with
  | none => none
  | some org => some (org, { pool with slots := pool.slots.setIfInBounds slot .lent })

/-- Bring an organism back to the slot that it was lent from. -/
def restore (pool : Pool) (slot : Nat) (org : Organism) : Pool :=
  if pool.isLent slot then pool.update slot org else pool

/-- Free a slot whose organism does not come back. -/
def release (pool : Pool) (slot : Nat) : Outcome Pool :=
  if pool.isLent slot then pool.freeSlot slot else .ok pool

/-- Put the organisms of the slots below `bound` before those already found. -/
def liveBelow (pool : Pool) : (bound : Nat) → List (Nat × Organism) → List (Nat × Organism)
  | 0, found => found
  | slot + 1, found =>
    match pool.get? slot with
    | none => pool.liveBelow slot found
    | some org => pool.liveBelow slot ((slot, org) :: found)

/-- The organisms with their slots, in the order of the slots. -/
def toList (pool : Pool) : List (Nat × Organism) := pool.liveBelow pool.capacity []

theorem get?_update (pool : Pool) (slot other : Nat) (org : Organism)
    (inside : slot < pool.capacity) :
    (pool.update slot org).get? other = if other = slot then some org else pool.get? other := by
  unfold capacity at inside
  unfold update get?
  by_cases same : other = slot
  · subst same
    simp [inside]
  · simp [same, Ne.symm same]

theorem mem_liveBelow (pool : Pool) (bound slot : Nat) (org : Organism)
    (found : List (Nat × Organism)) :
    (slot, org) ∈ pool.liveBelow bound found ↔
      (slot < bound ∧ pool.get? slot = some org) ∨ (slot, org) ∈ found := by
  induction bound generalizing found with
  | zero => simp [liveBelow]
  | succ bound ih =>
    unfold liveBelow
    split
    next vacant =>
      rw [ih]
      constructor
      · rintro (⟨below, live⟩ | old)
        · exact .inl ⟨by omega, live⟩
        · exact .inr old
      · rintro (⟨below, live⟩ | old)
        · by_cases last : slot = bound
          · rw [last, vacant] at live
            contradiction
          · exact .inl ⟨by omega, live⟩
        · exact .inr old
    next other live =>
      rw [ih, List.mem_cons, Prod.mk.injEq]
      constructor
      · rintro (⟨below, here⟩ | ⟨rfl, rfl⟩ | old)
        · exact .inl ⟨by omega, here⟩
        · exact .inl ⟨by omega, live⟩
        · exact .inr old
      · rintro (⟨below, here⟩ | old)
        · by_cases last : slot = bound
          · rw [last, live] at here
            exact .inr (.inl ⟨last, (Option.some.inj here).symm⟩)
          · exact .inl ⟨by omega, here⟩
        · exact .inr (.inr old)

/-- The list holds the organisms that the slots do. -/
theorem mem_toList (pool : Pool) (slot : Nat) (org : Organism) :
    (slot, org) ∈ pool.toList ↔ pool.get? slot = some org := by
  unfold toList
  rw [mem_liveBelow]
  constructor
  · rintro (⟨_, live⟩ | old)
    · exact live
    · contradiction
  · intro live
    refine .inl ⟨?_, live⟩
    unfold get? at live
    apply Nat.lt_of_not_le
    intro outside
    rw [Array.getElem?_eq_none outside] at live
    contradiction

end Pool

end Vivarium
