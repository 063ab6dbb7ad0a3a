import Vivarium.Proofs.Isolation

/-!
# Slices cut in two

A slice may be interrupted between any two of its lines. The organism goes back to its slot and
is taken out again, which leaves no trace: all that it needs to go on is part of it, and the slot
stays allocated meanwhile, so that the stack of free slots does not move. The two parts together
do what the slice does as a whole, unless the first part has ended it, since a slice that has
ended is not continued by the rest of its lines while a new one is.

## Main result

- `World.runOrganism_add`: a slice of `n + m` lines is a slice of `n` lines and one of `m` lines,
  if none of the first `n` lines ends it.
-/
namespace Vivarium

/-- Whoever comes back to its slot is taken out again from the same pool. -/
theorem Pool.take_restore {pool : Pool} {slot : Nat} (lent : pool.LentOnly (some slot))
    (org : Organism) : (pool.restore slot org).take slot = some (org, pool) := by
  obtain ⟨-, map, -⟩ := restore_of_lent lent org
  have live : (pool.restore slot org).get? slot = some org := by
    rw [map, Function.update_self]
  have held : pool.slots[slot]? = some .lent := (lent.lent slot).mpr rfl
  have isLent : pool.isLent slot = true := (pool.isLent_iff slot).mpr held
  -- The slot is marked as lent once more, as it was before.
  have marked : pool.slots.setIfInBounds slot .lent = pool.slots := by
    refine Array.ext_getElem? fun other => ?_
    rw [Array.getElem?_setIfInBounds]
    split
    next same =>
      subst same
      have inside : slot < pool.slots.size := lt_capacity_of_getElem? held
      rw [if_pos inside, held]
    next => rfl
  simp only [take, live]
  simp only [restore, isLent, if_true, update, Array.setIfInBounds_setIfInBounds, marked]

namespace World

variable {ρ : Type} [DrawSource ρ] {world next : World ρ} {org after : Organism} {slot : Nat}

/-- None of the first so many lines kills the organism or ends its slice. A line that faults ends
everything and does neither. -/
def steady (slot : Nat) : (lines : Nat) → Organism → World ρ → Bool
  | 0, _, _ => true
  | lines + 1, org, world =>
    match world.executeLine slot org with
    | .ok (.next, org, world) => steady slot lines org world
    | .ok (.stop, _, _) => false
    | .ok (.die, _, _) => false
    | .error _ => true

/-- A steady slice passes all of its lines. -/
theorem passes_of_steady {lines : Nat} {fate : Fate} (holds : steady slot lines org world = true)
    (ran : executeLines slot lines org world = .ok (fate, after, next)) :
    fate = .alive ∧ Passes slot lines world org next after := by
  induction lines generalizing org world with
  | zero =>
    cases ran
    exact ⟨rfl, .refl _ _⟩
  | succ lines ih =>
    obtain ⟨⟨flow, middle, between⟩, line, rest⟩ := (bind_eq_ok_iff _ _ _).mp ran
    simp only [steady, line] at holds
    cases flow with
    | next =>
      obtain ⟨lives, passes⟩ := ih holds rest
      exact ⟨lives, .line line passes⟩
    | stop | die => cases holds

/-- The lines that are left are executed where the first ones have led. -/
theorem executeLines_add {lines : Nat} (more : Nat) (holds : steady slot lines org world = true) :
    executeLines slot (lines + more) org world = (do
      let (_, org, world) ← executeLines slot lines org world
      executeLines slot more org world) := by
  induction lines generalizing org world with
  | zero => rw [Nat.zero_add]; rfl
  | succ lines ih =>
    rw [Nat.succ_add]
    simp only [executeLines]
    cases line : world.executeLine slot org with
    | error fault => rfl
    | ok result =>
      obtain ⟨flow, middle, between⟩ := result
      simp only [steady, line] at holds
      cases flow with
      | next => exact ih holds
      | stop | die => cases holds

/-- Whatever the program is, and whatever its owner has done to the world: to execute the
organism of a slot for so many lines and then for some more is to execute it for all of them at
once, if none of the first lines kills it or ends its slice. Both have the same fate in the end,
or fault in the same way, and they lead to the same world, with all that it has told its view and
recorded of births. -/
theorem runOrganism_add {config : Config} (reachable : world.Reachable config) (slot n m : Nat)
    (holds : ∀ org pool, world.pool.take slot = some (org, pool) →
      steady slot n org { world with pool } = true) :
    world.runOrganism slot (n + m) = (do
      let (_, world) ← world.runOrganism slot n
      world.runOrganism slot m) := by
  cases taken : world.pool.take slot with
  | none => simp only [runOrganism, taken, bind, Except.bind]
  | some entry =>
    obtain ⟨org, pool⟩ := entry
    have steadily := holds org pool taken
    have out : pool.LentOnly (some slot) := (census_of_take reachable.lent taken).2.1
    have whole := executeLines_add m steadily
    simp only [runOrganism, taken, whole, bind, Except.bind]
    cases first : executeLines slot n org { world with pool } with
    | error fault => rfl
    | ok result =>
      obtain ⟨fate, after, next⟩ := result
      obtain ⟨rfl, passes⟩ := passes_of_steady steadily first
      have ready := (passes.deeds out).2
      simp only [settle, pure, Except.pure, Pool.take_restore ready after]

set_option maxRecDepth 20000 in
/-- An organism is placed that bears a child with its second line and starts over with its third
one. -/
theorem steady_family :
    ∃ (start world next : World Generator) (org : Organism) (pool : Pool),
      create .small (.ofSeed 7) true = .ok (.ok start) ∧
      start.perform (.spawnOrganism 5 [1, Opcode.clone.word] 3000) = .ok world ∧
      world.pool.take 2 = some (org, pool) ∧ steady 2 2 org { world with pool } = true ∧
      world.runOrganism 2 (2 + 2) = .ok (some .alive, next) ∧ next.births = 4 :=
  ⟨_, _, _, _, _, rfl, rfl, rfl, rfl, rfl, rfl⟩

/-- The child is born before the cut, and its parent goes on behind the cut where it was. -/
theorem runOrganism_add_family :
    ∃ world next : World Generator, world.Reachable .small ∧
      (∀ org pool, world.pool.take 2 = some (org, pool) →
        steady 2 2 org { world with pool } = true) ∧
      (do let (_, world) ← world.runOrganism 2 2
          world.runOrganism 2 2) = .ok (some .alive, next) ∧ next.births = 4 := by
  obtain ⟨start, world, next, org, pool, created, placed, taken, steadily, ran, births⟩ :=
    steady_family
  have reachable : world.Reachable .small := .called start world _ (.created _ _ _ created) placed
  have holds : ∀ org pool, world.pool.take 2 = some (org, pool) →
      steady 2 2 org { world with pool } = true := by
    intro other rest taken'
    rw [taken] at taken'
    cases taken'
    exact steadily
  exact ⟨world, next, reachable, holds, (runOrganism_add reachable 2 2 2 holds).symm.trans ran,
    births⟩

end World

end Vivarium
