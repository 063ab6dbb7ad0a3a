import Vivarium.Proofs.Census.Population
import Vivarium.Proofs.Grid.Painting

/-!
# Succession

A cataclysm replaces organisms one by one: a cell is drawn for the successor, the victim
is killed, and the successor is placed. The kill itself may write the cell that was
drawn, since the victim's cell shows again what lay beneath and a token it carried is
dropped on some empty cell. `Succession` says all that a replacement can do: spare the
victim, put a newcomer in its slot, or leave the slot empty because the cell was taken.
-/
namespace Vivarium.World

variable {ρ : Type} {world next : World ρ} {slot : Nat}

/-- A fresh organism, with an identity that the world has not given out yet. -/
def Newcomer (world : World ρ) (org : Organism) : Prop :=
  ∃ id offset energy code, world.nextId ≤ id ∧
    org = (Organism.fresh id offset energy world.config).setCode code world.config.codeMaxSize

/-- Whoever is adopted takes the slot on top of the stack. -/
theorem adopt_of_stack {org : Organism} {answer : Option Nat} {rest : List Nat}
    (adopted : world.adopt org = .ok (answer, next)) (lent : world.pool.LentOnly none)
    (stack : world.pool.free = slot :: rest) :
    answer = some slot ∧ next.pool.LentOnly none ∧
      next.pool.get? = Function.update world.pool.get? slot (some org) ∧
      next.pool.size = world.pool.size + 1 ∧ next.config = world.config ∧
      next.nextId = world.nextId := by
  rcases adopt_cases adopted with ⟨-, -, full⟩ | ⟨taken, pool, rfl, stored, rfl⟩
  · unfold Pool.isFull at full
    rw [stack] at full
    cases full
  · cases Pool.slot_of_insert stack stored
    obtain ⟨ready, -, -, -, map, -⟩ := Pool.insert_eq_some lent stored
    exact ⟨rfl, ready, map, Pool.size_of_insert stored, rfl, rfl⟩

/-- With a slot to spare and energy to give, only a cell that is taken can keep an organism
from being placed. -/
theorem spawnOrganism_of_stack {offset : Nat} {code : Genome} {energy : Int}
    {placed : Option Nat} {rest : List Nat}
    (spawned : world.spawnOrganism offset code energy = .ok (placed, next))
    (lent : world.pool.LentOnly none) (stack : world.pool.free = slot :: rest)
    (alive : 0 < energy) (inside : offset < world.grid.size) :
    (world.grid.get offset ≠ .empty ∧ placed = none ∧ next = world) ∨
      world.grid.get offset = .empty ∧ placed = some slot ∧ next.pool.LentOnly none ∧
        next.pool.get? = Function.update world.pool.get? slot
          (some ((Organism.fresh world.nextId offset energy world.config).setCode code
            world.config.codeMaxSize)) ∧
        next.pool.size = world.pool.size + 1 ∧ next.config = world.config ∧
        next.nextId = world.nextId + 1 := by
  have room : world.pool.isFull = false := by
    unfold Pool.isFull
    rw [stack]
    rfl
  rcases spawnOrganism_cases spawned with
    ⟨rfl, rfl, refused⟩ | ⟨⟨-, -, -, vacant⟩, adopted⟩
  · rcases refused with starved | full | outside | taken
    · omega
    · rw [room] at full
      cases full
    · omega
    · exact .inl ⟨taken, rfl, rfl⟩
  · obtain ⟨answer, ready, map, size, config, nextId⟩ := adopt_of_stack adopted lent stack
    exact .inr ⟨vacant, answer, ready, map, size, config, nextId⟩

section Drawing

variable [DrawSource ρ]

/-- The slot of whoever is killed is on top of the stack. -/
theorem kill_of_live {victim : Organism} {done : Bool}
    (killed : world.kill slot = .ok (done, next)) (lent : world.pool.LentOnly none)
    (live : world.pool.get? slot = some victim) :
    done = true ∧ next.pool.LentOnly none ∧
      next.pool.get? = Function.update world.pool.get? slot none ∧
      next.pool.size + 1 = world.pool.size ∧ next.pool.free = slot :: world.pool.free ∧
      next.config = world.config ∧ next.nextId = world.nextId := by
  obtain ⟨-, -, vacant⟩ | ⟨org, pool, rfl, taken, burying⟩ := kill_cases killed
  · rw [live] at vacant
    cases vacant
  · obtain ⟨-, ready, map, -⟩ := Pool.remove_eq_some lent taken
    obtain ⟨counted, size⟩ := Pool.size_of_remove taken
    obtain ⟨totalEnergy, grid, surfaces, source, rfl⟩ := counts_of_bury burying
    refine ⟨rfl, ready, map, ?_, Pool.free_of_remove taken, rfl, rfl⟩
    simp only
    omega

/-- There is energy and an empty cell for a successor, but once the victim is dead the cell
is no longer empty. -/
def Crowds (world : World ρ) (slot : Nat) (victim : Organism) : Prop :=
  ∃ room available offset source left, world.headroom = .ok room ∧
    Amount.add room victim.energy = .ok available ∧
    0 < min world.config.orgEnergy available ∧
    world.grid.randomEmpty restoreAttempts world.source = .ok (some offset, source) ∧
    { world with source }.kill slot = .ok (true, left) ∧ left.grid.get offset ≠ .empty

/-- What a replacement can do, and whether the victim was replaced. -/
inductive Succession (world : World ρ) (slot : Nat) (victim : Organism) :
    Bool → World ρ → Prop where
  /-- There is no cell or no energy for a successor. -/
  | spared (source : ρ) (harmless : ¬world.Crowds slot victim) :
      Succession world slot victim false { world with source }
  | succeeded (next : World ρ) (fresh : Organism) (harmless : ¬world.Crowds slot victim)
      (lent : next.pool.LentOnly none)
      (map : next.pool.get? = Function.update world.pool.get? slot (some fresh))
      (newcomer : world.Newcomer fresh) (size : next.pool.size = world.pool.size)
      (config : next.config = world.config) (nextId : world.nextId ≤ next.nextId) :
      Succession world slot victim true next
  | crowdedOut (next : World ρ) (crowds : world.Crowds slot victim)
      (lent : next.pool.LentOnly none)
      (map : next.pool.get? = Function.update world.pool.get? slot none)
      (size : next.pool.size + 1 = world.pool.size) (config : next.config = world.config)
      (nextId : world.nextId ≤ next.nextId) : Succession world slot victim false next

/-- The slot of the victim is free again and there is energy, so all depends on the cell that
was drawn before the victim was killed. -/
theorem spawnOrganism_of_kill {victim : Organism} {offset : Nat} {source : ρ} {done : Bool}
    {left coded : World ρ} {code : Genome} {energy : Int} {successor : Option Nat}
    (lent : world.pool.LentOnly none) (live : world.pool.get? slot = some victim)
    (drawn : world.grid.randomEmpty restoreAttempts world.source = .ok (some offset, source))
    (killing : { world with source }.kill slot = .ok (done, left))
    (coding : left.randomCode = .ok (code, coded)) (alive : 0 < energy)
    (spawning : coded.spawnOrganism offset code energy = .ok (successor, next)) :
    done = true ∧
      ((left.grid.get offset ≠ .empty ∧ successor = none ∧ next.pool.LentOnly none ∧
        next.pool.get? = Function.update world.pool.get? slot none ∧
        next.pool.size + 1 = world.pool.size ∧ next.config = world.config ∧
        world.nextId ≤ next.nextId) ∨
      ∃ fresh, left.grid.get offset = .empty ∧ successor = some slot ∧ next.pool.LentOnly none ∧
        next.pool.get? = Function.update world.pool.get? slot (some fresh) ∧
        world.Newcomer fresh ∧ next.pool.size = world.pool.size ∧ next.config = world.config ∧
        world.nextId ≤ next.nextId) := by
  obtain ⟨-, source', rfl⟩ := drawn_of_world_randomCode coding
  obtain ⟨rfl, ready, map, size, stack, config, nextId⟩ := kill_of_live killing lent live
  obtain ⟨drawnInside, -⟩ := Grid.free_of_randomEmpty drawn
  obtain ⟨-, -, -, sameSize⟩ := (kill_paints _ slot _ killing).frame
  simp only at spawning map size config nextId
  have inside : offset < left.grid.size := sameSize.symm ▸ drawnInside
  refine ⟨rfl, ?_⟩
  rcases spawnOrganism_of_stack spawning ready stack alive inside with
    ⟨taken, rfl, rfl⟩ | ⟨vacant, rfl, ready', map', size', config', nextId'⟩
  · exact .inl ⟨taken, rfl, ready, map, size, config, Nat.le_of_eq nextId.symm⟩
  · simp only at vacant map' size' config' nextId'
    rw [map, Function.update_idem, config] at map'
    refine .inr ⟨_, vacant, rfl, ready', map', ?_, ?_, config'.trans config, ?_⟩
    · exact ⟨left.nextId, offset, _, code, Nat.le_of_eq nextId.symm, rfl⟩
    · omega
    · omega

theorem succession_of_replace {victim : Organism} {fresh : Bool}
    (lent : world.pool.LentOnly none) (live : world.pool.get? slot = some victim)
    (replaced : world.replace slot victim = .ok (fresh, next)) :
    world.Succession slot victim fresh next := by
  obtain ⟨room, headroom, replaced⟩ := (bind_eq_ok_iff _ _ _).mp replaced
  obtain ⟨available, added, replaced⟩ := (bind_eq_ok_iff _ _ _).mp replaced
  obtain ⟨⟨found, source⟩, drawn, replaced⟩ := (bind_eq_ok_iff _ _ _).mp replaced
  simp only at replaced
  split at replaced
  next =>
    -- No empty cell was drawn.
    cases replaced
    refine .spared source ?_
    rintro ⟨_, _, offset, _, _, -, -, -, drawn', -⟩
    rw [drawn] at drawn'
    cases drawn'
  next offset =>
    split at replaced
    next starved =>
      cases replaced
      refine .spared source ?_
      rintro ⟨_, _, _, _, _, headroom', added', alive, -⟩
      rw [headroom] at headroom'
      cases headroom'
      rw [added] at added'
      cases added'
      omega
    next fed =>
      obtain ⟨⟨done, left⟩, killing, replaced⟩ := (bind_eq_ok_iff _ _ _).mp replaced
      obtain ⟨⟨code, coded⟩, coding, replaced⟩ := (bind_eq_ok_iff _ _ _).mp replaced
      obtain ⟨⟨successor, spawned⟩, spawning, answer⟩ := (bind_eq_ok_iff _ _ _).mp replaced
      cases answer
      have alive := Int.not_le.mp fed
      obtain ⟨rfl, ⟨taken, rfl, ready, map, size, config, nextId⟩ |
          ⟨fresh, vacant, rfl, ready, map, newcomer, size, config, nextId⟩⟩ :=
        spawnOrganism_of_kill lent live drawn killing coding alive spawning
      · have crowds : world.Crowds slot victim :=
          ⟨room, available, offset, source, left, headroom, added, alive, drawn, killing, taken⟩
        exact .crowdedOut _ crowds ready map size config nextId
      · have harmless : ¬world.Crowds slot victim := by
          rintro ⟨_, _, _, _, left', -, -, -, drawn', killing', taken⟩
          rw [drawn] at drawn'
          cases drawn'
          rw [killing] at killing'
          cases killing'
          exact taken vacant
        exact .succeeded spawned fresh harmless ready map newcomer size config nextId

end Drawing

end Vivarium.World
