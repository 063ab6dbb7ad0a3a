import Vivarium.Proofs.Outcomes
import Vivarium.Proofs.Scene

/-!
# The scene of a world

A world at rest shows the organisms of its pool. While one of them executes it is
outside of the pool, and its slot is lent; the scene shows it in its slot all the
same. Here are the operations that a world performs in both situations: to charge
and to credit, to take in and to take out, and to change a surface.
-/
namespace Vivarium

namespace Pool

/-- The bodies of the organisms in a pool. -/
def bodies (pool : Pool) : Nat → Option Body :=
  fun slot => (pool.get? slot).map Organism.body

theorem bodies_update {pool next : Pool} {slot : Nat} {held : Option Organism}
    (map : next.get? = Function.update pool.get? slot held) :
    next.bodies = Function.update pool.bodies slot (held.map Organism.body) := by
  funext other
  simp only [bodies, map, Function.update_apply]
  split <;> rfl

theorem bodies_eq_some {pool : Pool} {slot : Nat} {org : Organism}
    (live : pool.get? slot = some org) : pool.bodies slot = some org.body := by
  simp [bodies, live]

end Pool

namespace World

variable {ρ : Type}

/-- The scene of a world with certain residents, of which one may execute. -/
def sceneWith (world : World ρ) (residents : Nat → Option Body) (acting : Option Nat) : Scene where
  config := world.config
  grid := world.grid
  surfaces := world.surfaces
  residents := residents
  acting := acting
  capacity := world.pool.capacity
  totalEnergy := world.totalEnergy
  nextId := world.nextId
  iteration := world.iteration
  births := world.births
  deaths := world.deaths
  lineage := world.lineage

/-- The scene of a world at rest. -/
def scene (world : World ρ) : Scene := world.sceneWith world.pool.bodies none

/-- The scene of a world while the organism of a slot executes outside of the pool. -/
def during (world : World ρ) (slot : Nat) (body : Body) : Scene :=
  world.sceneWith (Function.update world.pool.bodies slot (some body)) (some slot)

/-! ### Residents -/

theorem resident_during (world : World ρ) (slot : Nat) (body : Body) :
    (world.during slot body).residents slot = some body := by
  simp [during, sceneWith]

theorem seat_during (world : World ρ) (slot : Nat) (before after : Body) :
    (world.during slot before).seat slot after = world.during slot after := by
  simp [during, sceneWith, Scene.seat]

theorem furnish_during (world : World ρ) (slot kind : Nat) (body : Body) (surface : Surface)
    (grid : Grid) :
    (world.during slot body).furnish kind surface grid =
      { world with surfaces := world.surfaces.set kind surface, grid }.during slot body := rfl

/-- A change to another organism is made in the pool. -/
theorem seat_during_pool {world : World ρ} {pool : Pool} {slot other : Nat} {resident : Body}
    (elsewhere : other ≠ slot)
    (bodies : pool.bodies = Function.update world.pool.bodies other (some resident))
    (capacity : pool.capacity = world.pool.capacity) (before after : Body) :
    ((world.during slot before).seat other resident).seat slot after =
      { world with pool }.during slot after := by
  simp only [during, sceneWith, Scene.seat, bodies, capacity]
  rw [Function.update_comm elsewhere, Function.update_idem, Function.update_comm elsewhere.symm]

theorem earn_during (world : World ρ) (slot : Nat) (body : Body) (amount : Int) :
    (world.during slot body).earn slot body amount =
      { world with totalEnergy := world.totalEnergy + amount }.during slot
        { body with energy := body.energy + amount } := by
  simp [during, sceneWith, Scene.earn, Scene.seat]

/-! ### Birth -/

/-- An organism that is taken in gets a free slot, at rest or while another organism
executes. Its identity has been allocated before. -/
theorem adopt_eq_some {world next : World ρ} {org : Organism} {slot id : Nat}
    {out : Option Nat} (adopted : world.adopt org = .ok (some slot, next))
    (ready : world.pool.LentOnly out) (allocated : world.nextId = id + 1) :
    next.pool.LentOnly out ∧ slot < world.pool.capacity ∧ world.pool.bodies slot = none ∧
      out ≠ some slot ∧
      next.scene = { world with nextId := id }.scene.receive slot org.body org.code ∧
      ∀ other body, other ≠ slot →
        next.during other body =
          ({ world with nextId := id }.during other body).receive slot org.body org.code := by
  obtain ⟨refused, -⟩ | ⟨taken, pool, answer, stored, rfl⟩ := adopt_cases adopted
  · cases refused
  · cases answer
    -- The pool gives out a free slot, so never the one that is lent.
    obtain ⟨lent, inside, vacant, notOut, map, capacity⟩ := Pool.insert_eq_some ready stored
    have bodies := Pool.bodies_update map
    refine ⟨lent, inside, by simp [Pool.bodies, vacant], notOut, ?_, fun other body elsewhere => ?_⟩
    · simp only [scene, sceneWith, Scene.receive, Scene.seat, bodies, capacity, allocated]
      rfl
    · simp only [during, sceneWith, Scene.receive, Scene.seat, bodies, capacity, allocated]
      rw [Function.update_comm elsewhere]
      rfl

theorem adopt_eq_none {world next : World ρ} {org : Organism}
    (adopted : world.adopt org = .ok (none, next)) : world.pool.isFull = true := by
  obtain ⟨-, -, full⟩ | ⟨taken, pool, answer, -⟩ := adopt_cases adopted
  · exact full
  · cases answer

/-! ### Death -/

section Drawing

variable [DrawSource ρ]

theorem bury_eq_ok {world next : World ρ} {org : Organism} (buried : world.bury org = .ok next)
    (residents : Nat → Option Body) (acting : Option Nat) (slot : Nat) :
    Scene.Departure (world.sceneWith residents acting) slot org.body
        (next.sceneWith (Function.update residents slot none)
          (if acting = some slot then none else acting)) ∧
      next.pool = world.pool := by
  -- What becomes of the packet distinguishes the departures.
  cases bury_cases buried with
  | emptyHanded carried => exact ⟨.emptyHanded carried, rfl⟩
  | homeless packet carried unknown => exact ⟨.homeless packet carried unknown, rfl⟩
  | @carrying packet surface _ _ _ _ carried own back =>
    refine ⟨?_, rfl⟩
    rcases Surface.restore_eq_ok back with ⟨rfl, rfl⟩ | ⟨offset, free, laid⟩
    · exact .lost packet surface carried own
    · cases laid
      exact .restored packet surface offset carried own free

/-- Whoever is killed departs, at rest or while another organism executes. -/
theorem kill_eq_ok {world next : World ρ} {slot : Nat} {done : Bool} {out : Option Nat}
    (ready : world.pool.LentOnly out) (killed : world.kill slot = .ok (done, next)) :
    (world.pool.get? slot = none ∧ next = world) ∨
      ∃ org, world.pool.get? slot = some org ∧ next.pool.LentOnly out ∧
        Scene.Departure world.scene slot org.body next.scene ∧
        ∀ other body, other ≠ slot →
          Scene.Departure (world.during other body) slot org.body (next.during other body) := by
  rcases kill_cases killed with ⟨-, rfl, vacant⟩ | ⟨org, pool, -, taken, burying⟩
  · exact .inl ⟨vacant, rfl⟩
  · obtain ⟨live, lent, map, capacity⟩ := Pool.remove_eq_some ready taken
    -- The burial does not touch the pool, which has lost the organism before.
    have samePool : next.pool = pool := (bury_eq_ok burying world.pool.bodies none slot).2
    have bodies : next.pool.bodies = Function.update world.pool.bodies slot none :=
      samePool ▸ Pool.bodies_update map
    have departs : ∀ residents acting,
        Scene.Departure (world.sceneWith residents acting) slot org.body
          (next.sceneWith (Function.update residents slot none)
            (if acting = some slot then none else acting)) := fun residents acting => by
      simpa only [sceneWith, capacity] using (bury_eq_ok burying residents acting slot).1
    refine .inr ⟨org, live, samePool ▸ lent, ?_, fun other body elsewhere => ?_⟩
    · have departure := departs world.pool.bodies none
      rw [← bodies] at departure
      exact departure
    · have departure := departs (Function.update world.pool.bodies other (some body)) (some other)
      rw [if_neg (by simpa using elsewhere), Function.update_comm elsewhere, ← bodies]
        at departure
      exact departure

end Drawing

end World

end Vivarium
