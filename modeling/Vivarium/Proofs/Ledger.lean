import Vivarium.Proofs.Calls
import Vivarium.Proofs.Totals

/-!
# The ledger

The energy of all organisms is kept as one number. Some operations change the
number first and an organism later, or the other way round; a scene shows them
together, and each move keeps the number equal to the sum. Whoever executes counts
with what it has, be it a debt.
-/
namespace Vivarium

namespace Scene

/-- The ledger says what the residents have together. -/
def Settled (scene : Scene) : Prop :=
  scene.totalEnergy = total scene.capacity Body.energy scene.residents

variable {admits : Scene → Int → Prop} {scene next : Scene} {slot : Nat} {body : Body}

theorem total_seat (slotted : scene.Slotted) (resident : scene.residents slot = some body)
    (value : Body → Int) (after : Body) :
    total scene.capacity value (scene.seat slot after).residents + value body =
      total scene.capacity value scene.residents + value after :=
  total_change (slotted slot body resident) resident value after

theorem Settled.earn (settled : scene.Settled) (slotted : scene.Slotted)
    (resident : scene.residents slot = some body) (amount : Int) :
    (scene.earn slot body amount).Settled := by
  have changed :=
    total_seat slotted resident Body.energy { body with energy := body.energy + amount }
  unfold Settled at *
  simp only [Scene.earn, Scene.seat] at changed ⊢
  omega

theorem Settled.receive (settled : scene.Settled) (newborn : scene.Newborn slot body)
    (code : Genome) : (scene.receive slot body code).Settled := by
  have added := total_put newborn.inside newborn.vacant Body.energy body
  unfold Settled at *
  simp only [Scene.receive, Scene.seat]
  omega

theorem Settled.vacate (settled : scene.Settled) (slotted : scene.Slotted)
    (resident : scene.residents slot = some body) : (scene.vacate slot body).Settled := by
  have removed := total_clear (slotted slot body resident) resident Body.energy
  unfold Settled at *
  simp only [Scene.vacate]
  omega

theorem Departure.settled (departure : Departure scene slot body next) (settled : scene.Settled)
    (slotted : scene.Slotted) (resident : scene.residents slot = some body) : next.Settled := by
  have left := settled.vacate slotted resident
  cases departure <;> exact left

/-- A resident that keeps its energy leaves the ledger alone. -/
theorem Settled.seat (settled : scene.Settled) (slotted : scene.Slotted)
    (resident : scene.residents slot = some body) (after : Body)
    (energy : after.energy = body.energy) : (scene.seat slot after).Settled := by
  have changed := total_seat slotted resident Body.energy after
  unfold Settled at *
  simp only [Scene.seat] at changed ⊢
  omega

theorem Move.settled (move : Move admits scene next) (settled : scene.Settled)
    (slotted : scene.Slotted) : next.Settled := by
  -- The ledger moves with a resident that earns; who eats another one takes what that loses.
  cases move with
  | start | stop | drop | shift | wait | opened | closed => exact settled
  | pay slot body amount acting resident cost => exact settled.earn slotted resident _
  | walk slot body target acting resident inside noOrganism passable =>
    exact settled.seat slotted resident _ rfl
  | graze slot body target token surface found tokens acting resident own shown kind erased =>
    exact settled.earn slotted resident _
  | bite slot body victim prey taken acting resident other caught nonneg left =>
    let bitten : Body := { prey with energy := prey.energy - taken }
    have loss := total_seat slotted caught Body.energy bitten
    have gain := total_seat (slotted.update caught bitten) (update_beside other resident _)
      Body.energy { body with energy := body.energy + taken }
    unfold Settled at *
    simp only [Scene.seat, bitten] at loss gain ⊢
    omega
  | devour slot body victim prey next acting resident other caught departure =>
    let eaten : Body := { prey with energy := 0 }
    let fed : Body := { body with energy := body.energy + prey.energy }
    have loss := total_seat slotted caught Body.energy eaten
    have gain := total_seat (slotted.update caught eaten) (update_beside other resident _)
      Body.energy fed
    have moved : ((scene.seat victim eaten).seat slot fed).Settled := by
      unfold Settled at *
      simp only [Scene.seat, eaten, fed] at loss gain ⊢
      omega
    have slottedFed := (slotted.update caught eaten).update (update_beside other resident _) fed
    refine departure.settled moved slottedFed ?_
    simp [Scene.seat, Function.update_of_ne other]
  | bear slot body fresh child code acting resident share newborn identity parent =>
    exact (settled.earn slotted resident _).receive (newborn.earn resident _) code
  | spawn fresh body code idle newborn identity orphan admitted =>
    exact settled.receive newborn code
  | pickUp slot body target kind token surface found tokens acting resident handsFree own shown
      isOwn erased => exact settled.seat slotted resident _ rfl
  | putDown slot body target packet surface acting resident carried own free =>
    exact settled.seat slotted resident _ rfl
  | mix slot body target packet lying surface atoms acting resident carried energy own shown isOwn
      capped => exact settled.seat slotted resident _ rfl
  | depart slot body next resident departure =>
    exact departure.settled settled slotted resident

theorem Blank.settled (blank : scene.Blank) : scene.Settled := by
  rw [Settled, total_empty _ blank.nobody, blank.noEnergy]

end Scene

namespace World

variable {ρ : Type}

theorem total_bodies (pool : Pool) (value : Body → Int) :
    total pool.capacity value pool.bodies =
      (pool.toList.map fun entry => value entry.2.body).sum := by
  rw [pool.sum_toList fun org => value org.body]
  exact total_map _ _ _ _

variable [DrawSource ρ]

/-- Whatever is called, the ledger says what the organisms in the pool have together,
and each of them has energy left. -/
theorem performAll_settled {config : Config} {source : ρ} {recording : Bool}
    {start world : World ρ} (calls : List Call)
    (created : create config source recording = .ok (.ok start))
    (performed : performAll calls start = .ok world) :
    world.totalEnergy = (world.pool.toList.map fun entry => entry.2.energy).sum ∧
      ∀ slot org, world.pool.get? slot = some org → 0 < org.energy := by
  obtain ⟨resting, blank, empty, moves⟩ := reached_of_performAll created performed
  have settled : world.scene.Slotted ∧ world.scene.Settled :=
    moves.preserve (fun scene => scene.Slotted ∧ scene.Settled)
      (fun move before => ⟨move.slotted before.1, move.settled before.2 before.1⟩)
      ⟨empty.slotted, empty.settled⟩
  refine ⟨settled.2.trans (total_bodies world.pool Body.energy), fun slot org live => ?_⟩
  exact resting.thriving slot org.body (Pool.bodies_eq_some live) (fun acting => nomatch acting)

theorem performAll_settled_small :
    ∃ start world : World Generator, create .small (.ofSeed 7) false = .ok (.ok start) ∧
      performAll Call.shortLife start = .ok world ∧
      world.totalEnergy = (world.pool.toList.map fun entry => entry.2.energy).sum := by
  obtain ⟨start, world, created, performed⟩ := performAll_small
  exact ⟨start, world, created, performed, (performAll_settled _ created performed).1⟩

end World

end Vivarium
