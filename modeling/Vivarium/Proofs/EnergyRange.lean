import Vivarium.Proofs.EnergyCap
import Vivarium.Proofs.Calm.Population

/-!
# The range of energy

Where a configuration leaves room for all energy there can be, no sum and no difference of
energies ever leaves the range of amounts, from the creation of a world through whatever
happens in it. The check of a configuration does not ask for that room: a token may be worth
so much that it cannot be added to what is there, although it would not be dropped anyway.
-/
namespace Vivarium

/-- Whatever chance brings, no energy leaves the range of amounts: not while the world is
created, and not after that, as long as nothing is placed on demand. -/
def Config.EnergyFits (config : Config) : Prop :=
  ∀ (ρ : Type) [DrawSource ρ] (source : ρ) (recording : Bool),
    Calm (World.create config source recording) ∧
      ∀ (start : World ρ) (calls : List Call),
        World.create config source recording = .ok (.ok start) →
        (∀ call ∈ calls, call.spawns = false) → Calm (World.performAll calls start)

namespace World

variable {ρ : Type} {config : Config} {cap yield : Int}

/-! ### Creation -/

theorem Founded.bounded {blank : Scene} {terrain : World ρ}
    (founded : Founded config blank terrain) (representable : config.Representable)
    (ample : config.Ample cap yield) : Bounded cap yield terrain := by
  have same : terrain.scene.config = config := founded.laid.config.trans founded.configured
  have accepted := Config.accepted_of_validate founded.creatable.valid
  refine ⟨founded.resting.lent, ?_, .inl founded.deserted⟩
  exact
    { accepted := founded.resting.accepted
      representable := same ▸ representable
      ample := same ▸ ample
      nonneg := accepted.maxEnergy_nonneg ample.capped founded.creatable.organisms_le
      accounted := founded.accounted
      settled := founded.settled
      thriving := founded.resting.thriving }

theorem ofConfig_calm : Calm (Grid.ofConfig config) := by
  refine Calm.bind ?_ fun made _ => ?_
  · unfold Grid.create
    split
    · exact .ok _
    · exact (reserve_calm _ _).bind fun _ _ => .pure _
  · cases made with
    | error error => exact .pure _
    | ok grid => exact .pure _

variable [DrawSource ρ]

/-- All room is reserved before the population is seeded, and that asks for the headroom. -/
theorem create_calm (valid : config.validate = .ok none) (representable : config.Representable)
    (ample : config.Ample cap yield) (source : ρ) (recording : Bool) :
    Calm (create config source recording) := by
  apply Calm.bind (Calm.of_ok valid)
  intro checked passed
  cases valid.symm.trans passed
  apply Calm.bind ofConfig_calm
  intro made making
  cases made with
  | error error => exact .pure _
  | ok grid =>
    obtain ⟨-, room, rfl⟩ := (Grid.ofConfig_eq_ok_iff _ _).mp making
    apply Calm.bind (onSurfaces_calm (fun surface state => surface.putMany_calm _ _ _ _) _ _)
    intro ⟨surfaces, grid, rest⟩ seeding
    have pooling : Calm (Pool.create config.orgAmount) :=
      (reserve_calm _ _).bind fun _ _ => .pure _
    apply Calm.bind pooling
    intro pool pooled
    apply Calm.bind (reserve_calm _ _)
    intro _ kept
    obtain ⟨_, reserved, empty⟩ := (bind_eq_ok_iff _ _ _).mp pooled
    cases empty
    have creatable : config.Creatable :=
      ⟨valid, room, (reserve_eq_ok_iff _ _).mp reserved, (reserve_eq_ok_iff _ _).mp kept⟩
    obtain ⟨blank, founded⟩ := founded_of_seeding recording creatable seeding
    have seeded := seedPopulation_calm (founded.bounded representable ample)
    exact seeded.bind fun _ _ => .pure _

/-! ### Calls -/

variable {world : World ρ}

theorem perform_calm {call : Call} (bounded : Bounded cap yield world)
    (internal : call.spawns = false) : Calm (world.perform call) := by
  cases call with
  | spawnOrganism | spawnToken => cases internal
  | kill slot => exact bounded.kill_calm.bind fun _ _ => .pure _
  | runOrganism slot lines => exact (runOrganism_calm bounded).bind fun _ _ => .pure _
  | step => exact (step_calm bounded).bind fun _ _ => .pure _
  | run => exact (run_calm bounded).bind fun _ _ => .pure _
  | seedPopulation => exact (seedPopulation_calm bounded).bind fun _ _ => .pure _
  | updateCataclysm => exact (updateCataclysm_calm bounded).bind fun _ _ => .pure _

theorem performAll_calm {calls : List Call} (bounded : Bounded cap yield world)
    (internal : ∀ call ∈ calls, call.spawns = false) : Calm (performAll calls world) := by
  induction calls generalizing world with
  | nil => exact .ok _
  | cons call rest ih =>
    rw [List.forall_mem_cons] at internal
    obtain ⟨first, others⟩ := internal
    apply Calm.bind (perform_calm bounded first)
    intro after performed
    have spawning : call.spawns → ∀ scene amount, Scene.Affords scene amount := by
      intro spawns
      rw [first] at spawns
      cases spawns
    have leads := perform_leads bounded.resting Scene.lenient_affords spawning performed
    exact ih (bounded.after leads) others

end World

namespace Config

variable {config : Config} {cap yield : Int}

/-- A configuration with room for all energy keeps it in its range. -/
theorem energyFits_of_ample (valid : config.validate = .ok none)
    (representable : config.Representable) (ample : config.Ample cap yield) :
    config.EnergyFits := by
  intro ρ _ source recording
  refine ⟨World.create_calm valid representable ample source recording, ?_⟩
  intro start calls created internal
  obtain ⟨blank, terrain, placed, founded, seeded⟩ := World.create_eq_ok created
  have bounded := founded.bounded representable ample
  have leads := World.seedPopulation_leads bounded.resting Scene.lenient_affords seeded
  exact World.performAll_calm (bounded.after leads) internal

/-! ### A frugal world and a precious one -/

/-- Where eating makes no energy, the cap leaves room if one token more does. -/
theorem ample_of_conserves (conserves : config.Conserves) (capped : config.maxEnergy = .ok cap)
    (room : cap - 1 + config.energyValue ≤ maxAmount) :
    config.Ample cap config.energyValue := by
  refine ⟨capped, Int.le_refl _, fun token positive light => (conserves token positive light).2, ?_⟩
  rw [ceiling, Int.sub_self, Int.mul_zero, Int.add_zero]
  exact room

set_option maxRecDepth 20000 in
theorem energyFits_frugal :
    frugal.validate = .ok none ∧ frugal.Representable ∧ frugal.Ample 3998 100 ∧
      frugal.EnergyFits := by
  obtain ⟨start, created⟩ : ∃ start : World Generator,
      World.create frugal (.ofSeed 7) false = .ok (.ok start) := ⟨_, rfl⟩
  have valid := ((World.create_eq_ok_iff _ _ _ _).mp created).1.valid
  have representable : frugal.Representable := by decide
  have conserves : frugal.Conserves := conserves_of_multiplier rfl (by decide)
  have ample : frugal.Ample 3998 100 := ample_of_conserves conserves rfl (by decide)
  exact ⟨valid, representable, ample, energyFits_of_ample valid representable ample⟩

/-- The frugal world with energy tokens that are worth as much as an amount can say. -/
def precious : Config :=
  { frugal with
    energyValue := maxAmount
    surfaces := [{ SurfaceConfig.energyPackets with capacity := 2, initial := 0 }] }

set_option maxRecDepth 20000 in
/-- The check lets it pass, and eating makes no energy. But a step asks whether one token more
is below the cap, and that sum is no amount. -/
theorem not_energyFits_precious :
    precious.validate = .ok none ∧ precious.Representable ∧ precious.Conserves ∧
      ¬ precious.EnergyFits := by
  obtain ⟨start, created, faulted⟩ : ∃ start : World Generator,
      World.create precious (.ofSeed 7) false = .ok (.ok start) ∧
        World.performAll [.step] start = .error .addOverflow := ⟨_, rfl, rfl⟩
  have valid := ((World.create_eq_ok_iff _ _ _ _).mp created).1.valid
  refine ⟨valid, by decide, conserves_of_multiplier rfl (by decide), fun fits => ?_⟩
  have calm := (fits Generator (.ofSeed 7) false).2 start [.step] created (by decide)
  exact absurd (calm _ faulted) (by decide)

end Config

end Vivarium
