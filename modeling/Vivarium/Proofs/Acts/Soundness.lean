import Vivarium.Proofs.Accounting
import Vivarium.Proofs.Acts

/-!
# Sound stages

A stage shows a scene whether somebody executes or not, and each act changes it by moves.
So what the moves of a scene preserve holds on every stage of a trail: one slot is lent at
most, everybody has energy but an organism that is dead already, and all tokens are
accounted for.
-/
namespace Vivarium

open Scene (Unbounded)

variable {ρ : Type}

namespace Stage

/-- The organism that executes is shown in its slot. -/
def scene (stage : Stage ρ) : Scene :=
  match stage.player with
  | none => stage.world.scene
  | some player => stage.world.during player.slot player.org.body

/-- What holds on every stage from the creation of a world of this configuration on. -/
structure Sound (config : Config) (stage : Stage ρ) : Prop where
  configured : stage.world.config = config
  lent : stage.world.pool.LentOnly (stage.player.map Player.slot)
  accepted : stage.world.config.Accepted
  thriving : stage.scene.Thriving
  accounted : stage.scene.Accounted
  alive : ∀ player ∈ stage.player, player.fate = .alive → 0 < player.org.energy

theorem config_scene (stage : Stage ρ) : stage.scene.config = stage.world.config := by
  unfold scene
  split <;> rfl

theorem surfaces_scene (stage : Stage ρ) : stage.scene.surfaces = stage.world.surfaces := by
  unfold scene
  split <;> rfl

namespace Sound

variable {config : Config} {stage last : Stage ρ} {world next : World ρ} {slot : Nat}
  {org after : Organism}

theorem resting (sound : (⟨world, none⟩ : Stage ρ).Sound config) : World.Resting world :=
  ⟨sound.lent, sound.accepted, sound.accounted.furnished, sound.thriving⟩

theorem executing (sound : (⟨world, some ⟨slot, org, .alive⟩⟩ : Stage ρ).Sound config) :
    World.Executing world slot org.body :=
  ⟨sound.lent, sound.accepted, sound.accounted.furnished, sound.thriving, sound.alive _ rfl rfl⟩

/-- Each stage has the surfaces of the configuration. -/
theorem length_surfaces (sound : stage.Sound config) :
    stage.world.surfaces.length = config.surfaces.length := by
  have length := sound.accounted.furnished.length
  rwa [surfaces_scene, config_scene, sound.configured] at length

theorem of_moves (sound : stage.Sound config) (moves : Scene.Moves Unbounded stage.scene last.scene)
    (lent : last.world.pool.LentOnly (last.player.map Player.slot))
    (alive : ∀ player ∈ last.player, player.fate = .alive → 0 < player.org.energy) :
    last.Sound config where
  configured := by
    have same := moves.config
    rw [config_scene, config_scene] at same
    exact same.trans sound.configured
  lent := lent
  accepted := by
    have same := moves.config
    rw [config_scene, config_scene] at same
    exact same ▸ sound.accepted
  thriving := moves.preserve _ (fun move => move.thriving) sound.thriving
  accounted := moves.accounted sound.accounted
  alive := alive

theorem of_leads (sound : (⟨world, none⟩ : Stage ρ).Sound config)
    (leads : World.Leads Unbounded world next) : (⟨next, none⟩ : Stage ρ).Sound config :=
  sound.of_moves leads.moves leads.lent nofun

theorem of_reaches {fate later : Fate}
    (sound : (⟨world, some ⟨slot, org, fate⟩⟩ : Stage ρ).Sound config)
    (reaches : World.Reaches Unbounded slot world org.body next after.body)
    (alive : later = .alive → 0 < after.energy) :
    (⟨next, some ⟨slot, after, later⟩⟩ : Stage ρ).Sound config := by
  refine sound.of_moves reaches.moves reaches.lent ?_
  rintro player ⟨⟩
  exact alive

variable [DrawSource ρ]

/-- The end of a turn, whether the organism returns or leaves. -/
theorem of_settle {fate : Fate} (sound : (⟨world, some ⟨slot, org, fate⟩⟩ : Stage ρ).Sound config)
    (settled : world.settle slot org fate = .ok next) : (⟨next, none⟩ : Stage ρ).Sound config := by
  obtain ⟨moves, lent⟩ : Scene.Moves Unbounded (world.during slot org.body) next.scene ∧ _ :=
    World.settle_eq_ok sound.lent (sound.alive _ rfl) settled
  exact sound.of_moves moves lent nofun

end Sound

end Stage

variable [DrawSource ρ] {placing : Prop} {config : Config} {stage last : Stage ρ}
  {burial : Option (Burial ρ)}

theorem Act.sound (act : Act placing stage burial last) (sound : stage.Sound config) :
    last.Sound config := by
  cases act with
  | notes world player source iteration generation births deaths linesGranted probe history =>
    -- The scene shows some of these numbers, but no invariant is about them.
    have accounted := sound.accounted
    cases player with
    | none =>
      exact ⟨sound.configured, sound.lent, sound.accepted, sound.thriving, ⟨accounted.exclusive,
        ⟨accounted.furnished.length, accounted.furnished.own⟩, accounted.slotted,
        accounted.balanced⟩, sound.alive⟩
    | some player =>
      exact ⟨sound.configured, sound.lent, sound.accepted, sound.thriving, ⟨accounted.exclusive,
        ⟨accounted.furnished.length, accounted.furnished.own⟩, accounted.slotted,
        accounted.balanced⟩, sound.alive⟩
  | enters taken =>
    obtain ⟨moves, executing⟩ : Scene.Moves Unbounded _ _ ∧ _ := sound.resting.take taken
    refine sound.of_moves moves executing.lent ?_
    rintro player ⟨⟩ -
    exact executing.alive
  | @line world next slot org after flow ran goesOn =>
    have turn : World.Turn Unbounded slot world org.body flow next after.body :=
      World.executeLine_turn sound.executing ran
    refine sound.of_reaches turn.toReaches fun alive => turn.lives ?_
    rintro rfl
    cases alive
  | @devours world next slot org after prey pool ran lost =>
    have turn : World.Turn Unbounded slot world org.body .stop next after.body :=
      World.executeLine_turn sound.executing ran
    exact sound.of_reaches turn.toReaches fun _ => turn.lives (by decide)
  | year aged =>
    obtain ⟨reaches, survives⟩ := World.ageOrganism_reaches sound.executing aged
    exact sound.of_reaches reaches survives
  | returns world slot org => exact sound.of_settle rfl
  | leaves buried released =>
    refine sound.of_settle ?_
    exact (bind_eq_ok_iff _ _ _).mpr ⟨_, buried, (bind_eq_ok_iff _ _ _).mpr ⟨_, released, rfl⟩⟩
  | @killed world next slot org pool removed buried =>
    have killing : world.kill slot = .ok (true, next) :=
      (bind_eq_ok_iff _ _ _).mpr ⟨_, removed, (bind_eq_ok_iff _ _ _).mpr ⟨_, buried, rfl⟩⟩
    exact sound.of_leads (World.kill_leads sound.resting killing)
  | spawns spawned =>
    exact sound.of_leads (World.spawnOrganism_leads sound.resting trivial spawned)
  | places allowed light spawned =>
    exact sound.of_leads (World.spawnToken_leads sound.resting light (fun _ => trivial) spawned)
  | replenishes replenished =>
    exact sound.of_leads
      (World.replenish_leads sound.resting (fun _ _ _ => trivial) replenished)
  | ticks ticked => exact sound.of_leads (World.tickSurfaces_leads sound.resting ticked)

theorem Trail.sound {burials : List (Burial ρ)} (trail : Trail placing stage burials last)
    (sound : stage.Sound config) : last.Sound config :=
  trail.preserve (Stage.Sound config) (fun act before => act.sound before) sound

omit [DrawSource ρ] in
/-- Terrain without organisms is a sound stage. -/
theorem World.Founded.sound {config : Config} {blank : Scene} {terrain : World ρ}
    (founded : Founded config blank terrain) : (⟨terrain, none⟩ : Stage ρ).Sound config where
  configured := (founded.laid.config : terrain.scene.config = _).trans founded.configured
  lent := founded.resting.lent
  accepted := founded.resting.accepted
  thriving := founded.resting.thriving
  accounted := founded.accounted
  alive := nofun

/-- A created world is a sound stage. -/
theorem World.sound_of_create {config : Config} {source : ρ} {recording : Bool} {start : World ρ}
    (created : create config source recording = .ok (.ok start)) :
    (⟨start, none⟩ : Stage ρ).Sound config := by
  obtain ⟨blank, terrain, placed, founded, seeded⟩ := create_eq_ok created
  have leads : Leads Unbounded terrain start :=
    seedPopulation_leads founded.resting (fun _ _ _ => trivial) seeded
  exact founded.sound.of_leads leads

end Vivarium
