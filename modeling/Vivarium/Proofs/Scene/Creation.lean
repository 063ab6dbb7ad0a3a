import Vivarium.Proofs.Scene.Population

/-!
# Moves of a world that is created

A world starts from a blank scene. Its surfaces are seeded one after the other,
whatever energy that is; then the population is seeded as it is at any later
time, within the headroom.
-/
namespace Vivarium

namespace Scene

/-- Everything is admitted. -/
def Unbounded : Scene → Int → Prop := fun _ _ => True

/-- A scene without tokens and organisms. -/
structure Blank (scene : Scene) : Prop where
  accepted : scene.config.Accepted
  surfaces : scene.surfaces = World.surfacesFrom 0 scene.config.surfaces
  cells : ∀ offset, scene.grid.get offset = .empty
  nobody : ∀ slot, scene.residents slot = none
  idle : scene.acting = none
  noEnergy : scene.totalEnergy = 0

theorem surfacesFrom_getElem? (configs : List SurfaceConfig) (first kind : Nat) :
    (World.surfacesFrom first configs)[kind]? =
      configs[kind]?.map (Surface.create (first + kind)) := by
  induction configs generalizing first kind with
  | nil => rfl
  | cons config rest ih =>
    cases kind with
    | zero => rfl
    | succ kind =>
      simp only [World.surfacesFrom, List.getElem?_cons_succ, ih]
      rw [show first + 1 + kind = first + (kind + 1) by omega]

theorem surfacesFrom_length (configs : List SurfaceConfig) (first : Nat) :
    (World.surfacesFrom first configs).length = configs.length := by
  induction configs generalizing first with
  | nil => rfl
  | cons config rest ih => simp [World.surfacesFrom, ih]

variable {scene : Scene}

/-- The surfaces of a blank scene have no tokens. -/
theorem Blank.surface_eq {kind : Nat} {surface : Surface} (blank : scene.Blank)
    (own : scene.surfaces[kind]? = some surface) :
    ∃ config, scene.config.surfaces[kind]? = some config ∧ surface = .create kind config := by
  rw [blank.surfaces, surfacesFrom_getElem?, Option.map_eq_some_iff] at own
  obtain ⟨config, found, same⟩ := own
  rw [Nat.zero_add] at same
  exact ⟨config, found, same.symm⟩

theorem Blank.furnished (blank : scene.Blank) : scene.Furnished where
  length := by rw [blank.surfaces, surfacesFrom_length]
  own kind surface own := by
    obtain ⟨config, found, rfl⟩ := blank.surface_eq own
    exact ⟨rfl, found⟩

theorem Blank.slotted (blank : scene.Blank) : scene.Slotted := by
  intro slot body resident
  rw [blank.nobody] at resident
  cases resident

theorem Blank.thriving (blank : scene.Blank) : scene.Thriving := by
  intro slot body resident
  rw [blank.nobody] at resident
  cases resident

end Scene

namespace Grid

/-- The field that the world of a configuration starts with. -/
def blank (config : Config) : Grid :=
  { empty config.worldWidth config.worldHeight with
    palette := { tokens := config.surfaces.map (·.color), organism := config.orgColor } }

theorem get_blank (config : Config) (offset : Nat) : (blank config).get offset = .empty := by
  simp only [get, blank, empty, Array.getD_eq_getD_getElem?, Array.getElem?_replicate]
  split <;> rfl

theorem size_blank (config : Config) :
    (blank config).size = config.worldWidth * config.worldHeight := by
  simp only [size, blank, empty, Array.size_replicate]

theorem ofConfig_eq_ok_iff (config : Config) (grid : Grid) :
    ofConfig config = .ok (.ok grid) ↔ (config.worldWidth ≠ 0 ∧ config.worldHeight ≠ 0) ∧
      config.worldWidth * config.worldHeight * Cell.bytes ≤ maxBytes ∧ blank config = grid := by
  rw [← not_or, ← reserve_eq_ok_iff]
  unfold ofConfig create
  split
  next degenerate => simp [degenerate, bind_eq_ok_iff, pure_eq_ok_iff]
  next proper =>
    simp only [proper, not_false_eq_true, true_and, bind_eq_ok_iff]
    constructor
    · rintro ⟨created, ⟨⟨⟩, reserved, answer⟩, made⟩
      cases answer
      cases made
      exact ⟨reserved, rfl⟩
    · rintro ⟨reserved, rfl⟩
      exact ⟨_, ⟨(), reserved, rfl⟩, rfl⟩

end Grid

namespace World

open Scene (Blank Unbounded)

variable {ρ : Type} [DrawSource ρ]

/-! ### Terrain -/

theorem putMany_moves {admits : Scene → Int → Prop} {scene : Scene}
    {amount placed total kind : Nat} {surface next : Surface} {after : Grid} {source rest : ρ}
    (done : Surface.putMany amount placed surface scene.grid source =
      .ok (total, next, after, rest))
    (own : scene.surfaces[kind]? = some surface) (idle : scene.acting = none)
    (admitted : ∀ scene amount, admits scene amount) :
    Scene.Moves admits scene (scene.furnish kind next after) := by
  induction amount generalizing scene placed surface source with
  | zero =>
    cases done
    rw [furnish_same own]
    exact Scene.Moves.refl
  | succ amount ih =>
    obtain ⟨⟨landed, changed, grid, source⟩, putting, done⟩ := (bind_eq_ok_iff _ _ _).mp done
    have first : Scene.Moves admits scene (scene.furnish kind changed grid) :=
      put_moves putting own idle fun _ => admitted _ _
    have inside := (List.getElem?_eq_some_iff.mp own).1
    have others : Scene.Moves admits (scene.furnish kind changed grid) _ :=
      ih done (List.getElem?_set_self inside) idle
    rw [furnish_furnish] at others
    exact first.trans others

/-- Each of so many tokens is one token more and one atom more. -/
theorem putMany_counts {amount placed total : Nat} {surface next : Surface} {grid after : Grid}
    {source rest : ρ}
    (done : Surface.putMany amount placed surface grid source = .ok (total, next, after, rest)) :
    next.atoms ≤ surface.atoms + amount ∧
      next.atoms + surface.live = surface.atoms + next.live := by
  induction amount generalizing placed surface grid source with
  | zero =>
    cases done
    exact ⟨Nat.le_refl _, rfl⟩
  | succ amount ih =>
    obtain ⟨⟨landed, changed, grid, source⟩, putting, done⟩ := (bind_eq_ok_iff _ _ _).mp done
    obtain ⟨few, others⟩ := ih done
    have first : changed.atoms ≤ surface.atoms + 1 ∧
        changed.atoms + surface.live = surface.atoms + changed.live := by
      cases landed with
      | none =>
        rw [(Surface.put_eq_none putting).1]
        exact ⟨Nat.le_succ _, rfl⟩
      | some offset =>
        obtain ⟨-, -, grown, -⟩ := Surface.put_eq_some putting
        rw [grown]
        simp only [Surface.grow]
        omega
    omega

/-- The energy surface is seeded first, with no more tokens than its configuration says. -/
theorem seed_counts {surfaces after : List Surface} {surface : Surface} {grid : Grid}
    {source : ρ} {last : Grid × ρ}
    (seeded : onSurfaces (fun surface (grid, source) => surface.seed grid source)
      (surface :: surfaces) (grid, source) = .ok (after, last)) :
    ∃ first, after[energyKind]? = some first ∧
      first.atoms ≤ surface.atoms + surface.config.initial ∧
      first.atoms + surface.live = surface.atoms + first.live := by
  obtain ⟨⟨total, first, rest⟩, seeding, seeded⟩ := (bind_eq_ok_iff _ _ _).mp seeded
  obtain ⟨⟨others, last⟩, -, answer⟩ := (bind_eq_ok_iff _ _ _).mp seeded
  cases answer
  exact ⟨first, rfl, putMany_counts seeding⟩

theorem seed_moves {blank : Scene} {surfaces : List Surface} {source : ρ} {last : Grid × ρ}
    (idle : blank.acting = none)
    (seeded : onSurfaces (fun surface (grid, source) => surface.seed grid source)
      blank.surfaces (blank.grid, source) = .ok (surfaces, last)) :
    Scene.Moves Unbounded blank { blank with surfaces, grid := last.1 } := by
  refine onSurfaces_preserve (fun surfaces state =>
    Scene.Moves Unbounded blank { blank with surfaces, grid := state.1 }) ?_ seeded []
    Scene.Moves.refl
  intro surfaces state kind surface value changed next moves own operated
  obtain ⟨grid, source⟩ := next
  have laid : Scene.Moves Unbounded { blank with surfaces, grid := state.1 } _ :=
    putMany_moves operated own idle fun _ _ => trivial
  exact moves.trans laid

end World

/-! ### Creation -/

/-- A configuration that passes its checks, with room for all that its world needs. -/
structure Config.Creatable (config : Config) : Prop where
  valid : config.validate = .ok none
  grid : config.worldWidth * config.worldHeight * Cell.bytes ≤ maxBytes
  pool : config.orgAmount * Organism.bytes ≤ maxBytes
  history : config.historyCapacity * RunSummary.bytes ≤ maxBytes

namespace World

open Scene (Blank Unbounded)

variable {ρ : Type} [DrawSource ρ]

/-- A world with its terrain that is not populated yet. -/
def barren (config : Config) (surfaces : List Surface) (grid : Grid) (source : ρ)
    (recording : Bool) : World ρ :=
  { config, grid, surfaces, pool := .empty config.orgAmount, source
    totalEnergy := 0, nextId := 0, iteration := 0, generation := 0, births := 0, deaths := 0
    linesGranted := 0, probe := .empty, history := #[]
    lineage := if recording then some [] else none }

/-- Apart from the room that it takes, creation is the seeding of the surfaces and then of
the population. -/
theorem create_eq_ok_iff (config : Config) (source : ρ) (recording : Bool) (start : World ρ) :
    create config source recording = .ok (.ok start) ↔ config.Creatable ∧
      ∃ surfaces grid rest placed,
        onSurfaces (fun surface (grid, source) => surface.seed grid source)
          (surfacesFrom 0 config.surfaces) (.blank config, source) = .ok (surfaces, grid, rest) ∧
        (barren config surfaces grid rest recording).seedPopulation = .ok (placed, start) := by
  constructor
  -- All checks and reservations that creation makes on its way have passed.
  · intro created
    obtain ⟨checked, valid, created⟩ := (bind_eq_ok_iff _ _ _).mp created
    cases checked with
    | some error => cases created
    | none =>
      obtain ⟨made, making, created⟩ := (bind_eq_ok_iff _ _ _).mp created
      cases made with
      | error error => cases created
      | ok grid =>
        obtain ⟨⟨surfaces, seeded, rest⟩, seeding, created⟩ := (bind_eq_ok_iff _ _ _).mp created
        obtain ⟨pool, pooled, created⟩ := (bind_eq_ok_iff _ _ _).mp created
        obtain ⟨_, kept, created⟩ := (bind_eq_ok_iff _ _ _).mp created
        obtain ⟨⟨placed, populated⟩, populating, answer⟩ := (bind_eq_ok_iff _ _ _).mp created
        obtain ⟨_, reserved, empty⟩ := (bind_eq_ok_iff _ _ _).mp pooled
        cases answer
        cases empty
        obtain ⟨-, room, rfl⟩ := (Grid.ofConfig_eq_ok_iff _ _).mp making
        exact ⟨⟨valid, room, (reserve_eq_ok_iff _ _).mp reserved, (reserve_eq_ok_iff _ _).mp kept⟩,
          surfaces, seeded, rest, placed, seeding, populating⟩
  · rintro ⟨creatable, surfaces, grid, rest, placed, seeding, populating⟩
    have accepted := Config.accepted_of_validate creatable.valid
    have making := (Grid.ofConfig_eq_ok_iff config _).mpr ⟨accepted.dimensions, creatable.grid, rfl⟩
    have pooled : Pool.create config.orgAmount = .ok (.empty config.orgAmount) :=
      (bind_eq_ok_iff _ _ _).mpr ⟨(), (reserve_eq_ok_iff _ _).mpr creatable.pool, rfl⟩
    have kept := (reserve_eq_ok_iff _ _).mpr creatable.history
    refine (bind_eq_ok_iff _ _ _).mpr ⟨none, creatable.valid, ?_⟩
    refine (bind_eq_ok_iff _ _ _).mpr ⟨.ok (.blank config), making, ?_⟩
    refine (bind_eq_ok_iff _ _ _).mpr ⟨(surfaces, grid, rest), seeding, ?_⟩
    refine (bind_eq_ok_iff _ _ _).mpr ⟨_, pooled, ?_⟩
    refine (bind_eq_ok_iff _ _ _).mpr ⟨_, kept, ?_⟩
    exact (bind_eq_ok_iff _ _ _).mpr ⟨(placed, start), populating, rfl⟩

/-- From the blank scene of a configuration to the world with its terrain, before that
is populated. -/
structure Founded (config : Config) (blank : Scene) (terrain : World ρ) : Prop where
  creatable : config.Creatable
  empty : blank.Blank
  configured : blank.config = config
  resting : Resting terrain
  laid : Scene.Moves Unbounded blank terrain.scene
  size : terrain.grid.size = config.worldWidth * config.worldHeight
  noEnergy : terrain.totalEnergy = 0
  nobody : ∀ slot, terrain.pool.get? slot = none
  /-- The energy surface has no more tokens than its configuration places, of one atom each. -/
  seeded : ∃ surface energy, config.surfaces[energyKind]? = some surface ∧
    terrain.surfaces[energyKind]? = some energy ∧ energy.atoms ≤ surface.initial ∧
    energy.atoms = energy.live

/-- Once the surfaces are seeded, a world is founded. -/
theorem founded_of_seeding {config : Config} {source rest : ρ} {surfaces : List Surface}
    {grid : Grid} (recording : Bool) (creatable : config.Creatable)
    (seeding : onSurfaces (fun surface (grid, source) => surface.seed grid source)
      (surfacesFrom 0 config.surfaces) (.blank config, source) = .ok (surfaces, grid, rest)) :
    ∃ blank : Scene, Founded config blank (barren config surfaces grid rest recording) := by
  have accepted := Config.accepted_of_validate creatable.valid
  let terrain : World ρ := barren config surfaces grid rest recording
  let bare : Scene :=
    { terrain.scene with surfaces := surfacesFrom 0 config.surfaces, grid := .blank config }
  have blank : bare.Blank :=
    { accepted
      surfaces := rfl
      cells := Grid.get_blank config
      nobody := fun slot => by
        simp [bare, terrain, barren, scene, sceneWith, Pool.bodies, Pool.get?_empty]
      idle := rfl
      noEnergy := rfl }
  have laid : Scene.Moves Unbounded bare terrain.scene := seed_moves blank.idle seeding
  have resting : Resting terrain :=
    { lent := Pool.lentOnly_empty _
      accepted
      furnished := laid.preserve _ (fun move => move.furnished) blank.furnished
      thriving := laid.preserve _ (fun move => move.thriving) blank.thriving }
  -- The energy surface is the first, so it is seeded on the empty grid.
  obtain ⟨energySurface, others, configured⟩ := accepted.surfaces_eq
  rw [configured] at seeding
  obtain ⟨energy, held, few, single⟩ := seed_counts seeding
  have seeded : energy.atoms ≤ energySurface.initial ∧ energy.atoms = energy.live := by
    simp only [Surface.create] at few single
    omega
  refine ⟨bare, ?_⟩
  exact
    { creatable
      empty := blank
      configured := rfl
      resting
      laid
      size := laid.size.trans (Grid.size_blank config)
      noEnergy := rfl
      nobody := Pool.get?_empty _
      seeded := ⟨energySurface, energy, by rw [configured]; rfl, held, seeded⟩ }

/-- A created world is founded, and then populated. -/
theorem create_eq_ok {config : Config} {source : ρ} {recording : Bool} {start : World ρ}
    (created : create config source recording = .ok (.ok start)) :
    ∃ (blank : Scene) (terrain : World ρ) (placed : Nat), Founded config blank terrain ∧
      terrain.seedPopulation = .ok (placed, start) := by
  obtain ⟨creatable, surfaces, grid, rest, placed, seeding, populating⟩ :=
    (create_eq_ok_iff _ _ _ _).mp created
  obtain ⟨blank, founded⟩ := founded_of_seeding recording creatable seeding
  exact ⟨blank, _, placed, founded, populating⟩

end World

end Vivarium
