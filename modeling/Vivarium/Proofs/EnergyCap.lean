import Vivarium.Proofs.Filling
import Vivarium.Proofs.Solvency

/-!
# The energy cap

Nothing that happens in a world takes it to the cap, so the tokens placed at the
start decide. The check of a configuration reads their number as an amount; where
that fails, the tokens that find a cell may reach the cap before anyone lives.
-/
namespace Vivarium

/-! ### Configurations -/

/-- The tokens placed at the start stay below the cap: either their number can be read
as an amount, so that the check of the configuration counts them, or the cap is out of
reach even if they fill the grid. -/
def Config.TokensBelowCap (config : Config) : Prop :=
  ∀ surface cap, config.surfaces[energyKind]? = some surface → config.maxEnergy = .ok cap →
    (surface.initial : Int) ≤ maxAmount ∨
      stored (config.worldWidth * config.worldHeight) config.energyValue < cap

/-- Whatever chance brings, energy stays below the cap and there is headroom, as long as
nothing is placed on demand. -/
def Config.StaysBelowCap (config : Config) : Prop :=
  ∀ (ρ : Type) [DrawSource ρ] [LawfulDrawSource ρ] (source : ρ) (recording : Bool)
    (start world : World ρ) (calls : List Call),
    World.create config source recording = .ok (.ok start) →
    (∀ call ∈ calls, call.spawns = false) →
    World.performAll calls start = .ok world →
    ∃ cap headroom, config.maxEnergy = .ok cap ∧ world.totalEnergy + world.tokenEnergy < cap ∧
      world.headroom = .ok headroom ∧ 0 ≤ headroom

/-- What the check says of the energy at the start, where it reads the number of tokens
as it is. -/
theorem Config.Accepted.stored_initial_lt {config : Config} {surface : SurfaceConfig} {cap : Int}
    (accepted : config.Accepted) (cells : config.worldWidth * config.worldHeight ≤ maxBytes)
    (own : config.surfaces[energyKind]? = some surface) (capped : config.maxEnergy = .ok cap)
    (fits : (surface.initial : Int) ≤ maxAmount) :
    stored surface.initial config.energyValue < cap := by
  obtain ⟨checked, seedEnergy, cap', configured, seeded, capped', below⟩ := accepted.belowCap
  obtain ⟨count, counted, few⟩ := accepted.uncrowded
  cases own.symm.trans configured
  cases capped.symm.trans capped'
  have crowd : (config.initialPopulation : Int) ≤ maxAmount := by
    unfold Config.cellCount Count.mul at counted
    split at counted
    next =>
      cases counted
      unfold maxBytes at cells
      unfold maxAmount
      omega
    next => cases counted
  have nonneg : 0 ≤ seedEnergy := by
    rw [Amount.mul_eq_ok_iff, Config.wrap_eq crowd] at seeded
    rw [seeded.2]
    exact Int.mul_nonneg (Int.natCast_nonneg _) (Int.le_of_lt accepted.energy)
  have tokens : config.initialTokenEnergy surface = stored surface.initial config.energyValue := by
    rw [Config.initialTokenEnergy, Config.wrap_eq fits, stored, Int.min_eq_right fits]
  rw [tokens] at below
  unfold stored Amount.clamp minAmount maxAmount at *
  omega

namespace Config.Creatable

variable {config : Config}

theorem cells_le (creatable : config.Creatable) :
    config.worldWidth * config.worldHeight ≤ maxBytes :=
  Nat.le_trans (Nat.le_mul_of_pos_right _ (by decide)) creatable.grid

theorem organisms_le (creatable : config.Creatable) : (config.orgAmount : Int) ≤ maxAmount := by
  have few : config.orgAmount ≤ maxBytes :=
    Nat.le_trans (Nat.le_mul_of_pos_right _ (by decide)) creatable.pool
  unfold maxBytes at few
  unfold maxAmount
  omega

end Config.Creatable

namespace World

variable {ρ : Type}

/-! ### The start -/

theorem Founded.deserted {config : Config} {blank : Scene} {terrain : World ρ}
    (founded : Founded config blank terrain) : terrain.scene.Deserted := by
  intro slot
  simp [scene, sceneWith, Pool.bodies, founded.nobody]

theorem Founded.settled {config : Config} {blank : Scene} {terrain : World ρ}
    (founded : Founded config blank terrain) : terrain.scene.Settled := by
  have both : terrain.scene.Slotted ∧ terrain.scene.Settled :=
    founded.laid.preserve (fun scene => scene.Slotted ∧ scene.Settled)
      (fun move before => ⟨move.slotted before.1, move.settled before.2 before.1⟩)
      ⟨founded.empty.slotted, founded.empty.settled⟩
  exact both.2

/-- The energy tokens at the start are of one atom each and have a cell each. -/
theorem Founded.atoms_le {config : Config} {blank : Scene} {terrain : World ρ}
    (founded : Founded config blank terrain) :
    ∃ surface energy, config.surfaces[energyKind]? = some surface ∧
      terrain.surfaces[energyKind]? = some energy ∧ energy.atoms ≤ surface.initial ∧
      energy.atoms ≤ config.worldWidth * config.worldHeight := by
  obtain ⟨surface, energy, own, held, few, single⟩ := founded.seeded
  refine ⟨surface, energy, own, held, few, ?_⟩
  have audited := founded.accounted.balanced.own energyKind energy held
  have idle : ∀ slot, hands terrain.scene.residents slot = none := fun slot => by
    simp [hands, founded.deserted slot]
  -- Nobody is there to carry a token, so all of them lie, on one cell each.
  have carried : total terrain.scene.capacity (fun _ => 1)
      (ofKind energyKind (hands terrain.scene.residents)) = 0 :=
    total_empty _ fun slot => ofKind_eq_none (idle slot)
  have lying := total_one_le terrain.grid.size
    (ofKind energyKind (ground terrain.scene.grid terrain.scene.residents))
  have live := audited.live
  rw [carried] at live
  rw [← founded.size, single, live]
  exact lying

theorem Founded.solvent {config : Config} {blank : Scene} {terrain : World ρ}
    (founded : Founded config blank terrain) (conserves : config.Conserves)
    (below : config.TokensBelowCap) : terrain.scene.Solvent := by
  have same : terrain.scene.config = config := founded.laid.config.trans founded.configured
  have accepted := Config.accepted_of_validate founded.creatable.valid
  refine
    { accepted := founded.resting.accepted
      conserves := same ▸ conserves
      accounted := founded.accounted
      settled := founded.settled
      thriving := founded.resting.thriving
      belowCap := ?_ }
  obtain ⟨surface, energy, own, held, few, spread⟩ := founded.atoms_le
  obtain ⟨-, -, cap, -, -, capped, -⟩ := accepted.belowCap
  have value := Int.le_of_lt accepted.energyValue
  have poor : terrain.scene.funds = 0 := founded.deserted.funds_eq
  have tokens : terrain.scene.tokenEnergy = stored energy.atoms config.energyValue := by
    rw [Scene.tokenEnergy_eq_stored, Scene.atoms_eq held, same]
  have under : stored energy.atoms config.energyValue < cap := by
    rcases below surface cap own capped with fits | roomy
    · have initial := accepted.stored_initial_lt founded.creatable.cells_le own capped fits
      exact Int.lt_of_le_of_lt (stored_mono value few) initial
    · exact Int.lt_of_le_of_lt (stored_mono value spread) roomy
  exact ⟨cap, same ▸ capped, by omega⟩

/-! ### Worlds full of tokens -/

variable [DrawSource ρ]

theorem onSurfaces_of_full [LawfulDrawSource ρ] {grid : Grid} (full : grid.Full)
    (positive : 0 < grid.size) (surfaces : List Surface) (source : ρ) :
    ∃ rest, onSurfaces (fun surface (grid, source) => surface.seed grid source) surfaces
      (grid, source) = .ok (surfaces, grid, rest) := by
  induction surfaces generalizing source with
  | nil => exact ⟨source, rfl⟩
  | cons surface others ih =>
    obtain ⟨next, seeded⟩ :=
      Surface.putMany_of_full full positive surface.config.initial 0 surface source
    obtain ⟨rest, further⟩ := ih next
    exact ⟨rest, (bind_eq_ok_iff _ _ _).mpr ⟨_, seeded,
      (bind_eq_ok_iff _ _ _).mpr ⟨_, further, rfl⟩⟩⟩

theorem seedMany_of_spent {world : World ρ} {headroom : Int} (room : world.headroom = .ok headroom)
    (spent : headroom ≤ 0) (wanted placed : Nat) :
    seedMany wanted placed world = .ok (placed, world) := by
  cases wanted with
  | zero => rfl
  | succ wanted =>
    refine (bind_eq_ok_iff _ _ _).mpr ⟨headroom, room, ?_⟩
    have nothing : min world.config.orgEnergy headroom ≤ 0 := by omega
    simp only [nothing, if_true]
    rfl

/-- With tokens for all cells, chance may put one on each of them. -/
theorem seed_sweep {config : Config} {surface : SurfaceConfig} {others : List SurfaceConfig}
    (creatable : config.Creatable) (configured : config.surfaces = surface :: others)
    (enough : config.worldWidth * config.worldHeight ≤ surface.initial) :
    ∃ energy rest grid source,
      onSurfaces (fun surface (grid, source) => surface.seed grid source)
        (surfacesFrom 0 config.surfaces) (.blank config, (⟨0⟩ : Sweep)) =
          .ok (energy :: rest, grid, source) ∧
      energy.atoms = config.worldWidth * config.worldHeight := by
  have accepted := Config.accepted_of_validate creatable.valid
  have capacity : surface.initial ≤ surface.capacity := by
    refine (accepted.amounts surface ?_).1
    rw [configured]
    exact List.mem_cons_self
  have size := Grid.size_blank config
  have positive : 0 < (Grid.blank config).size := by
    rw [size]
    exact Nat.mul_pos (Nat.pos_of_ne_zero accepted.dimensions.1)
      (Nat.pos_of_ne_zero accepted.dimensions.2)
  have small : (Grid.blank config).size < limit64 := by
    have cells := creatable.cells_le
    unfold maxBytes at cells
    unfold limit64
    omega
  obtain ⟨total, energy, grid, source, filled, full, same, atoms⟩ :=
    Surface.putMany_of_swept surface.initial 0 0 (.create 0 surface) (Grid.swept_blank config)
      positive (by simpa [size] using enough) (by simpa [Surface.create] using capacity)
      (by simpa [Surface.create] using small) (by simpa [Surface.create] using small)
  obtain ⟨last, rest⟩ := onSurfaces_of_full full (same ▸ positive) (surfacesFrom 1 others) source
  refine ⟨energy, surfacesFrom 1 others, grid, last, ?_, ?_⟩
  · rw [configured]
    exact (bind_eq_ok_iff _ _ _).mpr ⟨_, filled, (bind_eq_ok_iff _ _ _).mpr ⟨_, rest, rfl⟩⟩
  · rw [atoms, size]
    simp [Surface.create]

/-- Such a world has no energy left for organisms if the tokens reach the cap. -/
theorem create_sweep {config : Config} {surface : SurfaceConfig} {cap : Int}
    (creatable : config.Creatable) (own : config.surfaces[energyKind]? = some surface)
    (capped : config.maxEnergy = .ok cap)
    (enough : config.worldWidth * config.worldHeight ≤ surface.initial)
    (reached : cap ≤ stored (config.worldWidth * config.worldHeight) config.energyValue)
    (recording : Bool) :
    ∃ start : World Sweep, create config ⟨0⟩ recording = .ok (.ok start) ∧
      start.totalEnergy = 0 ∧
      start.tokenEnergy = stored (config.worldWidth * config.worldHeight) config.energyValue := by
  have accepted := Config.accepted_of_validate creatable.valid
  obtain ⟨first, others, configured⟩ := accepted.surfaces_eq
  rw [configured] at own
  cases own
  obtain ⟨energy, rest, grid, source, seeded, atoms⟩ := seed_sweep creatable configured enough
  let terrain : World Sweep := barren config (energy :: rest) grid source recording
  have tokens : terrain.tokenEnergy =
      stored (config.worldWidth * config.worldHeight) config.energyValue := by
    rw [← atoms]
    rfl
  have total : terrain.totalEnergy = 0 := rfl
  have nonneg : 0 ≤ terrain.tokenEnergy := by
    rw [tokens]
    exact stored_nonneg _ (Int.le_of_lt accepted.energyValue)
  have most : terrain.tokenEnergy ≤ maxAmount := by
    rw [tokens]
    exact stored_le _ _
  have capNonneg := accepted.maxEnergy_nonneg capped creatable.organisms_le
  have least : minAmount ≤ cap - terrain.totalEnergy - terrain.tokenEnergy - 1 := by
    unfold minAmount
    unfold maxAmount at most
    omega
  have room := headroom_eq_ok capped (Int.le_of_eq total.symm) nonneg least
  -- The headroom is negative, so whatever population is wanted stays out.
  have spent := seedMany_of_spent room (by omega) config.initialPopulation 0
  have populated : terrain.seedPopulation = .ok (0, { terrain with generation := 1 }) :=
    (bind_eq_ok_iff _ _ _).mpr ⟨_, spent, rfl⟩
  have created := (create_eq_ok_iff _ _ _ _).mpr ⟨creatable, _, _, _, _, seeded, populated⟩
  exact ⟨_, created, total, tokens⟩

/-! ### Runs -/

omit [DrawSource ρ] in
/-- In a world below the cap there is headroom. -/
theorem headroom_of_below {world : World ρ} {cap : Int} (capped : world.config.maxEnergy = .ok cap)
    (total : 0 ≤ world.totalEnergy) (tokens : 0 ≤ world.tokenEnergy)
    (below : world.totalEnergy + world.tokenEnergy < cap) :
    ∃ headroom, world.headroom = .ok headroom ∧ 0 ≤ headroom := by
  refine ⟨_, headroom_eq_ok capped total tokens ?_, by omega⟩
  unfold minAmount
  omega

theorem performAll_solvent {config : Config} {source : ρ} {recording : Bool}
    {start world : World ρ} {calls : List Call} (conserves : config.Conserves)
    (below : config.TokensBelowCap) (internal : ∀ call ∈ calls, call.spawns = false)
    (created : create config source recording = .ok (.ok start))
    (performed : performAll calls start = .ok world) :
    world.scene.Solvent ∧ world.config = config := by
  -- Without calls that spawn, all that brings energy in has asked for the headroom.
  have unbounded : ∀ call ∈ calls, call.spawns → ∀ scene amount, Scene.Affords scene amount := by
    intro call member spawns
    rw [internal call member] at spawns
    cases spawns
  obtain ⟨blank, terrain, founded, leads⟩ :=
    founded_of_performAll Scene.lenient_affords unbounded created performed
  have moves := leads.moves
  exact ⟨moves.preserve Scene.Solvent (fun move => move.solvent) (founded.solvent conserves below),
    moves.config.trans (founded.laid.config.trans founded.configured)⟩

end World

namespace Config

variable {config : Config}

theorem StaysBelowCap.tokensBelowCap (stays : config.StaysBelowCap)
    (creatable : config.Creatable) : config.TokensBelowCap := by
  intro surface cap own capped
  rw [or_iff_not_imp_left]
  -- More tokens than an amount can number are more than there are cells.
  intro many
  rw [← Int.not_le]
  intro reached
  have enough : config.worldWidth * config.worldHeight ≤ surface.initial := by
    have cells := creatable.cells_le
    unfold maxBytes at cells
    unfold maxAmount at many
    omega
  obtain ⟨start, created, total, tokens⟩ :=
    World.create_sweep creatable own capped enough reached false
  obtain ⟨cap', headroom, capped', below, -⟩ :=
    stays Sweep ⟨0⟩ false start start [] created (fun _ member => nomatch member) rfl
  cases capped.symm.trans capped'
  omega

/-- As long as eating makes no energy, the tokens placed at the start decide whether
energy stays below the cap. -/
theorem staysBelowCap_iff (conserves : config.Conserves) :
    config.StaysBelowCap ↔ (config.Creatable → config.TokensBelowCap) := by
  constructor
  · exact fun stays creatable => stays.tokensBelowCap creatable
  · intro decided ρ _ _ source recording start world calls created internal performed
    have below := decided ((World.create_eq_ok_iff _ _ _ _).mp created).1
    obtain ⟨solvent, same⟩ :=
      World.performAll_solvent conserves below internal created performed
    obtain ⟨cap, capped, under⟩ := solvent.belowCap
    have funds : world.scene.funds = world.totalEnergy :=
      solvent.settled.funds_eq solvent.thriving rfl
    have nonneg : 0 ≤ world.scene.funds := Scene.funds_nonneg
    have tokens : 0 ≤ world.scene.tokenEnergy := Scene.tokenEnergy_nonneg solvent.accepted
    rw [funds] at under nonneg
    obtain ⟨headroom, room, left⟩ := World.headroom_of_below capped nonneg tokens under
    exact ⟨cap, headroom, same ▸ capped, under, room, left⟩

/-! ### A frugal world and a brimming one -/

/-- Where what is eaten is worth nothing, eating makes no energy. -/
theorem conserves_of_multiplier (worthless : config.orgEnergyMultiplier = 0.0)
    (value : 0 ≤ config.energyValue) : config.Conserves := by
  intro token _ _
  have gain : World.gainOf config token = 0 := by
    rw [World.gainOf, worthless]
    exact Register.truncate_round_mul_zero _
  rw [gain]
  exact ⟨Int.le_refl _, Int.mul_nonneg (Int.natCast_nonneg _) value⟩

/-- The small world, in which nothing is gained by eating. -/
def frugal : Config := { small with orgEnergyMultiplier := 0.0 }

set_option maxRecDepth 20000 in
theorem staysBelowCap_frugal :
    frugal.Conserves ∧ ∃ start world : World Generator,
      World.create frugal (.ofSeed 7) false = .ok (.ok start) ∧
      World.performAll [.step, .kill 0, .run] start = .ok world ∧
      ∃ cap, frugal.maxEnergy = .ok cap ∧ world.totalEnergy + world.tokenEnergy < cap := by
  have conserves : frugal.Conserves := conserves_of_multiplier rfl (by decide)
  have tokens : frugal.TokensBelowCap := by
    intro surface cap own _
    cases own
    exact .inl (by decide)
  have stays := (staysBelowCap_iff conserves).mpr fun _ => tokens
  obtain ⟨start, world, created, performed⟩ : ∃ start world : World Generator,
      World.create frugal (.ofSeed 7) false = .ok (.ok start) ∧
        World.performAll [.step, .kill 0, .run] start = .ok world := ⟨_, _, rfl, rfl⟩
  obtain ⟨cap, headroom, capped, below, -⟩ :=
    stays Generator (.ofSeed 7) false start world _ created (by decide) performed
  exact ⟨conserves, start, world, created, performed, cap, capped, below⟩

/-- Tokens whose number reads as a debt. -/
def flood : SurfaceConfig :=
  { SurfaceConfig.energyPackets with
    capacity := 9223372036854775808
    initial := 9223372036854775808 }

/-- A world of one cell, for as many tokens. -/
def brimming : Config :=
  { small with
    worldWidth := 1
    worldHeight := 1
    orgAmount := 2
    orgInitialPercent := 0.0
    orgEnergy := 1
    orgCloneEnergy := 2
    orgEnergyMultiplier := 0.0
    energyValue := 1
    surfaces := [flood] }

theorem validate_brimming : brimming.validate = .ok none := by
  have population : brimming.initialPopulation = 0 := by decide +kernel
  have debt : Amount.clamp (0 + brimming.initialTokenEnergy flood) < 1 := by decide +kernel
  refine (validate_eq_ok_none_iff _).mpr ⟨by decide +kernel, flood, [], 0, 1, 1, rfl, by decide,
    by decide +kernel, ?_, rfl, debt, rfl, ?_⟩
  · rw [population]
    rfl
  · rw [population]
    decide

/-- The check lets it pass, and its only token is already all that the cap allows. -/
theorem not_staysBelowCap_brimming :
    brimming.validate = .ok none ∧ brimming.Conserves ∧ ¬ brimming.StaysBelowCap := by
  refine ⟨validate_brimming, conserves_of_multiplier rfl (by decide), fun stays => ?_⟩
  have creatable : brimming.Creatable := ⟨validate_brimming, by decide, by decide, by decide⟩
  rcases stays.tokensBelowCap creatable _ 1 rfl rfl with fits | roomy
  · exact absurd fits (by decide)
  · exact absurd roomy (by decide)

end Config

end Vivarium
