import Vivarium.Pool
import Vivarium.Mutation
import Vivarium.Surface

/-!
# Worlds

A world owns the grid with its surfaces, the pool of organisms, the source of
chance and the energy ledger. The ledger is the energy of all organisms in one
number; whatever changes the energy of an organism changes it here as well, and
what would leave the range of amounts faults.
-/
namespace Vivarium

structure BirthRecord where
  id : Nat
  parent : Option Nat
  iteration : Nat
  offset : Nat
  energy : Int
  code : Genome
  deriving DecidableEq, Repr

structure RunSummary where
  iteration : Nat
  organisms : Nat
  totalEnergy : Int
  averageEnergy : Int
  diff : Float
  generation : Nat
  linesExecuted : Nat

def RunSummary.bytes : Nat := 56

/-- Samples of how far the genomes of two organisms are apart. -/
structure Probe where
  samples : Nat
  distance : Nat
  size : Nat
  /-- Average distance over average size when last computed, to two decimals. -/
  diff : Float

namespace Probe

def empty : Probe := { samples := 0, distance := 0, size := 0, diff := 0.0 }

/-- Compute the ratio anew, if there is anything to compute it from. -/
def refresh (probe : Probe) : Probe :=
  if probe.size = 0 then probe
  else
    let ratio := Register.ofNat probe.distance / Register.ofNat probe.size
    { probe with diff := Register.round (ratio * 100.0) / 100.0 }

/-- Forget the samples and keep the ratio. -/
def reset (probe : Probe) : Probe := { empty with diff := probe.diff }

end Probe

/-- The state of a world whose chance comes from a source of type `ρ`. -/
structure World (ρ : Type) where
  config : Config
  grid : Grid
  surfaces : List Surface
  pool : Pool
  source : ρ
  totalEnergy : Int
  nextId : Nat
  iteration : Nat
  /-- How often the population was seeded. -/
  generation : Nat
  births : Nat
  deaths : Nat
  /-- Lines granted to organisms. -/
  linesGranted : Nat
  probe : Probe
  /-- The last run summaries, oldest first. -/
  history : Array RunSummary
  /-- The births recorded, newest first; `none` if they are not recorded. -/
  lineage : Option (List BirthRecord)

/-- Apply an operation to one surface and to the state it shares with the others. -/
@[specialize]
def onSurface {σ α : Type} (operation : Surface → σ → Outcome (α × Surface × σ)) :
    List Surface → (kind : Nat) → σ → Outcome (Option α × List Surface × σ)
  | [], _, state => .ok (none, [], state)
  | surface :: rest, 0, state => do
    let (answer, surface, state) ← operation surface state
    return (some answer, surface :: rest, state)
  | surface :: rest, kind + 1, state => do
    let (answer, rest, state) ← onSurface operation rest kind state
    return (answer, surface :: rest, state)

/-- Apply an operation to all surfaces, one after the other. -/
@[specialize]
def onSurfaces {σ α : Type} (operation : Surface → σ → Outcome (α × Surface × σ)) :
    List Surface → σ → Outcome (List Surface × σ)
  | [], state => .ok ([], state)
  | surface :: rest, state => do
    let (_, surface, state) ← operation surface state
    let (rest, state) ← onSurfaces operation rest state
    return (surface :: rest, state)

namespace World

variable {ρ : Type}

/-! ### Energy -/

/-- Energy in the energy tokens, carried ones included. -/
def tokenEnergy (world : World ρ) : Int :=
  match world.surfaces[energyKind]? with
  | none => 0
  | some surface => Amount.clamp (min maxAmount surface.atoms * world.config.energyValue)

/-- Energy that may still enter without reaching the cap. -/
def headroom (world : World ρ) : Outcome Int := do
  let cap ← world.config.maxEnergy
  let rest ← Amount.sub cap world.totalEnergy
  let rest ← Amount.sub rest world.tokenEnergy
  Amount.sub rest 1

/-- Take energy from an organism, and from the ledger. -/
def charge (world : World ρ) (org : Organism) (amount : Int) : Outcome (Organism × World ρ) := do
  let energy ← Amount.sub org.energy amount
  let totalEnergy ← Amount.sub world.totalEnergy amount
  return ({ org with energy }, { world with totalEnergy })

/-- Give energy to an organism, and to the ledger. -/
def credit (world : World ρ) (org : Organism) (amount : Int) : Outcome (Organism × World ρ) := do
  let energy ← Amount.add org.energy amount
  let totalEnergy ← Amount.add world.totalEnergy amount
  return ({ org with energy }, { world with totalEnergy })

/-! ### Birth and death -/

def allocateId (world : World ρ) : Outcome (Nat × World ρ) := do
  let nextId ← Count.add limit64 world.nextId 1
  return (world.nextId, { world with nextId })

/-- The record of the birth of an organism in this iteration. -/
def recordOf (world : World ρ) (org : Organism) : BirthRecord :=
  { id := org.id, parent := org.parent, iteration := world.iteration, offset := org.offset,
    energy := org.energy, code := org.code }

/-- Take a new organism into the pool, mark its cell, credit the ledger and record
the birth; none if the pool is full. -/
def adopt (world : World ρ) (org : Organism) : Outcome (Option Nat × World ρ) := do
  let record := world.recordOf org
  let (inserted, pool) ← world.pool.insert org
  match inserted with
  | none => return (none, { world with pool })
  | some slot =>
    let grid := world.grid.set record.offset (.organism slot)
    let totalEnergy ← Amount.add world.totalEnergy record.energy
    let births ← Count.add limit64 world.births 1
    return (some slot,
      { world with
        pool, grid, totalEnergy, births
        lineage := world.lineage.map (record :: ·) })

/-- Place a new organism on an empty cell; none if the cell is taken, the pool is
full or there is no energy to give. -/
def spawnOrganism (world : World ρ) (offset : Nat) (code : Genome) (energy : Int) :
    Outcome (Option Nat × World ρ) :=
  if energy ≤ 0 ∨ world.pool.isFull ∨ world.grid.size ≤ offset
      ∨ !(world.grid.get offset).isEmpty then
    .ok (none, world)
  else do
    let (id, world) ← world.allocateId
    let org ← Organism.create id offset energy world.config
    world.adopt (org.setCode code world.config.codeMaxSize)

/-- Add a token to a surface on an empty cell, and whether that was possible. -/
def spawnToken (world : World ρ) (offset kind atoms : Nat) : Outcome (Bool × World ρ) := do
  let (added, surfaces, grid) ←
    onSurface (fun surface grid => surface.insert grid offset atoms) world.surfaces kind world.grid
  return (added.getD false, { world with surfaces, grid })

/-- Whether a cell keeps organisms out. -/
def isBarrier (world : World ρ) : Cell → Bool
  | .empty => false
  | .organism _ => true
  | .token token =>
    match world.surfaces[token.kind]? with
    | none => false
    | some surface => surface.config.barrier

variable [DrawSource ρ]

/-- Settle ledger and grid for an organism that has left the pool: its cell shows
again what lay beneath, and the token it carried returns to the world. -/
def bury (world : World ρ) (org : Organism) : Outcome (World ρ) := do
  let totalEnergy ← Amount.sub world.totalEnergy org.energy
  let grid := world.grid.set org.offset org.beneath
  match org.packet with
  | none =>
    let deaths ← Count.add limit64 world.deaths 1
    return { world with grid, totalEnergy, deaths }
  | some packet =>
    let (_, surfaces, grid, source) ←
      onSurface (fun surface (grid, source) => surface.restore grid packet source)
        world.surfaces packet.kind (grid, world.source)
    let deaths ← Count.add limit64 world.deaths 1
    return { world with grid, surfaces, source, totalEnergy, deaths }

/-- Remove the organism of a slot, and whether there was one. -/
def kill (world : World ρ) (slot : Nat) : Outcome (Bool × World ρ) := do
  let (removed, pool) ← world.pool.remove slot
  match removed with
  | none => return (false, { world with pool })
  | some org =>
    let world ← { world with pool }.bury org
    return (true, world)

/-! ### Seeding -/

/-- A genome for a seeded organism. -/
def randomCode (world : World ρ) : Outcome (Genome × World ρ) := do
  let (code, source) ←
    Mutation.randomCode world.config.codeOpcodeChance world.config.orgInitialCodeSize world.source
  return (code, { world with source })

/-- Seed up to `wanted` organisms as long as there is energy for them, and count
those that found a cell. -/
def seedMany : (wanted placed : Nat) → World ρ → Outcome (Nat × World ρ)
  | 0, placed, world => .ok (placed, world)
  | wanted + 1, placed, world => do
    let headroom ← world.headroom
    let energy := min world.config.orgEnergy headroom
    if energy ≤ 0 then return (placed, world)
    else
      let (found, source) ← world.grid.randomEmpty restoreAttempts world.source
      let world := { world with source }
      match found with
      | none => seedMany wanted placed world
      | some offset =>
        let (code, world) ← world.randomCode
        let (slot, world) ← world.spawnOrganism offset code energy
        seedMany wanted (if slot.isSome then placed + 1 else placed) world

/-- Create a population, and how many organisms it has. -/
def seedPopulation (world : World ρ) : Outcome (Nat × World ρ) := do
  let (placed, world) ← seedMany world.config.initialPopulation 0 world
  let generation ← Count.add limit64 world.generation 1
  return (placed, { world with generation })

/-! ### Creation -/

/-- The surfaces of a configuration, numbered from `kind` on. -/
def surfacesFrom : (kind : Nat) → List SurfaceConfig → List Surface
  | _, [] => []
  | kind, config :: rest => .create kind config :: surfacesFrom (kind + 1) rest

/-- A world with its tokens and its first population, or why there is none. Births
are kept if `recording`. -/
def create (config : Config) (source : ρ) (recording : Bool) :
    Outcome (Except ConfigError (World ρ)) := do
  match ← config.validate with
  | some error => return .error error
  | none =>
    match ← Grid.ofConfig config with
    | .error error => return .error error
    | .ok grid =>
      -- Terrain comes first; organisms are placed on what is left of the grid.
      let (surfaces, grid, source) ←
        onSurfaces (fun surface (grid, source) => surface.seed grid source)
          (surfacesFrom 0 config.surfaces) (grid, source)
      let pool ← Pool.create config.orgAmount
      reserve config.historyCapacity RunSummary.bytes
      let world : World ρ :=
        { config, grid, surfaces, pool, source
          totalEnergy := 0
          nextId := 0
          iteration := 0
          generation := 0
          births := 0
          deaths := 0
          linesGranted := 0
          probe := .empty
          history := #[]
          lineage := if recording then some [] else none }
      let (_, world) ← world.seedPopulation
      return .ok world

/-! ### Observation -/

def watch (world : World ρ) : World ρ := { world with grid := world.grid.watch }

/-- What the view was told since the last time, oldest first. -/
def drainView (world : World ρ) : List ViewEvent × World ρ :=
  let (events, grid) := world.grid.drain
  (events, { world with grid })

/-- The births recorded since the last time, oldest first. -/
def drainLineage (world : World ρ) : List BirthRecord × World ρ :=
  match world.lineage with
  | none => ([], world)
  | some records => (records.reverse, { world with lineage := some [] })

def record (world : World ρ) : World ρ := { world with lineage := some [] }

def describe (world : World ρ) : String :=
  "WorldState \x7b grid: " ++ world.grid.describe
    ++ ", iteration: " ++ toString world.iteration
    ++ ", generation: " ++ toString world.generation
    ++ ", organisms: " ++ toString world.pool.size
    ++ ", total_energy: " ++ toString world.totalEnergy ++ " \x7d"

end World

end Vivarium
