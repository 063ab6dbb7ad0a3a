import Vivarium.World.Execute
import Vivarium.EditDistance

/-!
# The life of a population

An iteration visits the slots in order: an organism executes its slice and ages
by a year, then the world drops new energy and moves its tokens. A probe samples
how far the genomes are apart, and a population that has become too uniform
loses its lowest slots to fresh organisms. A run is a number of iterations; it
seeds a population that has died out.
-/
namespace Vivarium

/-- What happened in one iteration. -/
structure StepReport where
  iteration : Nat
  births : Nat
  deaths : Nat
  /-- Organisms replaced, if it was decided whether to. -/
  replaced : Option Nat
  deriving DecidableEq, Repr

namespace World

variable {ρ : Type} [DrawSource ρ]

/-! ### One iteration -/

/-- Mutate an organism whose age is a multiple of its period. -/
def mutateByAge (world : World ρ) (org : Organism) : Outcome (Organism × World ρ) :=
  if world.config.orgMutationPeriod = 0 ∨ org.age = 0 then .ok (org, world)
  else do
    let phase ← Count.rem org.age org.period
    if phase = 0 then
      let (_, org, source) ← org.mutate world.config world.source
      return (org, { world with source })
    else return (org, world)

def isTooOld (config : Config) (age : Nat) : Bool :=
  decide (0 < config.orgMaxAge ∧ 0 < age ∧ age % config.orgMaxAge = 0)

def losesEnergy (config : Config) (age : Nat) : Bool :=
  decide (0 < config.orgEnergyPeriod ∧ age % config.orgEnergyPeriod = 0)

def growOlder (org : Organism) : Outcome Organism := do
  let age ← Count.add limit64 org.age 1
  return { org with age }

/-- A year passes: mutation by age, death by age, loss of energy. -/
def ageOrganism (world : World ρ) (org : Organism) : Outcome (Fate × Organism × World ρ) := do
  let (org, world) ← world.mutateByAge org
  if isTooOld world.config org.age then return (.dead, org, world)
  else if losesEnergy world.config org.age then
    let (org, world) ← world.charge org 1
    if org.isAlive then
      let org ← growOlder org
      return (.alive, org, world)
    else return (.dead, org, world)
  else
    let org ← growOlder org
    return (.alive, org, world)

/-- Only survivors of their slice grow older. -/
def ageSurvivor (world : World ρ) (org : Organism) :
    Fate → Outcome (Fate × Organism × World ρ)
  | .alive => world.ageOrganism org
  | .dead => .ok (.dead, org, world)

/-- Drop an energy token while the world stays below its cap. -/
def replenish (world : World ρ) : Outcome (World ρ) := do
  let energy ← Amount.add world.totalEnergy world.tokenEnergy
  let energy ← Amount.add energy world.config.energyValue
  let cap ← world.config.maxEnergy
  if energy < cap then
    let (put, surfaces, grid, source) ←
      onSurface (fun surface (grid, source) => surface.put grid source) world.surfaces energyKind
        (world.grid, world.source)
    match put with
    | none => .error .outOfRange
    | some _ => return { world with surfaces, grid, source }
  else return world

def tickSurfaces (world : World ρ) : Outcome (World ρ) := do
  let (surfaces, grid, source) ←
    onSurfaces (fun surface (grid, source) => surface.tick grid source) world.surfaces
      (world.grid, world.source)
  return { world with surfaces, grid, source }

/-- The turn of one slot; an empty slot has none. -/
def visit (world : World ρ) (slot : Nat) : Outcome (World ρ) :=
  match world.pool.take slot with
  | none => .ok world
  | some (org, pool) => do
    let lines := world.config.linesPerIteration
    let (fate, org, world) ← executeLines slot lines org { world with pool }
    let (fate, org, world) ← world.ageSurvivor org fate
    let world ← world.settle slot org fate
    let linesGranted ← Count.add limit64 world.linesGranted lines
    let world ← { world with linesGranted }.replenish
    world.tickSurfaces

/-- The turns of so many slots from one on. -/
def visitFrom : (remaining slot : Nat) → World ρ → Outcome (World ρ)
  | 0, _, world => .ok world
  | remaining + 1, slot, world => do
    let world ← world.visit slot
    visitFrom remaining (slot + 1) world

/-! ### Cataclysms -/

/-- Replace the organism of a slot by a fresh one, if there is energy for it and an
empty cell; whether it was replaced. -/
def replace (world : World ρ) (slot : Nat) (victim : Organism) : Outcome (Bool × World ρ) := do
  let headroom ← world.headroom
  -- What the victim holds can be given to its successor.
  let available ← Amount.add headroom victim.energy
  let energy := min world.config.orgEnergy available
  let (found, source) ← world.grid.randomEmpty restoreAttempts world.source
  let world := { world with source }
  match found with
  | none => return (false, world)
  | some offset =>
    if energy ≤ 0 then return (false, world)
    else
      -- The offset was found empty before, so the victim's own cell is never the new one.
      let (_, world) ← world.kill slot
      let (code, world) ← world.randomCode
      let (slot, world) ← world.spawnOrganism offset code energy
      return (slot.isSome, world)

/-- Visit so many slots from one on and replace the organisms below the bound. An
empty slot raises the bound, so the bound counts organisms. -/
def cullFrom : (remaining slot bound replaced : Nat) → World ρ → Outcome (Nat × World ρ)
  | 0, _, _, replaced, world => .ok (replaced, world)
  | remaining + 1, slot, bound, replaced, world =>
    if slot < bound then
      match world.pool.get? slot with
      | none => do
        let bound ← Count.add limit64 bound 1
        cullFrom remaining (slot + 1) bound replaced world
      | some victim => do
        let (fresh, world) ← world.replace slot victim
        cullFrom remaining (slot + 1) bound (if fresh then replaced + 1 else replaced) world
    else .ok (replaced, world)

/-- How many organisms a cataclysm tries to replace. -/
def cullBound (world : World ρ) : Nat :=
  Register.truncateToCount
    (Register.ceil (Register.ofNat world.pool.size * world.config.cataclysmCullPercent))

/-- Replace a share of the population, lowest slots first; how many were replaced. -/
def cull (world : World ρ) : Outcome (Nat × World ρ) :=
  cullFrom world.pool.capacity 0 world.cullBound 0 world

/-- Iterations after which the ratio is computed with every sample. -/
def warmUp : Nat := 100

/-- Add the genomes of two organisms to the probe. -/
def sample (world : World ρ) (a b : Genome) : Outcome Probe := do
  let distance ← Count.add limit64 world.probe.distance (EditDistance.distance a b)
  let size ← Count.add limit64 world.probe.size ((a.length + b.length + 1) / 2)
  let probe := { world.probe with distance, size }
  let probe := if warmUp < world.iteration then probe.refresh else probe
  let samples ← Count.add limit64 probe.samples 1
  return { probe with samples }

/-- Samples that are not yet enough for a decision. -/
def isUndecided (config : Config) (probe : Probe) : Bool :=
  Register.ofNat probe.samples
    ≤ Register.ofNat config.orgAmount * config.cataclysmSamplePercent

/-- Whether the samples say that the population is too uniform. -/
def isUniform (config : Config) (probe : Probe) : Bool :=
  0 < probe.size && probe.diff < config.cataclysmSimilarity

/-- Decide with enough samples: cull a uniform population and start sampling anew. -/
def conclude (world : World ρ) : Outcome (Nat × World ρ) := do
  let world := { world with probe := world.probe.refresh }
  let (replaced, world) ←
    if isUniform world.config world.probe then world.cull else pure (0, world)
  return (replaced, { world with probe := world.probe.reset })

/-- Draw two slots and compare their organisms; whether there were two. -/
def compareTwo (world : World ρ) : Outcome (Bool × World ρ) := do
  let (first, source) ← Draw.position world.pool.capacity world.source
  let (second, source) ← Draw.position world.pool.capacity source
  let world := { world with source }
  match world.pool.get? first, world.pool.get? second with
  | some a, some b =>
    let probe ← world.sample a.code b.code
    return (true, { world with probe })
  | _, _ => return (false, world)

/-- Compare two organisms, and decide once there are enough samples. The answer is
how many organisms were replaced, if it was decided. -/
def updateCataclysm (world : World ρ) : Outcome (Option Nat × World ρ) := do
  let (compared, world) ← world.compareTwo
  if !compared || isUndecided world.config world.probe then return (none, world)
  else
    let (replaced, world) ← world.conclude
    return (some replaced, world)

def step (world : World ρ) : Outcome (StepReport × World ρ) := do
  let world ← visitFrom world.pool.capacity 0 { world with births := 0, deaths := 0 }
  let phase ← Count.rem world.iteration world.config.cataclysmEvery
  let (replaced, world) ← if phase = 0 then world.updateCataclysm else pure (none, world)
  let report : StepReport :=
    { iteration := world.iteration, births := world.births, deaths := world.deaths, replaced }
  let iteration ← Count.add limit64 world.iteration 1
  return (report, { world with iteration })

/-! ### Runs -/

/-- So many iterations, and the lines granted in them. -/
def iterate : (iterations lines : Nat) → World ρ → Outcome (Nat × World ρ)
  | 0, lines, world => .ok (lines, world)
  | iterations + 1, lines, world => do
    let before := world.linesGranted
    let (_, world) ← world.step
    let granted ← Count.sub world.linesGranted before
    let lines ← Count.add limit64 lines granted
    iterate iterations lines world

/-- Energy per organism, toward zero. -/
def averageEnergy (world : World ρ) : Int :=
  if world.pool.size = 0 then 0 else world.totalEnergy.tdiv world.pool.size

/-- The figures of the world as it stands. -/
def summarize (world : World ρ) (linesExecuted : Nat) : RunSummary :=
  { iteration := world.iteration
    organisms := world.pool.size
    totalEnergy := world.totalEnergy
    averageEnergy := world.averageEnergy
    diff := world.probe.diff
    generation := world.generation
    linesExecuted }

/-- Keep a summary; the oldest makes room for it. -/
def remember (world : World ρ) (summary : RunSummary) : World ρ :=
  if world.config.historyCapacity = 0 then world
  else if world.config.historyCapacity ≤ world.history.size then
    { world with history := (world.history.extract 1).push summary }
  else { world with history := world.history.push summary }

/-- Seed a population that has died out. -/
def revive (world : World ρ) : Outcome (World ρ) :=
  if world.pool.isEmpty then do
    let (_, world) ← world.seedPopulation
    return world
  else .ok world

/-- One run and its summary. -/
def run (world : World ρ) : Outcome (RunSummary × World ρ) := do
  let (lines, world) ← iterate world.config.iterationsPerRun 0 world
  let world ← world.revive
  let summary := world.summarize lines
  return (summary, world.remember summary)

end World

end Vivarium
