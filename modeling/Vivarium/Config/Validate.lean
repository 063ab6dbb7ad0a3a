import Vivarium.Config
import Vivarium.Bounded

/-!
# Which configurations make a world

The checks run in a fixed order and the first one that fails is reported. Some
of the quantities compared are computed with exact arithmetic, so a
configuration with extreme values may fault instead of being refused.
-/
namespace Vivarium

/-- Why a configuration or a grid is refused. -/
inductive ConfigError where
  | emptyWorld
  | tooFewOrganisms
  | cloneEnergyTooSmall
  | noLines
  | noMemory
  | zeroPeriod
  | energyNotPositive
  | negativeMultiplier
  | fractionOutOfRange
  | surfaceCount
  | energyBarrier
  | surfaceAmounts
  | aboveEnergyCap
  | crowded
  | emptyGrid
  deriving DecidableEq, Repr

namespace ConfigError

def reason : ConfigError → String
  | emptyWorld => "world dimensions must be non-zero"
  | tooFewOrganisms => "org_amount must be at least 2"
  | cloneEnergyTooSmall => "org_clone_energy must be at least 2"
  | noLines => "lines_per_iteration must be non-zero"
  | noMemory => "org_mem_size and code_stack_size must be non-zero"
  | zeroPeriod => "org_max_period and cataclysm_every must be non-zero"
  | energyNotPositive =>
    "org_energy and energy_value must be positive, org_step_energy non-negative"
  | negativeMultiplier => "org_energy_multiplier must be non-negative"
  | fractionOutOfRange => "percentages and chances must lie in [0, 1]"
  | surfaceCount => "between 1 and 16 surfaces must be configured"
  | energyBarrier => "surface 0 is the energy surface and cannot be a barrier"
  | surfaceAmounts =>
    "surface initial amount cannot exceed capacity, costs must be non-negative"
  | aboveEnergyCap =>
    "initial organism and token energy must stay below the world energy cap"
  | crowded => "initial population does not fit into the world"
  | emptyGrid => "grid dimensions must be non-zero"

def message (error : ConfigError) : String := "invalid configuration: " ++ error.reason

end ConfigError

namespace Config

/-- Energy that organisms and energy tokens together stay below. -/
def maxEnergy (config : Config) : Outcome Int := do
  let factor ← Amount.sub config.orgCloneEnergy 1
  Amount.mul factor ((Amount.wrap config.orgAmount).tdiv 2)

/-- Organisms that a seeding creates. -/
def initialPopulation (config : Config) : Nat :=
  Register.truncateToCount
    (Register.ceil (Register.ofNat config.orgAmount * config.orgInitialPercent))

def cellCount (config : Config) : Outcome Nat :=
  Count.mul limit64 config.worldWidth config.worldHeight

/-- The shares and chances, in the order of their declaration. -/
def fractions (config : Config) : List Float :=
  [config.orgInitialPercent, config.orgMutationPercent, config.codeOpcodeChance,
    config.cataclysmSimilarity, config.cataclysmCullPercent, config.cataclysmSamplePercent]

def isFraction (value : Float) : Bool := 0.0 ≤ value && value ≤ 1.0

/-- Whether a surface places more than it may hold or hands out energy. -/
def badAmounts (surface : SurfaceConfig) : Bool :=
  surface.capacity < surface.initial || surface.radiation < 0.0 || surface.energy < 0

/-- The first error whose check holds. -/
def firstError : List (Bool × ConfigError) → Option ConfigError
  | [] => none
  | (failed, error) :: rest => if failed then some error else firstError rest

/-- The checks of single values, each with the error it stands for. -/
def valueChecks (config : Config) : List (Bool × ConfigError) :=
  [ (config.worldWidth == 0 || config.worldHeight == 0, .emptyWorld),
    (decide (config.orgAmount < 2), .tooFewOrganisms),
    (decide (config.orgCloneEnergy < 2), .cloneEnergyTooSmall),
    (config.linesPerIteration == 0, .noLines),
    (config.orgMemSize == 0 || config.codeStackSize == 0, .noMemory),
    (config.orgMaxPeriod == 0 || config.cataclysmEvery == 0, .zeroPeriod),
    (decide (config.orgEnergy ≤ 0 ∨ config.energyValue ≤ 0 ∨ config.orgStepEnergy < 0),
      .energyNotPositive),
    (decide (config.orgEnergyMultiplier < 0.0), .negativeMultiplier),
    (config.fractions.any (!isFraction ·), .fractionOutOfRange) ]

/-- The checks of the surfaces, of which the first is the one of energy. -/
def surfaceChecks (config : Config) (energySurface : SurfaceConfig) :
    List (Bool × ConfigError) :=
  [ (energySurface.barrier, .energyBarrier),
    (config.surfaces.any badAmounts, .surfaceAmounts) ]

/-- Energy of the tokens placed at creation. -/
def initialTokenEnergy (config : Config) (energySurface : SurfaceConfig) : Int :=
  Amount.clamp (Amount.wrap energySurface.initial * config.energyValue)

/-- The error that keeps a configuration from making a world, if there is one. -/
def validate (config : Config) : Outcome (Option ConfigError) := do
  if let some error := firstError config.valueChecks then
    return some error
  match config.surfaces with
  | [] => return some .surfaceCount
  | energySurface :: others =>
    if kindCount < others.length + 1 then
      return some .surfaceCount
    if let some error := firstError (config.surfaceChecks energySurface) then
      return some error
    -- From here on numbers are combined, and a combination out of range is a fault.
    let seedEnergy ← Amount.mul (Amount.wrap config.initialPopulation) config.orgEnergy
    let cap ← config.maxEnergy
    if cap ≤ Amount.clamp (seedEnergy + config.initialTokenEnergy energySurface) then
      return some .aboveEnergyCap
    let cells ← config.cellCount
    if cells < config.initialPopulation then
      return some .crowded
    return none

end Config

end Vivarium
