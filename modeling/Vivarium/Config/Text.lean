import Vivarium.Bounded
import Vivarium.Config
import Vivarium.Json.Codec

/-!
# Configurations as text

A configuration is written as a JSON object with one member per field. To read
one, any of the members may be missing: the world takes the standard
configuration for them, and each surface takes that of the energy packets,
whichever place it has in the list.
-/
namespace Vivarium

open Json (Codec RecordField)

def Motion.text : Motion → String
  | .still => "static"
  | .spread => "spread"
  | .settle => "settle"
  | .evaporate => "evaporate"

def Motion.codec : Codec Motion := .name text [.still, .spread, .settle, .evaporate]

/-- Counts of 32 bits. -/
def smallCount : Codec Nat := .count limit32

/-- Counts of 64 bits. -/
def largeCount : Codec Nat := .count limit64

def amount : Codec Int := .integer minAmount maxAmount

namespace SurfaceConfig

def fields : List (RecordField SurfaceConfig) :=
  [ Codec.text.field "name" (·.name) fun value config => { config with name := value },
    smallCount.field "color" (·.color) fun value config => { config with color := value },
    largeCount.field "capacity" (·.capacity) fun value config => { config with capacity := value },
    largeCount.field "initial" (·.initial) fun value config => { config with initial := value },
    amount.field "energy" (·.energy) fun value config => { config with energy := value },
    Codec.float.field "radiation" (·.radiation)
      fun value config => { config with radiation := value },
    smallCount.field "step" (·.step) fun value config => { config with step := value },
    Codec.bool.field "barrier" (·.barrier) fun value config => { config with barrier := value },
    Codec.bool.field "pickup" (·.pickup) fun value config => { config with pickup := value },
    smallCount.field "delay" (·.delay) fun value config => { config with delay := value },
    Motion.codec.field "motion" (·.motion) fun value config => { config with motion := value } ]

def codec : Codec SurfaceConfig := .record fields energyPackets

end SurfaceConfig

namespace Config

def fields : List (RecordField Config) :=
  [ smallCount.field "world_width" (·.worldWidth)
      fun value config => { config with worldWidth := value },
    smallCount.field "world_height" (·.worldHeight)
      fun value config => { config with worldHeight := value },
    largeCount.option.field "rng_seed" (·.rngSeed)
      fun value config => { config with rngSeed := value },
    largeCount.field "lines_per_iteration" (·.linesPerIteration)
      fun value config => { config with linesPerIteration := value },
    largeCount.field "iterations_per_run" (·.iterationsPerRun)
      fun value config => { config with iterationsPerRun := value },
    largeCount.field "org_amount" (·.orgAmount)
      fun value config => { config with orgAmount := value },
    Codec.float.field "org_initial_percent" (·.orgInitialPercent)
      fun value config => { config with orgInitialPercent := value },
    largeCount.field "org_initial_code_size" (·.orgInitialCodeSize)
      fun value config => { config with orgInitialCodeSize := value },
    amount.field "org_energy" (·.orgEnergy)
      fun value config => { config with orgEnergy := value },
    amount.field "org_clone_energy" (·.orgCloneEnergy)
      fun value config => { config with orgCloneEnergy := value },
    amount.field "org_step_energy" (·.orgStepEnergy)
      fun value config => { config with orgStepEnergy := value },
    Codec.bool.field "org_eat_orgs" (·.orgEatOrgs)
      fun value config => { config with orgEatOrgs := value },
    Codec.float.field "org_energy_multiplier" (·.orgEnergyMultiplier)
      fun value config => { config with orgEnergyMultiplier := value },
    largeCount.field "org_mem_size" (·.orgMemSize)
      fun value config => { config with orgMemSize := value },
    Codec.float.field "org_mutation_percent" (·.orgMutationPercent)
      fun value config => { config with orgMutationPercent := value },
    smallCount.field "org_mutation_period" (·.orgMutationPeriod)
      fun value config => { config with orgMutationPeriod := value },
    smallCount.field "org_max_period" (·.orgMaxPeriod)
      fun value config => { config with orgMaxPeriod := value },
    smallCount.field "prob_max_value" (·.probMaxValue)
      fun value config => { config with probMaxValue := value },
    (smallCount.vector mutationKindCount).field "org_probs" (·.orgProbs)
      fun value config => { config with orgProbs := value },
    largeCount.field "org_energy_period" (·.orgEnergyPeriod)
      fun value config => { config with orgEnergyPeriod := value },
    largeCount.field "org_max_age" (·.orgMaxAge)
      fun value config => { config with orgMaxAge := value },
    smallCount.field "org_color" (·.orgColor)
      fun value config => { config with orgColor := value },
    amount.field "energy_value" (·.energyValue)
      fun value config => { config with energyValue := value },
    largeCount.field "code_max_size" (·.codeMaxSize)
      fun value config => { config with codeMaxSize := value },
    largeCount.field "code_stack_size" (·.codeStackSize)
      fun value config => { config with codeStackSize := value },
    Codec.float.field "code_opcode_chance" (·.codeOpcodeChance)
      fun value config => { config with codeOpcodeChance := value },
    smallCount.field "code_mutate_every_clone" (·.codeMutateEveryClone)
      fun value config => { config with codeMutateEveryClone := value },
    smallCount.field "code_crossover_every_clone" (·.codeCrossoverEveryClone)
      fun value config => { config with codeCrossoverEveryClone := value },
    largeCount.field "cataclysm_every" (·.cataclysmEvery)
      fun value config => { config with cataclysmEvery := value },
    Codec.float.field "cataclysm_similarity" (·.cataclysmSimilarity)
      fun value config => { config with cataclysmSimilarity := value },
    Codec.float.field "cataclysm_cull_percent" (·.cataclysmCullPercent)
      fun value config => { config with cataclysmCullPercent := value },
    Codec.float.field "cataclysm_sample_percent" (·.cataclysmSamplePercent)
      fun value config => { config with cataclysmSamplePercent := value },
    largeCount.field "history_capacity" (·.historyCapacity)
      fun value config => { config with historyCapacity := value },
    SurfaceConfig.codec.list.field "surfaces" (·.surfaces)
      fun value config => { config with surfaces := value } ]

def codec : Codec Config := .record fields standard

end Config

end Vivarium
