import Vivarium.Cell

/-!
# Configuration

Everything that is fixed before a world starts. A configuration is plain data:
which values make a world possible is decided by `Config.validate`.
-/
namespace Vivarium

/-- How a surface redistributes its tokens. -/
inductive Motion where
  | still
  /-- A token drifts to an empty neighbouring cell. -/
  | spread
  /-- A token falls down, or diagonally down, onto an empty cell. -/
  | settle
  /-- A token is lifted and dropped onto any empty cell. -/
  | evaporate
  deriving DecidableEq, Repr

/-- One kind of terrain. -/
structure SurfaceConfig where
  name : String
  color : Nat
  /-- Most tokens alive at once, carried ones included. -/
  capacity : Nat
  /-- Tokens placed when the world is created. -/
  initial : Nat
  /-- Energy paid for stepping off this surface. -/
  energy : Int
  /-- Radiation taken up per step. -/
  radiation : Float
  /-- Steps by which this surface delays an organism. -/
  step : Nat
  /-- Organisms cannot step onto this surface. -/
  barrier : Bool
  /-- Organisms may carry tokens of this surface. -/
  pickup : Bool
  /-- Cadence checks between two moves. -/
  delay : Nat
  motion : Motion
  deriving BEq

namespace SurfaceConfig

/-- Energy packets: edible, carried freely, never moving. -/
def energyPackets : SurfaceConfig where
  name := "energy"
  color := 0x00ff00
  capacity := 10000
  initial := 0
  energy := 0
  radiation := 0.0
  step := 0
  barrier := false
  pickup := true
  delay := 0
  motion := .still

def lava : SurfaceConfig where
  name := "lava"
  color := 0xff6600
  capacity := 300
  initial := 300
  energy := 10
  radiation := 0.05
  step := 1
  barrier := false
  pickup := false
  delay := 500
  motion := .spread

def stone : SurfaceConfig where
  name := "stone"
  color := 0x888888
  capacity := 600
  initial := 600
  energy := 0
  radiation := 0.0
  step := 0
  barrier := true
  pickup := true
  delay := 0
  motion := .still

def water : SurfaceConfig where
  name := "water"
  color := 0x0000ff
  capacity := 1000
  initial := 1000
  energy := 1
  radiation := 0.0
  step := 2
  barrier := false
  pickup := false
  delay := 50
  motion := .spread

def sand : SurfaceConfig where
  name := "sand"
  color := 0xc2b280
  capacity := 600
  initial := 600
  energy := 0
  radiation := 0.0
  step := 1
  barrier := false
  pickup := true
  delay := 20
  motion := .settle

instance : Inhabited SurfaceConfig := ⟨energyPackets⟩

end SurfaceConfig

abbrev mutationKindCount : Nat := 8

/-- One weight per kind of mutation. -/
abbrev Weights := Vector Nat mutationKindCount

/-- Everything that is fixed before a world starts. -/
structure Config where
  worldWidth : Nat
  worldHeight : Nat
  /-- Seed of the draws; without one each run differs. -/
  rngSeed : Option Nat
  /-- Lines each organism executes per iteration. -/
  linesPerIteration : Nat
  iterationsPerRun : Nat
  /-- Capacity of the pool, and the population aimed at. -/
  orgAmount : Nat
  /-- Share of the capacity that a seeding creates. -/
  orgInitialPercent : Float
  /-- Random words given to a seeded organism. -/
  orgInitialCodeSize : Nat
  orgEnergy : Int
  /-- Energy needed to clone; also scales the world's energy cap. -/
  orgCloneEnergy : Int
  orgStepEnergy : Int
  /-- Organisms may eat each other. -/
  orgEatOrgs : Bool
  orgEnergyMultiplier : Float
  orgMemSize : Nat
  /-- Share of the genome that one mutation touches. -/
  orgMutationPercent : Float
  /-- Age between two mutations; zero disables them. -/
  orgMutationPeriod : Nat
  orgMaxPeriod : Nat
  probMaxValue : Nat
  orgProbs : Weights
  /-- Age between two losses of energy; zero disables them. -/
  orgEnergyPeriod : Nat
  /-- Age at which an organism dies; zero disables this. -/
  orgMaxAge : Nat
  orgColor : Nat
  /-- Energy of one atom of an energy token. -/
  energyValue : Int
  codeMaxSize : Nat
  codeStackSize : Nat
  /-- Chance that a random word is an instruction rather than a number. -/
  codeOpcodeChance : Float
  /-- One clone in so many is mutated; zero disables this. -/
  codeMutateEveryClone : Nat
  /-- One clone in so many is crossed over; zero disables this. -/
  codeCrossoverEveryClone : Nat
  /-- Iterations between two samples of the cataclysm probe. -/
  cataclysmEvery : Nat
  /-- A population more uniform than this is culled. -/
  cataclysmSimilarity : Float
  cataclysmCullPercent : Float
  /-- Samples needed for a decision, as a share of the capacity. -/
  cataclysmSamplePercent : Float
  /-- Most run summaries that are kept. -/
  historyCapacity : Nat
  /-- The terrain; the first surface is the one of energy. -/
  surfaces : List SurfaceConfig
  deriving BEq

namespace Config

/-- The configuration of a world about which nothing is said. -/
def standard : Config where
  worldWidth := 300
  worldHeight := 300
  rngSeed := none
  linesPerIteration := 30
  iterationsPerRun := 100
  orgAmount := 1000
  orgInitialPercent := 0.25
  orgInitialCodeSize := 0
  orgEnergy := 1000
  orgCloneEnergy := 2000
  orgStepEnergy := 1
  orgEatOrgs := true
  orgEnergyMultiplier := 1.0
  orgMemSize := 64
  orgMutationPercent := 0.2
  orgMutationPeriod := 4000
  orgMaxPeriod := 5000
  probMaxValue := 100
  orgProbs := #v[5, 1, 3, 5, 1, 20, 1, 1]
  orgEnergyPeriod := 50
  orgMaxAge := 200000
  orgColor := 0xff0000
  energyValue := 100
  codeMaxSize := 1000
  codeStackSize := 30
  codeOpcodeChance := 0.5
  codeMutateEveryClone := 2
  codeCrossoverEveryClone := 10
  cataclysmEvery := 100
  cataclysmSimilarity := 0.3
  cataclysmCullPercent := 0.3
  cataclysmSamplePercent := 0.3
  historyCapacity := 256
  surfaces :=
    [.energyPackets, SurfaceConfig.lava, SurfaceConfig.stone, SurfaceConfig.water,
      SurfaceConfig.sand]

instance : Inhabited Config := ⟨standard⟩

end Config

end Vivarium
