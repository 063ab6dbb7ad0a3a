import Mathlib.Data.List.Nodup
import Vivarium.Config.Text
import Vivarium.Proofs.Json.Records

/-!
# The fields of configurations

Configurations and surfaces are taken apart into their fields. Each field is of one of a few kinds,
and a kind says which texts spell a value: a number within its bounds in decimal, a text or a
motion in quotes, a list of weights in brackets. What a text spells is what is read from it.
-/
namespace Vivarium

open Json (Codec Reads Digits NumberText SpellsString Bracketed)

/-! ### Kinds of values -/

theorem smallCount_reads {value : Nat} (small : value < limit32) :
    Reads smallCount.read (toString value).toList value :=
  Json.Reader.count_reads small (by decide)

theorem largeCount_reads {value : Nat} (small : value < limit64) :
    Reads largeCount.read (toString value).toList value :=
  Json.Reader.count_reads small (by decide)

theorem amount_reads {value : Int} (within : isAmount value = true) :
    Reads amount.read (toString value).toList value := by
  have bounds : minAmount ≤ value ∧ value ≤ maxAmount := by simpa [isAmount] using within
  refine Json.Reader.integer_reads ⟨bounds.1, ?_⟩ bounds
  exact Int.lt_of_le_of_lt bounds.2 (by decide)

theorem seed_reads {value : Nat} (small : value < limit64) :
    Reads largeCount.option.read (toString value).toList (some value) := by
  refine Json.Reader.option_reads_some (largeCount_reads small) ?_
  obtain ⟨c, others, same, start⟩ :=
    Json.Reader.isNumberStart_of_numberText (Json.Reader.numberText_toString value)
  have unlike : ¬ Json.Reader.isNumberStart 'n' = true := by decide
  rw [show (toString value).toList = c :: others from same]
  rintro letter
  obtain rfl := Option.some.inj letter
  exact unlike start

theorem Motion.text_injective : Function.Injective Motion.text := by
  intro first second same
  cases first <;> cases second <;> simp_all [Motion.text]

/-- What a field may hold. -/
inductive Kind where
  | small
  | large
  | amount
  | float
  | truth
  | text
  | motion
  | seed
  | weights

namespace Kind

def Value : Kind → Type
  | small | large => Nat
  | amount => Int
  | float => Float
  | truth => Bool
  | text => String
  | motion => Motion
  | seed => Option Nat
  | weights => Weights

def codec : (kind : Kind) → Codec kind.Value
  | small => smallCount
  | large => largeCount
  | amount => Vivarium.amount
  | float => Codec.float
  | truth => Codec.bool
  | text => Codec.text
  | motion => Motion.codec
  | seed => largeCount.option
  | weights => smallCount.vector mutationKindCount

/-- The texts of a value. A float has many; one of them is any number that is read as this float
when it stands alone. -/
def Spells : (kind : Kind) → List Char → kind.Value → Prop
  | small, written, (value : Nat) => value < limit32 ∧ written = (toString value).toList
  | large, written, (value : Nat) => value < limit64 ∧ written = (toString value).toList
  | amount, written, (value : Int) =>
    isAmount value = true ∧ written = (toString value).toList
  | float, written, value =>
    NumberText written ∧ Codec.float.ofText (String.ofList written) = .ok value
  | truth, written, (value : Bool) => written = (toString value).toList
  | text, written, value => SpellsString false written value
  | motion, written, value => SpellsString false written (Motion.text value)
  | seed, written, none => written = "null".toList
  | seed, written, some (value : Nat) => value < limit64 ∧ written = (toString value).toList
  | weights, written, value =>
    Bracketed (fun part (weight : Nat) => weight < limit32 ∧ part = (toString weight).toList)
      '[' ']' written (Vector.toList value)

theorem reads {kind : Kind} {written : List Char} {value : kind.Value}
    (spelled : kind.Spells written value) : Reads kind.codec.read written value := by
  cases kind with
  | small =>
    obtain ⟨small, rfl⟩ := spelled
    exact smallCount_reads small
  | large =>
    obtain ⟨small, rfl⟩ := spelled
    exact largeCount_reads small
  | amount =>
    obtain ⟨within, rfl⟩ := spelled
    exact amount_reads within
  | float => exact Json.Reader.float_reads spelled.1 spelled.2
  | truth =>
    obtain rfl := spelled
    exact Json.Reader.bool_reads value
  | text => exact Json.Reader.text_reads spelled
  | motion =>
    have listed : ∀ motion : Motion, motion ∈ [Motion.still, .spread, .settle, .evaporate] := by
      intro motion
      cases motion <;> decide
    exact Json.Reader.name_reads Motion.text_injective (listed value) spelled
  | seed =>
    cases value with
    | none =>
      obtain rfl := spelled
      exact Json.Reader.option_reads_none _
    | some value =>
      obtain ⟨small, rfl⟩ := spelled
      exact seed_reads small
  | weights =>
    have bracketed := Json.Bracketed.map spelled id
      fun part (weight : Nat) _ given => given.2 ▸ smallCount_reads given.1
    rw [List.map_id] at bracketed
    exact Json.Reader.vector_reads bracketed

end Kind

namespace SurfaceConfig

/-! ### Surfaces -/

inductive Field where
  | name | color | capacity | initial | energy | radiation | step | barrier | pickup | delay
  | motion
  deriving DecidableEq

def Field.kind : Field → Kind
  | .name => .text
  | .color | .step | .delay => .small
  | .capacity | .initial => .large
  | .energy => .amount
  | .radiation => .float
  | .barrier | .pickup => .truth
  | .motion => .motion

def Field.key : Field → String
  | .name => "name"
  | .color => "color"
  | .capacity => "capacity"
  | .initial => "initial"
  | .energy => "energy"
  | .radiation => "radiation"
  | .step => "step"
  | .barrier => "barrier"
  | .pickup => "pickup"
  | .delay => "delay"
  | .motion => "motion"

def get (surface : SurfaceConfig) : (field : Field) → field.kind.Value
  | .name => surface.name
  | .color => surface.color
  | .capacity => surface.capacity
  | .initial => surface.initial
  | .energy => surface.energy
  | .radiation => surface.radiation
  | .step => surface.step
  | .barrier => surface.barrier
  | .pickup => surface.pickup
  | .delay => surface.delay
  | .motion => surface.motion

def Field.all : List Field :=
  [.name, .color, .capacity, .initial, .energy, .radiation, .step, .barrier, .pickup, .delay,
    .motion]

/-- The configuration with these values. -/
def ofFields (values : (field : Field) → field.kind.Value) : SurfaceConfig where
  name := values .name
  color := values .color
  capacity := values .capacity
  initial := values .initial
  energy := values .energy
  radiation := values .radiation
  step := values .step
  barrier := values .barrier
  pickup := values .pickup
  delay := values .delay
  motion := values .motion

theorem Field.mem_all (field : Field) : field ∈ Field.all := by
  cases field <;> decide

theorem Field.key_injective : Function.Injective Field.key := fun first second same =>
  List.inj_on_of_nodup_map (by decide : (Field.all.map Field.key).Nodup) first.mem_all
    second.mem_all same

def schema : Json.Schema SurfaceConfig Field where
  Value field := field.kind.Value
  codec field := field.kind.codec
  key := Field.key
  get field record := record.get field
  build := ofFields
  all := Field.all
  get_build _ field := by cases field <;> rfl
  build_get _ := rfl
  mem_all := Field.mem_all
  key_injective := Field.key_injective

theorem fields_eq : fields = schema.fields := rfl

end SurfaceConfig

/-! ### Configurations -/

/-- What a field of a configuration may hold: a value of some kind, or the surfaces. -/
inductive Slot where
  | plain (kind : Kind)
  | surfaces

namespace Slot

def Value : Slot → Type
  | plain kind => kind.Value
  | surfaces => List SurfaceConfig

def codec : (slot : Slot) → Codec slot.Value
  | plain kind => kind.codec
  | surfaces => SurfaceConfig.codec.list

end Slot

namespace Config

inductive Field where
  | worldWidth | worldHeight | rngSeed | linesPerIteration | iterationsPerRun | orgAmount
  | orgInitialPercent | orgInitialCodeSize | orgEnergy | orgCloneEnergy | orgStepEnergy
  | orgEatOrgs | orgEnergyMultiplier | orgMemSize | orgMutationPercent | orgMutationPeriod
  | orgMaxPeriod | probMaxValue | orgProbs | orgEnergyPeriod | orgMaxAge | orgColor | energyValue
  | codeMaxSize | codeStackSize | codeOpcodeChance | codeMutateEveryClone
  | codeCrossoverEveryClone | cataclysmEvery | cataclysmSimilarity | cataclysmCullPercent
  | cataclysmSamplePercent | historyCapacity | surfaces
  deriving DecidableEq

def Field.slot : Field → Slot
  | .worldWidth | .worldHeight | .orgMutationPeriod | .orgMaxPeriod | .probMaxValue
    | .orgColor | .codeMutateEveryClone | .codeCrossoverEveryClone => .plain .small
  | .rngSeed => .plain .seed
  | .linesPerIteration | .iterationsPerRun | .orgAmount | .orgInitialCodeSize
    | .orgMemSize | .orgEnergyPeriod | .orgMaxAge | .codeMaxSize | .codeStackSize
    | .cataclysmEvery | .historyCapacity => .plain .large
  | .orgInitialPercent | .orgEnergyMultiplier | .orgMutationPercent | .codeOpcodeChance
    | .cataclysmSimilarity | .cataclysmCullPercent | .cataclysmSamplePercent => .plain .float
  | .orgEnergy | .orgCloneEnergy | .orgStepEnergy | .energyValue => .plain .amount
  | .orgEatOrgs => .plain .truth
  | .orgProbs => .plain .weights
  | .surfaces => .surfaces

def Field.key : Field → String
  | .worldWidth => "world_width"
  | .worldHeight => "world_height"
  | .rngSeed => "rng_seed"
  | .linesPerIteration => "lines_per_iteration"
  | .iterationsPerRun => "iterations_per_run"
  | .orgAmount => "org_amount"
  | .orgInitialPercent => "org_initial_percent"
  | .orgInitialCodeSize => "org_initial_code_size"
  | .orgEnergy => "org_energy"
  | .orgCloneEnergy => "org_clone_energy"
  | .orgStepEnergy => "org_step_energy"
  | .orgEatOrgs => "org_eat_orgs"
  | .orgEnergyMultiplier => "org_energy_multiplier"
  | .orgMemSize => "org_mem_size"
  | .orgMutationPercent => "org_mutation_percent"
  | .orgMutationPeriod => "org_mutation_period"
  | .orgMaxPeriod => "org_max_period"
  | .probMaxValue => "prob_max_value"
  | .orgProbs => "org_probs"
  | .orgEnergyPeriod => "org_energy_period"
  | .orgMaxAge => "org_max_age"
  | .orgColor => "org_color"
  | .energyValue => "energy_value"
  | .codeMaxSize => "code_max_size"
  | .codeStackSize => "code_stack_size"
  | .codeOpcodeChance => "code_opcode_chance"
  | .codeMutateEveryClone => "code_mutate_every_clone"
  | .codeCrossoverEveryClone => "code_crossover_every_clone"
  | .cataclysmEvery => "cataclysm_every"
  | .cataclysmSimilarity => "cataclysm_similarity"
  | .cataclysmCullPercent => "cataclysm_cull_percent"
  | .cataclysmSamplePercent => "cataclysm_sample_percent"
  | .historyCapacity => "history_capacity"
  | .surfaces => "surfaces"

def get (config : Config) : (field : Field) → field.slot.Value
  | .worldWidth => config.worldWidth
  | .worldHeight => config.worldHeight
  | .rngSeed => config.rngSeed
  | .linesPerIteration => config.linesPerIteration
  | .iterationsPerRun => config.iterationsPerRun
  | .orgAmount => config.orgAmount
  | .orgInitialPercent => config.orgInitialPercent
  | .orgInitialCodeSize => config.orgInitialCodeSize
  | .orgEnergy => config.orgEnergy
  | .orgCloneEnergy => config.orgCloneEnergy
  | .orgStepEnergy => config.orgStepEnergy
  | .orgEatOrgs => config.orgEatOrgs
  | .orgEnergyMultiplier => config.orgEnergyMultiplier
  | .orgMemSize => config.orgMemSize
  | .orgMutationPercent => config.orgMutationPercent
  | .orgMutationPeriod => config.orgMutationPeriod
  | .orgMaxPeriod => config.orgMaxPeriod
  | .probMaxValue => config.probMaxValue
  | .orgProbs => config.orgProbs
  | .orgEnergyPeriod => config.orgEnergyPeriod
  | .orgMaxAge => config.orgMaxAge
  | .orgColor => config.orgColor
  | .energyValue => config.energyValue
  | .codeMaxSize => config.codeMaxSize
  | .codeStackSize => config.codeStackSize
  | .codeOpcodeChance => config.codeOpcodeChance
  | .codeMutateEveryClone => config.codeMutateEveryClone
  | .codeCrossoverEveryClone => config.codeCrossoverEveryClone
  | .cataclysmEvery => config.cataclysmEvery
  | .cataclysmSimilarity => config.cataclysmSimilarity
  | .cataclysmCullPercent => config.cataclysmCullPercent
  | .cataclysmSamplePercent => config.cataclysmSamplePercent
  | .historyCapacity => config.historyCapacity
  | .surfaces => config.surfaces

def Field.all : List Field :=
  [.worldWidth, .worldHeight, .rngSeed, .linesPerIteration, .iterationsPerRun, .orgAmount,
    .orgInitialPercent, .orgInitialCodeSize, .orgEnergy, .orgCloneEnergy, .orgStepEnergy,
    .orgEatOrgs, .orgEnergyMultiplier, .orgMemSize, .orgMutationPercent, .orgMutationPeriod,
    .orgMaxPeriod, .probMaxValue, .orgProbs, .orgEnergyPeriod, .orgMaxAge, .orgColor,
    .energyValue, .codeMaxSize, .codeStackSize, .codeOpcodeChance, .codeMutateEveryClone,
    .codeCrossoverEveryClone, .cataclysmEvery, .cataclysmSimilarity, .cataclysmCullPercent,
    .cataclysmSamplePercent, .historyCapacity, .surfaces]

/-- The configuration with these values. -/
def ofFields (values : (field : Field) → field.slot.Value) : Config where
  worldWidth := values .worldWidth
  worldHeight := values .worldHeight
  rngSeed := values .rngSeed
  linesPerIteration := values .linesPerIteration
  iterationsPerRun := values .iterationsPerRun
  orgAmount := values .orgAmount
  orgInitialPercent := values .orgInitialPercent
  orgInitialCodeSize := values .orgInitialCodeSize
  orgEnergy := values .orgEnergy
  orgCloneEnergy := values .orgCloneEnergy
  orgStepEnergy := values .orgStepEnergy
  orgEatOrgs := values .orgEatOrgs
  orgEnergyMultiplier := values .orgEnergyMultiplier
  orgMemSize := values .orgMemSize
  orgMutationPercent := values .orgMutationPercent
  orgMutationPeriod := values .orgMutationPeriod
  orgMaxPeriod := values .orgMaxPeriod
  probMaxValue := values .probMaxValue
  orgProbs := values .orgProbs
  orgEnergyPeriod := values .orgEnergyPeriod
  orgMaxAge := values .orgMaxAge
  orgColor := values .orgColor
  energyValue := values .energyValue
  codeMaxSize := values .codeMaxSize
  codeStackSize := values .codeStackSize
  codeOpcodeChance := values .codeOpcodeChance
  codeMutateEveryClone := values .codeMutateEveryClone
  codeCrossoverEveryClone := values .codeCrossoverEveryClone
  cataclysmEvery := values .cataclysmEvery
  cataclysmSimilarity := values .cataclysmSimilarity
  cataclysmCullPercent := values .cataclysmCullPercent
  cataclysmSamplePercent := values .cataclysmSamplePercent
  historyCapacity := values .historyCapacity
  surfaces := values .surfaces

theorem Field.mem_all (field : Field) : field ∈ Field.all := by
  cases field <;> decide

theorem Field.key_injective : Function.Injective Field.key := fun first second same =>
  List.inj_on_of_nodup_map (by decide : (Field.all.map Field.key).Nodup) first.mem_all
    second.mem_all same

def schema : Json.Schema Config Field where
  Value field := field.slot.Value
  codec field := field.slot.codec
  key := Field.key
  get field record := record.get field
  build := ofFields
  all := Field.all
  get_build _ field := by cases field <;> rfl
  build_get _ := rfl
  mem_all := Field.mem_all
  key_injective := Field.key_injective

theorem fields_eq : fields = schema.fields := rfl

end Config

end Vivarium
