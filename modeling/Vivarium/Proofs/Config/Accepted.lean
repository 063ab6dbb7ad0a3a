import Vivarium.Config.Validate
import Vivarium.World.Execute
import Vivarium.Proofs.Register.Sign

/-!
# Accepted configurations

What the checks of a configuration establish once all of them are passed. The
invariants of worlds rest on these facts alone, not on the order of the checks.
-/
namespace Vivarium.Config

/-- The facts about a configuration that passes all checks. -/
structure Accepted (config : Config) : Prop where
  dimensions : config.worldWidth ≠ 0 ∧ config.worldHeight ≠ 0
  memory : config.orgMemSize ≠ 0 ∧ config.codeStackSize ≠ 0
  periods : config.orgMaxPeriod ≠ 0 ∧ config.cataclysmEvery ≠ 0
  cloneEnergy : 2 ≤ config.orgCloneEnergy
  organisms : 2 ≤ config.orgAmount
  energy : 0 < config.orgEnergy
  energyValue : 0 < config.energyValue
  stepEnergy : 0 ≤ config.orgStepEnergy
  multiplier : ¬ config.orgEnergyMultiplier < 0.0
  kinds : config.surfaces.length ≤ kindCount
  amounts : ∀ surface ∈ config.surfaces, surface.initial ≤ surface.capacity ∧ 0 ≤ surface.energy
  belowCap : ∃ (surface : SurfaceConfig) (seedEnergy cap : Int),
    config.surfaces[energyKind]? = some surface ∧
      Amount.mul (Amount.wrap config.initialPopulation) config.orgEnergy = .ok seedEnergy ∧
      config.maxEnergy = .ok cap ∧
      Amount.clamp (seedEnergy + config.initialTokenEnergy surface) < cap
  uncrowded : ∃ cells, config.cellCount = .ok cells ∧ config.initialPopulation ≤ cells

theorem firstError_eq_none_iff (checks : List (Bool × ConfigError)) :
    firstError checks = none ↔ ∀ check ∈ checks, check.1 = false := by
  induction checks with
  | nil => simp [firstError]
  | cons check rest ih =>
    obtain ⟨failed, error⟩ := check
    cases failed with
    | true => simp [firstError]
    | false => simp [firstError, ih]

/-- All checks, passed one after the other. -/
theorem validate_eq_ok_none_iff (config : Config) :
    config.validate = .ok none ↔ firstError config.valueChecks = none ∧
      ∃ (energySurface : SurfaceConfig) (others : List SurfaceConfig) (seedEnergy cap : Int)
        (cells : Nat),
        config.surfaces = energySurface :: others ∧ others.length + 1 ≤ kindCount ∧
        firstError (config.surfaceChecks energySurface) = none ∧
        Amount.mul (Amount.wrap config.initialPopulation) config.orgEnergy = .ok seedEnergy ∧
        config.maxEnergy = .ok cap ∧
        Amount.clamp (seedEnergy + config.initialTokenEnergy energySurface) < cap ∧
        config.cellCount = .ok cells ∧ config.initialPopulation ≤ cells := by
  constructor
  · intro valid
    unfold validate at valid
    -- Each check either ends in an error, which is not this answer, or goes on.
    split at valid
    next => cases valid
    next valuesPassed =>
      refine ⟨Option.eq_none_iff_forall_ne_some.mpr valuesPassed, ?_⟩
      split at valid
      next => cases valid
      next energySurface others surfaces =>
        split at valid
        next => cases valid
        next few =>
          split at valid
          next => cases valid
          next surfacesPassed =>
            obtain ⟨seedEnergy, seeded, valid⟩ := (bind_eq_ok_iff _ _ _).mp valid
            obtain ⟨cap, capped, valid⟩ := (bind_eq_ok_iff _ _ _).mp valid
            split at valid
            next => cases valid
            next below =>
              obtain ⟨cells, counted, valid⟩ := (bind_eq_ok_iff _ _ _).mp valid
              split at valid
              next => cases valid
              next fits =>
                exact ⟨energySurface, others, seedEnergy, cap, cells, surfaces, by omega,
                  Option.eq_none_iff_forall_ne_some.mpr surfacesPassed, seeded, capped, by omega,
                  counted, by omega⟩
  · rintro ⟨values, energySurface, others, seedEnergy, cap, cells, surfaces, few, checked, seeded,
      capped, below, counted, fits⟩
    unfold validate
    simp only [values, surfaces, checked, Nat.not_lt_of_le few, if_false]
    refine (bind_eq_ok_iff _ _ _).mpr ⟨seedEnergy, seeded, ?_⟩
    refine (bind_eq_ok_iff _ _ _).mpr ⟨cap, capped, ?_⟩
    simp only [Int.not_le_of_gt below, if_false]
    refine (bind_eq_ok_iff _ _ _).mpr ⟨cells, counted, ?_⟩
    simp only [Nat.not_lt_of_le fits, if_false]
    rfl

theorem accepted_of_validate {config : Config} (valid : config.validate = .ok none) :
    config.Accepted := by
  obtain ⟨values, energySurface, others, seedEnergy, cap, cells, surfaces, few, surfacesPassed,
    seeded, capped, below, counted, crowd⟩ := (validate_eq_ok_none_iff config).mp valid
  rw [firstError_eq_none_iff] at values surfacesPassed
  -- A list of checks without an error is a conjunction of their negations.
  simp only [valueChecks, List.forall_mem_cons, decide_eq_false_iff_not, Bool.or_eq_false_iff,
    beq_eq_false_iff_ne] at values
  simp only [surfaceChecks, List.forall_mem_cons, List.any_eq_false, badAmounts,
    Bool.or_eq_true, decide_eq_true_eq] at surfacesPassed
  obtain ⟨dimensions, organisms, cloneEnergy, -, memory, periods, energies, multiplier, -⟩ := values
  obtain ⟨-, amounts, -⟩ := surfacesPassed
  refine ⟨dimensions, memory, periods, by omega, by omega, by omega, by omega, by omega,
    multiplier, ?_, ?_, ?_, cells, counted, crowd⟩
  · rw [surfaces, List.length_cons]
    exact few
  · intro surface member
    have checked := amounts surface member
    omega
  · exact ⟨energySurface, seedEnergy, cap, by rw [surfaces]; rfl, seeded, capped, below⟩

/-- There is a surface, the one of energy. -/
theorem Accepted.surfaces_eq {config : Config} (accepted : config.Accepted) :
    ∃ surface others, config.surfaces = surface :: others := by
  obtain ⟨surface, -, -, own, -⟩ := accepted.belowCap
  cases surfaces : config.surfaces with
  | nil =>
    rw [surfaces] at own
    cases own
  | cons first others => exact ⟨first, others, rfl⟩

/-- What is eaten never takes energy away. -/
theorem Accepted.gain_nonneg {config : Config} (accepted : config.Accepted) (token : Token) :
    0 ≤ World.gainOf config token := by
  have value : ¬ Register.ofInt config.energyValue < 0.0 :=
    Register.not_ofInt_lt_zero (Int.le_of_lt accepted.energyValue)
  -- The gain is rounded and truncated from a product of numbers that are not below zero.
  apply Register.truncate_nonneg
  apply Register.not_round_lt_zero
  apply Register.not_mul_lt_zero _ accepted.multiplier
  exact Register.not_mul_lt_zero (Register.not_ofNat_lt_zero _) value

/-! ### The cap -/

theorem wrap_eq {count : Nat} (fits : (count : Int) ≤ maxAmount) : Amount.wrap count = count := by
  unfold maxAmount at fits
  apply Int.bmod_eq_of_le_mul_two <;> unfold limit64 <;> omega

theorem maxEnergy_le {config : Config} {cap : Int} (capped : config.maxEnergy = .ok cap) :
    cap ≤ maxAmount := by
  obtain ⟨factor, -, product⟩ := (bind_eq_ok_iff _ _ _).mp capped
  obtain ⟨inside, rfl⟩ := (Amount.mul_eq_ok_iff _ _ _).mp product
  exact ((isAmount_iff _).mp inside).2

/-- As long as the number of organisms can be read as an amount. -/
theorem Accepted.maxEnergy_nonneg {config : Config} {cap : Int} (accepted : config.Accepted)
    (capped : config.maxEnergy = .ok cap) (fits : (config.orgAmount : Int) ≤ maxAmount) :
    0 ≤ cap := by
  obtain ⟨factor, subtracted, product⟩ := (bind_eq_ok_iff _ _ _).mp capped
  rw [wrap_eq fits] at product
  obtain ⟨-, rfl⟩ := (Amount.mul_eq_ok_iff _ _ _).mp product
  obtain ⟨-, rfl⟩ := (Amount.sub_eq_ok_iff _ _ _).mp subtracted
  have share : 0 ≤ (config.orgAmount : Int).tdiv 2 :=
    Int.tdiv_nonneg (Int.natCast_nonneg _) (by decide)
  have cloneEnergy := accepted.cloneEnergy
  exact Int.mul_nonneg (by omega) share

end Vivarium.Config
