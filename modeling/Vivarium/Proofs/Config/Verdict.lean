import Vivarium.Proofs.Calls
import Vivarium.Proofs.Worth

/-!
# The verdict on a configuration

Most checks look at one value, and tokens are counted with clamping arithmetic. Only the
energy of the first population and the cap are exact products. A configuration that passes
the checks before them has no verdict if one of the two is out of range; any other one has.
-/
namespace Vivarium

theorem Amount.mul_of_outside {a b : Int} (outside : isAmount (a * b) = false) :
    mul a b = .error .mulOverflow := by
  rw [mul, guard, outside]
  rfl

theorem Amount.mul_of_inside {a b : Int} (inside : isAmount (a * b) = true) :
    mul a b = .ok (a * b) :=
  (mul_eq_ok_iff _ _ _).mpr ⟨inside, rfl⟩

namespace Config

variable {config : Config}

/-- The numbers of a configuration are in the range of their types. -/
structure Typed (config : Config) : Prop where
  amounts : config.Representable
  width : config.worldWidth < limit32
  height : config.worldHeight < limit32

/-- The checks of the values and of the surfaces are passed. -/
def Sensible (config : Config) : Prop :=
  firstError config.valueChecks = none ∧
    ∃ energySurface others, config.surfaces = energySurface :: others ∧
      others.length + 1 ≤ kindCount ∧ firstError (config.surfaceChecks energySurface) = none

/-- The energy of the first population, or the cap, is no amount. -/
def Excessive (config : Config) : Prop :=
  isAmount (Amount.wrap config.initialPopulation * config.orgEnergy) = false ∨
    isAmount ((config.orgCloneEnergy - 1) * (Amount.wrap config.orgAmount).tdiv 2) = false

/-! ### What is combined -/

theorem Sensible.cloneEnergy (sensible : config.Sensible) : 2 ≤ config.orgCloneEnergy := by
  have values := (firstError_eq_none_iff _).mp sensible.1
  have checked := values (decide (config.orgCloneEnergy < 2), .cloneEnergyTooSmall)
    (by simp [valueChecks])
  exact Int.not_lt.mp (of_decide_eq_false checked)

/-- The number subtracted is small, and what is left is an amount. -/
theorem maxEnergy_eq (typed : config.Typed) (sensible : config.Sensible) :
    config.maxEnergy =
      Amount.mul (config.orgCloneEnergy - 1) ((Amount.wrap config.orgAmount).tdiv 2) := by
  have cloneEnergy := sensible.cloneEnergy
  have amount := (isAmount_iff _).mp (typed.amounts config.orgCloneEnergy (by simp [amounts]))
  have left : Amount.sub config.orgCloneEnergy 1 = .ok (config.orgCloneEnergy - 1) := by
    rw [Amount.sub_eq_ok_iff, isAmount_iff]
    unfold minAmount at amount ⊢
    exact ⟨by omega, rfl⟩
  rw [maxEnergy, left]
  rfl

theorem cellCount_eq (typed : config.Typed) :
    config.cellCount = .ok (config.worldWidth * config.worldHeight) := by
  have few : config.worldWidth * config.worldHeight < limit64 :=
    Nat.mul_lt_mul'' typed.width typed.height
  exact if_pos few

/-! ### Verdicts -/

/-- A check that fails is a verdict. -/
theorem validate_of_not_sensible (careless : ¬ config.Sensible) :
    ∃ error, config.validate = .ok (some error) := by
  unfold validate
  split
  next error _ => exact ⟨error, rfl⟩
  next valuesPassed =>
    have values := Option.eq_none_iff_forall_ne_some.mpr valuesPassed
    split
    next => exact ⟨.surfaceCount, rfl⟩
    next energySurface others surfaces =>
      split
      next => exact ⟨.surfaceCount, rfl⟩
      next few =>
        split
        next error _ => exact ⟨error, rfl⟩
        next surfacesPassed =>
          have checked := Option.eq_none_iff_forall_ne_some.mpr surfacesPassed
          exact absurd ⟨values, energySurface, others, surfaces, by omega, checked⟩ careless

/-- The checks that are left once the values and the surfaces have passed theirs. -/
theorem Sensible.validate_eq (sensible : config.Sensible) : ∃ energySurface,
    config.validate = (do
      let seedEnergy ← Amount.mul (Amount.wrap config.initialPopulation) config.orgEnergy
      let cap ← config.maxEnergy
      if cap ≤ Amount.clamp (seedEnergy + config.initialTokenEnergy energySurface) then
        return some .aboveEnergyCap
      let cells ← config.cellCount
      if cells < config.initialPopulation then
        return some .crowded
      return none) := by
  obtain ⟨values, energySurface, others, surfaces, few, checked⟩ := sensible
  refine ⟨energySurface, ?_⟩
  unfold validate
  simp only [values, surfaces, checked, Nat.not_lt_of_le few, if_false]

theorem validate_of_excessive (typed : config.Typed) (sensible : config.Sensible)
    (excessive : config.Excessive) : config.validate = .error .mulOverflow := by
  obtain ⟨energySurface, answer⟩ := sensible.validate_eq
  rw [answer, maxEnergy_eq typed sensible]
  cases seeded : isAmount (Amount.wrap config.initialPopulation * config.orgEnergy) with
  | false =>
    rw [Amount.mul_of_outside seeded]
    rfl
  | true =>
    -- The first population is in range, so it is the cap that is not.
    have uncapped := excessive.resolve_left (by simp [seeded])
    rw [Amount.mul_of_inside seeded, Amount.mul_of_outside uncapped]
    rfl

theorem validate_of_not_excessive (typed : config.Typed) (sensible : config.Sensible)
    (moderate : ¬ config.Excessive) : ∃ verdict, config.validate = .ok verdict := by
  obtain ⟨seeded, capped⟩ := not_or.mp moderate
  rw [Bool.not_eq_false] at seeded capped
  have cap := (maxEnergy_eq typed sensible).trans (Amount.mul_of_inside capped)
  obtain ⟨energySurface, answer⟩ := sensible.validate_eq
  simp only [answer, bind_eq_ok_iff, Amount.mul_of_inside seeded, cap, cellCount_eq typed,
    Except.ok.injEq, exists_eq_left']
  split
  next => exact ⟨some .aboveEnergyCap, rfl⟩
  next =>
    by_cases crowd : config.worldWidth * config.worldHeight < config.initialPopulation
    · exact ⟨some .crowded, (bind_eq_ok_iff _ _ _).mpr ⟨_, rfl, if_pos crowd⟩⟩
    · exact ⟨none, (bind_eq_ok_iff _ _ _).mpr ⟨_, rfl, if_neg crowd⟩⟩

/-- A configuration gets its verdict, unless nothing is wrong with its values and its surfaces
and one of the two products is out of range; then that product is the fault. -/
theorem validate_answers (typed : config.Typed) :
    ((∃ verdict, config.validate = .ok verdict) ↔ ¬ (config.Sensible ∧ config.Excessive)) ∧
      ∀ fault, config.validate = .error fault ↔
        fault = .mulOverflow ∧ config.Sensible ∧ config.Excessive := by
  by_cases sensible : config.Sensible
  · by_cases excessive : config.Excessive
    · rw [validate_of_excessive typed sensible excessive]
      simp [sensible, excessive, eq_comm]
    · obtain ⟨verdict, answer⟩ := validate_of_not_excessive typed sensible excessive
      simp [answer, excessive]
  · obtain ⟨error, answer⟩ := validate_of_not_sensible sensible
    simp [answer, sensible]

theorem validate_answers_small :
    Config.small.Typed ∧ ¬ (Config.small.Sensible ∧ Config.small.Excessive) ∧
      ∃ verdict, Config.small.validate = .ok verdict := by
  have typed : Config.small.Typed := ⟨by decide, by decide, by decide⟩
  have moderate : ¬ Config.small.Excessive := by
    unfold Excessive
    decide +kernel
  have unharmed : ¬ (Config.small.Sensible ∧ Config.small.Excessive) := fun both => moderate both.2
  exact ⟨typed, unharmed, (validate_answers typed).1.mpr unharmed⟩

/-- The small world, whose organisms are as rich as can be. -/
def lavish : Config := { small with orgEnergy := maxAmount }

theorem validate_lavish :
    lavish.Typed ∧ lavish.maxEnergy = .ok 3998 ∧ lavish.validate = .error .mulOverflow := by
  refine ⟨⟨by decide, by decide, by decide⟩, rfl, ?_⟩
  decide +kernel

end Config

end Vivarium
