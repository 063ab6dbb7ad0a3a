import Vivarium.Proofs.Exchange

/-!
# Solvency

What organisms have and what lies in energy tokens stays below the cap together,
as long as eating makes no energy. A debt is not set off against the rest. No move makes
this sum larger but those that have asked for the headroom.
-/
namespace Vivarium

/-! ### Energy in atoms -/

/-- Energy in so many atoms, as far as it is an amount. -/
def stored (atoms : Nat) (value : Int) : Int := Amount.clamp (min maxAmount atoms * value)

theorem stored_mono {few many : Nat} {value : Int} (nonneg : 0 ≤ value) (le : few ≤ many) :
    stored few value ≤ stored many value := by
  apply Scene.clamp_le_clamp
  apply Int.mul_le_mul_of_nonneg_right _ nonneg
  omega

theorem stored_nonneg (atoms : Nat) {value : Int} (nonneg : 0 ≤ value) :
    0 ≤ stored atoms value := by
  have positive : (0 : Int) ≤ min maxAmount atoms := by
    unfold maxAmount
    omega
  have product := Int.mul_nonneg positive nonneg
  unfold stored Amount.clamp minAmount maxAmount at *
  omega

theorem stored_le (atoms : Nat) (value : Int) : stored atoms value ≤ maxAmount := by
  unfold stored Amount.clamp minAmount maxAmount
  omega

/-- More atoms add at most their energy. -/
theorem stored_add_le (atoms more : Nat) {value : Int} (nonneg : 0 ≤ value) :
    stored (atoms + more) value ≤ stored atoms value + more * value := by
  have fewer : min maxAmount ((atoms + more : Nat) : Int) ≤ min maxAmount atoms + more := by omega
  have product := Int.mul_le_mul_of_nonneg_right fewer nonneg
  have added : 0 ≤ (more : Int) * value := Int.mul_nonneg (Int.natCast_nonneg _) nonneg
  rw [Int.add_mul] at product
  have clamped := Scene.clamp_le_clamp product
  unfold stored
  unfold Amount.clamp minAmount maxAmount at *
  omega

/-- Below the largest amount the energy in atoms is exact. -/
theorem stored_eq {atoms : Nat} {value : Int} (positive : 0 < value)
    (below : stored atoms value < maxAmount) : stored atoms value = atoms * value := by
  -- An atom is worth one at least, so below the largest amount there are fewer atoms than that.
  have nonneg : (0 : Int) ≤ min maxAmount atoms := by
    unfold maxAmount
    omega
  have least := Int.mul_le_mul_of_nonneg_left (Int.add_one_le_of_lt positive) nonneg
  have product := Int.mul_nonneg nonneg (Int.le_of_lt positive)
  have few : (atoms : Int) < maxAmount := by
    unfold stored Amount.clamp minAmount at below
    omega
  have all : min maxAmount (atoms : Int) = atoms := by omega
  unfold stored at *
  rw [all] at below product ⊢
  unfold Amount.clamp minAmount at *
  omega

/-- A part is counted as a part, if the whole is not cut off. -/
theorem stored_add {few many : Nat} {value : Int} (positive : 0 < value)
    (below : stored (few + many) value < maxAmount) :
    stored few value + many * value = stored (few + many) value := by
  have fewer : stored few value ≤ stored (few + many) value :=
    stored_mono (Int.le_of_lt positive) (Nat.le_add_right _ _)
  rw [stored_eq positive below, stored_eq positive (Int.lt_of_le_of_lt fewer below), ← Int.add_mul]
  push_cast
  rfl

/-! ### Gains -/

/-- Eating makes no energy: a token yields no more than is in its atoms. -/
def Config.Conserves (config : Config) : Prop :=
  ∀ token : Token, 1 ≤ token.atoms → token.atoms ≤ maxAtoms →
    0 ≤ World.gainOf config token ∧ World.gainOf config token ≤ token.atoms * config.energyValue

namespace Scene

/-- Residents and tokens together have less than the cap. -/
def BelowCap (scene : Scene) : Prop :=
  ∃ cap, scene.config.maxEnergy = .ok cap ∧ scene.funds + scene.tokenEnergy < cap

/-- A scene that stays below the cap, with all that this depends on. -/
structure Solvent (scene : Scene) : Prop where
  accepted : scene.config.Accepted
  conserves : scene.config.Conserves
  accounted : scene.Accounted
  settled : scene.Settled
  thriving : scene.Thriving
  belowCap : scene.BelowCap

variable {scene next : Scene}

theorem BelowCap.mono (below : scene.BelowCap) (config : next.config = scene.config)
    (less : next.funds + next.tokenEnergy ≤ scene.funds + scene.tokenEnergy) : next.BelowCap := by
  obtain ⟨cap, capped, under⟩ := below
  exact ⟨cap, config ▸ capped, Int.lt_of_le_of_lt less under⟩

theorem tokenEnergy_eq_stored (scene : Scene) :
    scene.tokenEnergy = stored scene.atoms scene.config.energyValue := scene.tokenEnergy_eq

theorem tokenEnergy_nonneg (accepted : scene.config.Accepted) : 0 ≤ scene.tokenEnergy := by
  rw [scene.tokenEnergy_eq_stored]
  exact stored_nonneg scene.atoms (Int.le_of_lt accepted.energyValue)

/-! ### Moves -/

/-- What was afforded stays below the cap, since nobody is in debt while nobody executes. -/
theorem belowCap_of_afforded {amount earned : Int} {added : Nat}
    (accepted : scene.config.Accepted) (settled : scene.Settled) (thriving : scene.Thriving)
    (idle : scene.acting = none) (affords : scene.Affords amount)
    (sum : amount = earned + added * scene.config.energyValue)
    (config : next.config = scene.config) (richer : next.funds = scene.funds + earned)
    (more : next.atoms = scene.atoms + added) : next.BelowCap := by
  obtain ⟨cap, capped, under⟩ := affords
  have added := stored_add_le scene.atoms added (Int.le_of_lt accepted.energyValue)
  have before := scene.tokenEnergy_eq_stored
  have after := next.tokenEnergy_eq_stored
  rw [config, more] at after
  rw [← settled.funds_eq thriving idle] at under
  exact ⟨cap, config ▸ capped, by omega⟩

/-- Only what was afforded brings energy in; everything else moves it or loses it. -/
theorem Exchange.belowCap (exchange : Exchange Affords scene next)
    (config : next.config = scene.config) (solvent : scene.Solvent) : next.BelowCap := by
  have value := solvent.accepted.energyValue
  cases exchange with
  | keeps poorer fewer deserted =>
    have tokens := tokenEnergy_mono config fewer (Int.le_of_lt value)
    exact solvent.belowCap.mono config (Int.add_le_add poorer tokens)
  | yields token inhabited positive light gained eaten =>
    obtain ⟨cap, capped, under⟩ := solvent.belowCap
    have most := Config.maxEnergy_le capped
    have least : 0 ≤ scene.funds := funds_nonneg
    have gain := (solvent.conserves token positive light).2
    -- The sum is below the cap, so no energy of the tokens is cut off before or after.
    have before := scene.tokenEnergy_eq_stored
    have after := next.tokenEnergy_eq_stored
    rw [config] at after
    rw [← eaten] at before
    have whole : stored (next.atoms + token.atoms) scene.config.energyValue < maxAmount := by
      omega
    have part := stored_add value whole
    refine solvent.belowCap.mono config ?_
    omega
  | brings amount earned added idle admitted sum richer more =>
    exact belowCap_of_afforded solvent.accepted solvent.settled solvent.thriving idle admitted sum
      config richer more

theorem Move.solvent (move : Move Affords scene next) (solvent : scene.Solvent) :
    next.Solvent where
  accepted := move.config ▸ solvent.accepted
  conserves := move.config ▸ solvent.conserves
  accounted := move.accounted solvent.accounted
  settled := move.settled solvent.settled solvent.accounted.slotted
  thriving := move.thriving solvent.thriving
  belowCap := (move.exchange solvent.accepted solvent.accounted).belowCap move.config solvent

end Scene

end Vivarium
