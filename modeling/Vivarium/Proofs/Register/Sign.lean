import Mathlib
import Vivarium.Register

/-!
# The sign of register numbers

A number is below zero if it carries the sign and is neither a zero nor a NaN.
Rounding, and the way a number is stored, keep the sign; so a product or a sum of
numbers that are not below zero is not below zero, and neither is the integer it
is truncated to.
-/
namespace Vivarium.Register

open Float.Model (UnpackedFloat Format)
open Float.Model.UnpackedFloat (Sign Accuracy packComponents packedZero unpackSign
  roundWithAccuracy)

/-- Whether an unpacked number is below zero. -/
def isBelowZero : UnpackedFloat → Bool
  | .infinity .negative | .finite .negative .. => true
  | _ => false

/-! ### Storing a number -/

private theorem unpackSign_packComponents (spec : Format) (sign : Sign)
    (exponent : BitVec spec.exponentBits) (mantissa : BitVec spec.mantissaBitsWithoutImplicit) :
    unpackSign (packComponents spec sign exponent mantissa) = sign.toBitVec := by
  ext i inside
  have first : i = 0 := by omega
  subst first
  simp [unpackSign, packComponents, BitVec.getLsbD_append, BitVec.getElem_append]

private theorem isBelowZero_unpack_positive (spec : Format)
    (exponent : BitVec spec.exponentBits) (mantissa : BitVec spec.mantissaBitsWithoutImplicit) :
    isBelowZero (UnpackedFloat.unpack spec (packComponents spec .positive exponent mantissa))
      = false := by
  simp only [UnpackedFloat.unpack, unpackSign_packComponents]
  split
  · split <;> rfl
  · split
    · split <;> rfl
    · rfl

/-- A number that is not below zero is read back as one that is not. -/
theorem isBelowZero_pack (number : UnpackedFloat) (notBelow : isBelowZero number = false) :
    isBelowZero (Float.Model.pack number).unpack = false := by
  change isBelowZero
    (UnpackedFloat.unpack Format.binary64 (UnpackedFloat.pack Format.binary64 number)) = false
  -- The sign is stored on its own, so only the zeros have to be looked at one by one.
  cases number with
  | notANumber => exact isBelowZero_unpack_positive _ _ _
  | zero sign => cases sign <;> decide
  | infinity sign =>
    cases sign with
    | negative => cases notBelow
    | positive => exact isBelowZero_unpack_positive _ _ _
  | finite sign mantissa exponent positive =>
    cases sign with
    | negative => cases notBelow
    | positive =>
      simp only [UnpackedFloat.pack]
      split
      · exact isBelowZero_unpack_positive _ _ _
      · split <;> exact isBelowZero_unpack_positive _ _ _

/-! ### Rounding -/

private theorem isBelowZero_round (spec : Format) (mantissa : Nat) (exponent : Int)
    (accuracy : Accuracy) :
    isBelowZero (roundWithAccuracy spec .positive mantissa exponent accuracy) = false := by
  simp only [roundWithAccuracy]
  split <;> rfl

private theorem isBelowZero_normalize (spec : Format) (mantissa exponent : Int) (sign : Sign)
    (nonneg : 0 ≤ mantissa) :
    isBelowZero (UnpackedFloat.normalize spec mantissa exponent sign) = false := by
  unfold UnpackedFloat.normalize
  split
  next below =>
    rw [Int.compare_eq_lt] at below
    omega
  next => rfl
  next => exact isBelowZero_round _ _ _ _

/-! ### Arithmetic -/

private theorem isBelowZero_mul (spec : Format) (a b : UnpackedFloat)
    (aNotBelow : isBelowZero a = false) (bNotBelow : isBelowZero b = false) :
    isBelowZero (UnpackedFloat.mul spec a b) = false := by
  rcases a with (_ | _) | _ | (_ | _) | ⟨_ | _, _, _, _⟩ <;> cases aNotBelow <;>
    rcases b with (_ | _) | _ | (_ | _) | ⟨_ | _, _, _, _⟩ <;> cases bNotBelow <;>
    first | rfl | exact isBelowZero_round _ _ _ _

private theorem isBelowZero_add (spec : Format) (a b : UnpackedFloat)
    (aNotBelow : isBelowZero a = false) (bNotBelow : isBelowZero b = false) :
    isBelowZero (UnpackedFloat.add spec a b) = false := by
  rcases a with (_ | _) | _ | (_ | _) | ⟨_ | _, _, _, _⟩ <;> cases aNotBelow <;>
    rcases b with (_ | _) | _ | (_ | _) | ⟨_ | _, _, _, _⟩ <;> cases bNotBelow <;>
    first
    | rfl
    | apply isBelowZero_normalize
      exact Int.add_nonneg (Int.natCast_nonneg _) (Int.natCast_nonneg _)

theorem lt_iff (a b : Float) :
    a < b ↔ a.toModel.unpack.compare b.toModel.unpack = some .lt := by
  change decide (a.toModel < b.toModel) = true ↔ _
  rw [decide_eq_true_iff]
  change (a.toModel.unpack.compare b.toModel.unpack == some .lt) = true ↔ _
  exact beq_iff_eq

theorem lt_zero_iff (value : Float) :
    value < 0.0 ↔ isBelowZero value.toModel.unpack = true := by
  have zero : (0.0 : Float).toModel.unpack = .zero .positive := by rfl
  rw [lt_iff, zero]
  cases value.toModel.unpack with
  | notANumber => decide
  | infinity sign | zero sign => cases sign <;> decide
  | finite sign mantissa exponent positive =>
    cases sign <;> simp [isBelowZero, UnpackedFloat.compare]

theorem not_lt_zero_iff (value : Float) :
    ¬ value < 0.0 ↔ isBelowZero value.toModel.unpack = false := by
  rw [lt_zero_iff, Bool.not_eq_true]

theorem not_mul_lt_zero {a b : Float} (aNotBelow : ¬ a < 0.0) (bNotBelow : ¬ b < 0.0) :
    ¬ a * b < 0.0 := by
  rw [not_lt_zero_iff] at *
  exact isBelowZero_pack _ (isBelowZero_mul _ _ _ aNotBelow bNotBelow)

theorem not_add_lt_zero {a b : Float} (aNotBelow : ¬ a < 0.0) (bNotBelow : ¬ b < 0.0) :
    ¬ a + b < 0.0 := by
  rw [not_lt_zero_iff] at *
  exact isBelowZero_pack _ (isBelowZero_add _ _ _ aNotBelow bNotBelow)

theorem not_ofNat_lt_zero (value : Nat) : ¬ ofNat value < 0.0 := by
  rw [not_lt_zero_iff]
  exact isBelowZero_pack _ (isBelowZero_normalize _ _ _ _ (Int.natCast_nonneg _))

theorem not_ofInt_lt_zero {value : Int} (nonneg : 0 ≤ value) : ¬ ofInt value < 0.0 := by
  rw [ofInt, if_neg (by omega)]
  exact not_ofNat_lt_zero _

/-! ### Integers -/

theorem not_round_lt_zero {value : Float} (notBelow : ¬ value < 0.0) :
    ¬ round value < 0.0 := by
  have one : ¬ (1.0 : Float) < 0.0 := by
    rw [not_lt_zero_iff]
    rfl
  -- Rounding goes to the integer part, or one further up.
  simp only [round, notBelow, if_false]
  split
  · split
    · exact not_add_lt_zero (not_ofNat_lt_zero _) one
    · exact not_ofNat_lt_zero _
  · exact notBelow

theorem truncate_nonneg {value : Float} (notBelow : ¬ value < 0.0) : 0 ≤ truncate value := by
  rw [truncate, if_neg notBelow]
  unfold Amount.clamp minAmount maxAmount
  omega

/-- Whatever is multiplied by zero is a zero or no number, which as an integer is zero. -/
theorem truncate_round_mul_zero (a : Float) : truncate (round (a * 0.0)) = 0 := by
  have zero : (0.0 : Float).toModel.unpack = .zero .positive := by rfl
  have product : a * 0.0 = Float.ofModel (Float.Model.pack
      (UnpackedFloat.mul Format.binary64 a.toModel.unpack (.zero .positive))) := by
    rw [← zero]
    rfl
  rw [product]
  cases a.toModel.unpack with
  | notANumber => decide +kernel
  | infinity sign | zero sign => cases sign <;> decide +kernel
  | finite sign mantissa exponent positive =>
    simp only [UnpackedFloat.mul]
    cases sign <;> decide +kernel

end Vivarium.Register
