import Mathlib
import Vivarium.Cell

/-!
# Finite register numbers

What the integer world puts into a register is finite: a count, an amount and what is read
from a token are far below the largest number, and rounding adds one bit at most. Whatever
arithmetic gives is finite once it is saturated, and a quotient is kept only if it is.
-/
namespace Vivarium.Register

open Float.Model (UnpackedFloat Format totalExponent)
open Float.Model.UnpackedFloat (Sign Accuracy ExtendedMantissa packComponents roundWithAccuracy
  shiftToExponent shiftToTargetExponent decreaseExponent)

/-! ### Leading digits -/

/-- A finite number whose leading digit stands at this place at most. -/
def Below (bound : Int) : UnpackedFloat → Prop
  | .zero _ => True
  | .finite _ mantissa exponent _ => totalExponent mantissa exponent ≤ bound
  | _ => False

private theorem log2_mul_le (m n : Nat) : (m * n).log2 ≤ m.log2 + n.log2 + 1 := by
  by_cases zero : m * n = 0
  · simp [zero]
  · have small : m * n < 2 ^ (m.log2 + n.log2 + 2) := by
      calc m * n < 2 ^ (m.log2 + 1) * 2 ^ (n.log2 + 1) :=
            Nat.mul_lt_mul'' Nat.lt_log2_self Nat.lt_log2_self
        _ = 2 ^ (m.log2 + n.log2 + 2) := by rw [← Nat.pow_add]; congr 1; omega
    have := (Nat.log2_lt zero).mpr small
    omega

private theorem log2_add_le (m n : Nat) : (m + n).log2 ≤ max m.log2 n.log2 + 1 := by
  by_cases zero : m + n = 0
  · simp [zero]
  · have left : 2 ^ (m.log2 + 1) ≤ 2 ^ (max m.log2 n.log2 + 1) :=
      Nat.pow_le_pow_right (by decide) (by omega)
    have right : 2 ^ (n.log2 + 1) ≤ 2 ^ (max m.log2 n.log2 + 1) :=
      Nat.pow_le_pow_right (by decide) (by omega)
    have small : m + n < 2 ^ (max m.log2 n.log2 + 2) := by
      have first := Nat.lt_log2_self (n := m)
      have second := Nat.lt_log2_self (n := n)
      have double : 2 ^ (max m.log2 n.log2 + 2) = 2 * 2 ^ (max m.log2 n.log2 + 1) := by
        rw [Nat.pow_succ _ (max m.log2 n.log2 + 1), Nat.mul_comm]
      omega
    have := (Nat.log2_lt zero).mpr small
    omega

private theorem log2_mono {m n : Nat} (le : m ≤ n) : m.log2 ≤ n.log2 := by
  simpa only [Nat.log2_eq_log_two] using Nat.log_mono_right le

private theorem log2_div_two_pow (mantissa digits : Nat) :
    (mantissa / 2 ^ digits).log2 = mantissa.log2 - digits := by
  simp only [Nat.log2_eq_log_two, Nat.log_div_base_pow]

private theorem log2_shiftLeft {mantissa : Nat} (positive : mantissa ≠ 0) (digits : Nat) :
    (mantissa <<< digits).log2 = mantissa.log2 + digits := by
  induction digits with
  | zero => simp
  | succ digits ih =>
    have nonzero : mantissa <<< digits ≠ 0 := by simpa [Nat.shiftLeft_eq] using positive
    rw [Nat.shiftLeft_succ, Nat.log2_two_mul nonzero, ih]
    omega

/-! ### Rounding -/

private theorem mantissa_shiftRight (extended : ExtendedMantissa) (digits : Nat) :
    (extended >>> digits).mantissa = extended.mantissa / 2 ^ digits := by
  induction digits with
  | zero => simp [HShiftRight.hShiftRight, Nat.repeat]
  | succ digits ih =>
    change (extended >>> digits).mantissa / 2 = _
    rw [ih, Nat.div_div_eq_div_mul, Nat.pow_succ]

private theorem roundedMantissa_eq (extended : ExtendedMantissa) :
    extended.roundedMantissa = extended.mantissa ∨
      extended.roundedMantissa = extended.mantissa + 1 := by
  rcases extended with ⟨mantissa, _ | _, _ | _⟩
  · exact .inl rfl
  · exact .inl rfl
  · have even : ExtendedMantissa.roundedMantissa ⟨mantissa, true, false⟩
        = mantissa + mantissa % 2 := rfl
    -- A tie goes to the even neighbour.
    rcases Nat.mod_two_eq_zero_or_one mantissa with zero | one
    · exact .inl (by rw [even, zero]; rfl)
    · exact .inr (by rw [even, one])
  · exact .inr rfl

/-- Digits are cut off up to the last place of the format; this does not move the leading
digit, unless all of them are cut off. -/
private theorem totalExponent_shift_le (mantissa : Nat) (exponent bound : Int)
    (nonneg : 0 ≤ bound) (below : totalExponent mantissa exponent ≤ bound) :
    totalExponent (shiftToTargetExponent .binary64 mantissa exponent .exact).1.mantissa
      (shiftToTargetExponent .binary64 mantissa exponent .exact).2 ≤ bound := by
  have mantissaBits : Format.binary64.mantissaBits = 53 := by decide
  have minExponent : Format.binary64.minExponent = -1074 := by decide
  -- What the exponent gains the mantissa loses, as long as it has digits to lose. Once it has
  -- none, the last place alone counts, and that is below zero or 53 places below the leading digit.
  simp only [shiftToTargetExponent, shiftToExponent, mantissa_shiftRight, totalExponent,
    ExtendedMantissa.ofMantissaAndAccuracy, log2_div_two_pow, Format.targetExponent,
    mantissaBits, minExponent] at *
  omega

private theorem totalExponent_rounded_le (extended : ExtendedMantissa) (exponent : Int) :
    totalExponent extended.roundedMantissa exponent
      ≤ totalExponent extended.mantissa exponent + 1 := by
  have more := log2_add_le extended.mantissa 1
  have one : Nat.log2 1 = 0 := by decide
  unfold totalExponent
  obtain same | up := roundedMantissa_eq extended <;> simp only [*] <;> omega

/-- Rounding moves the leading digit up by one place at most. -/
theorem below_roundWithAccuracy (sign : Sign) {mantissa : Nat} {exponent bound : Int}
    (nonneg : 0 ≤ bound) (below : totalExponent mantissa exponent ≤ bound) :
    Below (bound + 1) (roundWithAccuracy .binary64 sign mantissa exponent .exact) := by
  have first := totalExponent_shift_le mantissa exponent bound nonneg below
  simp only [roundWithAccuracy]
  generalize shiftToTargetExponent .binary64 mantissa exponent .exact = shifted at first ⊢
  -- A carry out of the first rounding is one digit more, which is cut off as the others were.
  have rounded := totalExponent_rounded_le shifted.1 shifted.2
  have second := totalExponent_shift_le shifted.1.roundedMantissa shifted.2 (bound + 1) (by omega)
    (by omega)
  split
  · trivial
  · exact second

theorem below_round (sign : Sign) {mantissa : Nat} {exponent bound : Int}
    (nonneg : 0 ≤ bound) (positive : mantissa ≠ 0)
    (below : totalExponent mantissa exponent ≤ bound) :
    Below (bound + 1) (UnpackedFloat.round .binary64 sign mantissa exponent) := by
  refine below_roundWithAccuracy sign nonneg ?_
  -- Zeros are filled in first, which moves the last place but not the leading digit.
  simp only [totalExponent, log2_shiftLeft positive] at below ⊢
  omega

theorem below_normalize (zeroSign : Sign) {mantissa exponent bound : Int} (nonneg : 0 ≤ bound)
    (below : totalExponent mantissa.natAbs exponent ≤ bound) :
    Below (bound + 1) (UnpackedFloat.normalize .binary64 mantissa exponent zeroSign) := by
  unfold UnpackedFloat.normalize
  split
  next negative =>
    rw [Int.compare_eq_lt] at negative
    have abs : (-mantissa).toNat = mantissa.natAbs := by omega
    exact below_round _ nonneg (by omega) (abs ▸ below)
  next => trivial
  next positive =>
    rw [Int.compare_eq_gt] at positive
    have abs : mantissa.toNat = mantissa.natAbs := by omega
    exact below_round _ nonneg (by omega) (abs ▸ below)

/-! ### Arithmetic -/

theorem Below.mono {bound more : Int} {number : UnpackedFloat} (below : Below bound number)
    (le : bound ≤ more) : Below more number := by
  cases number with
  | zero => trivial
  | finite => exact le_trans (by exact below) le
  | infinity | notANumber => exact below

theorem Below.mul {aBound bBound : Int} {a b : UnpackedFloat} (aBelow : Below aBound a)
    (bBelow : Below bBound b) (nonneg : 0 ≤ aBound + bBound) :
    Below (aBound + bBound + 1) (UnpackedFloat.mul .binary64 a b) := by
  rcases a with _ | _ | _ | ⟨_, m, e, mPositive⟩ <;> try trivial
  all_goals rcases b with _ | _ | _ | ⟨_, n, f, nPositive⟩ <;> try trivial
  refine below_roundWithAccuracy _ nonneg ?_
  have more := log2_mul_le m n
  simp only [Below, totalExponent] at *
  omega

theorem Below.neg {bound : Int} {number : UnpackedFloat} (below : Below bound number) :
    Below bound number.neg := by
  cases number <;> exact below

private theorem natAbs_apply (sign : Sign) (mantissa : Nat) :
    (sign.apply mantissa).natAbs = mantissa := by
  cases sign <;> simp [Sign.apply]

theorem Below.add {bound : Int} {a b : UnpackedFloat} (aBelow : Below bound a)
    (bBelow : Below bound b) (nonneg : 0 ≤ bound) :
    Below (bound + 2) (UnpackedFloat.add .binary64 a b) := by
  rcases a with _ | _ | _ | ⟨s, m, e, mPositive⟩ <;> try trivial
  all_goals rcases b with _ | _ | _ | ⟨t, n, f, nPositive⟩ <;> try trivial
  · simp only [UnpackedFloat.add]
    split <;> trivial
  · exact bBelow.mono (by omega)
  · exact aBelow.mono (by omega)
  · simp only [UnpackedFloat.add, decreaseExponent]
    -- Both numbers are written out to the lower of their last places before they are added.
    have m' := log2_shiftLeft (Nat.ne_of_gt mPositive) (e - min e f).toNat
    have n' := log2_shiftLeft (Nat.ne_of_gt nPositive) (f - min e f).toNat
    generalize m <<< (e - min e f).toNat = left at m' ⊢
    generalize n <<< (f - min e f).toNat = right at n' ⊢
    have sum : (s.apply left + t.apply right).natAbs ≤ left + right := by
      have triangle := Int.natAbs_add_le (s.apply left) (t.apply right)
      rwa [natAbs_apply, natAbs_apply] at triangle
    have digits := (log2_mono sum).trans (log2_add_le left right)
    have below : totalExponent (s.apply left + t.apply right).natAbs (min e f) ≤ bound + 1 := by
      simp only [Below, totalExponent] at *
      omega
    exact (below_normalize _ (by omega) below).mono (by omega)

/-! ### Storing a number -/

private theorem log2_toNat_lt {width : Nat} (positive : 0 < width) (bits : BitVec width) :
    bits.toNat.log2 < width := by
  by_cases zero : bits.toNat = 0
  · rwa [zero, Nat.log2_zero]
  · exact (Nat.log2_lt zero).mpr bits.isLt

private theorem below_unpack_components {bound : Int} (sign : Sign)
    (exponent : BitVec 11) (mantissa : BitVec 52) (finite : exponent.toNat < 2047)
    (le : exponent.toNat ≤ bound + 1022) :
    Below bound
      (UnpackedFloat.unpack .binary64 (packComponents .binary64 sign exponent mantissa)) := by
  have bias : Format.binary64.exponentBias = 1023 := by decide
  have notOnes : exponent ≠ -1#_ := by
    intro ones
    rw [ones] at finite
    exact absurd finite (by decide)
  have digits := log2_toNat_lt (by decide) mantissa
  have leading := log2_toNat_lt (by decide) (1#1 ++ mantissa)
  simp only [UnpackedFloat.unpack, UnpackedFloat.unpackExponent_packComponents,
    UnpackedFloat.unpackMantissa_packComponents, if_neg notOnes, bias]
  split
  next zero =>
    -- Below the normal numbers everything is below one.
    have none : exponent.toNat = 0 := by rw [zero]; rfl
    split
    · trivial
    · simp only [Below, totalExponent]
      omega
  next =>
    simp only [Below, totalExponent]
    omega

/-- A number that is not too large is read back as one that is not. -/
theorem Below.unpack_pack {bound : Int} {number : UnpackedFloat} (below : Below bound number)
    (nonneg : 0 ≤ bound) (le : bound ≤ 971) : Below bound (Float.Model.pack number).unpack := by
  change Below bound
    (UnpackedFloat.unpack Format.binary64 (UnpackedFloat.pack Format.binary64 number))
  cases number with
  | notANumber | infinity => cases below
  | zero sign => cases sign <;> trivial
  | finite sign mantissa exponent positive =>
    have bias : Format.binary64.exponentBias = 1023 := by decide
    have bits : Format.binary64.mantissaBits = 53 := by decide
    simp only [Below, totalExponent] at below
    simp only [UnpackedFloat.pack, bias, bits]
    -- The exponent is too small for the number to be stored as an infinity.
    rw [if_neg (by omega)]
    split
    · refine below_unpack_components _ _ _ ?_ ?_
      · rw [BitVec.toNat_ofNat, Nat.mod_eq_of_lt (by omega)]
        omega
      · rw [BitVec.toNat_ofNat, Nat.mod_eq_of_lt (by omega)]
        omega
    · exact below_unpack_components _ _ _ (by decide) (by simp; omega)

/-! ### What a register is given -/

theorem isFinite_zero : (0.0 : Float).isFinite = true := by rfl

theorem isFinite_one : (1.0 : Float).isFinite = true := by rfl

theorem isFinite_of_below {bound : Int} {value : Float} (below : Below bound value.toModel.unpack) :
    value.isFinite = true := by
  change value.toModel.unpack.isFinite = true
  cases unpacked : value.toModel.unpack with
  | zero | finite => rfl
  | infinity | notANumber => rw [unpacked] at below; cases below

theorem below_ofNat (value : Nat) : Below 65 (ofNat value).toModel.unpack := by
  have small : (UInt64.ofNat value).toNat < 2 ^ 64 := UInt64.toNat_lt_size _
  have digits := log2_mono (Nat.le_sub_one_of_lt small)
  have top : Nat.log2 (2 ^ 64 - 1) = 63 := by decide
  -- A count is cut to 64 binary digits before it is converted.
  have below : totalExponent ((UInt64.ofNat value).toNat : Int).natAbs 0 ≤ 64 := by
    rw [Int.natAbs_natCast]
    unfold totalExponent
    omega
  exact (below_normalize .positive (by decide) below).unpack_pack (by decide) (by decide)

theorem isFinite_ofNat (value : Nat) : (ofNat value).isFinite = true :=
  isFinite_of_below (below_ofNat value)

theorem isFinite_ofInt (value : Int) : (ofInt value).isFinite = true := by
  unfold ofInt
  split
  · exact isFinite_of_below ((below_ofNat _).neg.unpack_pack (by decide) (by decide))
  · exact isFinite_ofNat _

/-- No counts are too large to be multiplied and added. -/
theorem isFinite_raw (token : Token) : token.raw.isFinite = true := by
  have product := ((below_ofNat token.atoms).mul (below_ofNat kindCount) (by decide)).unpack_pack
    (by decide) (by decide)
  have sum := (product.add ((below_ofNat token.kind).mono (by decide)) (by decide)).unpack_pack
    (by decide) (by decide)
  exact isFinite_of_below sum

theorem isFinite_cell_raw (cell : Cell) : cell.raw.isFinite = true := by
  unfold Cell.raw
  split
  · exact isFinite_raw _
  · rfl

/-- A number is finite, an infinity or no number at all. -/
theorem isFinite_or (value : Float) :
    value.isFinite = true ∨ value.isNaN = true ∨ (value == infinity) = true ∨
      (value == -infinity) = true := by
  have top : infinity.toModel.unpack = .infinity .positive := by rfl
  have bottom : (-infinity).toModel.unpack = .infinity .negative := by rfl
  change value.toModel.unpack.isFinite = true ∨ value.toModel.unpack.isNaN = true ∨
    value.toModel.unpack.beq infinity.toModel.unpack = true ∨
    value.toModel.unpack.beq (-infinity).toModel.unpack = true
  rw [top, bottom]
  cases value.toModel.unpack with
  | notANumber => exact .inr (.inl rfl)
  | infinity sign => cases sign <;> decide
  | zero | finite => exact .inl rfl

theorem isFinite_saturate (value : Float) : (saturate value).isFinite = true := by
  unfold saturate
  split
  next => rfl
  next number =>
    split
    next => rfl
    next notTop =>
      split
      next => rfl
      next notBottom =>
        obtain finite | notNumber | isTop | isBottom := isFinite_or value
        · exact finite
        · exact absurd notNumber number
        · exact absurd isTop notTop
        · exact absurd isBottom notBottom

theorem isFinite_quotient (a b : Float) : (quotient a b).isFinite = true := by
  simp only [quotient]
  split
  next finite => exact finite
  next => rfl

end Vivarium.Register
