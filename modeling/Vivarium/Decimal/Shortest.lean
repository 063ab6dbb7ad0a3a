/-!
# Shortest decimals

A binary64 number `m · 2^q` stands for every real number that rounds to it. The
shortest decimal is the one with the fewest digits among those, and of several
the one nearest to the number itself. Everything is compared exactly: a decimal
grid of spacing `10^e` is scaled so that both it and the number are integers,
and only the two neighbours of the number on that grid can be the answer.
-/
namespace Vivarium.Decimal

/-- The decimal `digits · 10^exponent`. -/
structure Scaled where
  digits : Nat
  exponent : Int
  deriving DecidableEq, Repr

/-- A positive finite number as `m · 2^q`, and whether the number below it is only
half as far away as the number above it. -/
structure Binary where
  m : Nat
  q : Int
  closerBelow : Bool
  deriving DecidableEq, Repr

/-- Weight of the sign bit. -/
def signBit : Nat := 9223372036854775808

/-- Weight of the leading bit that is not stored. -/
def hiddenBit : Nat := 4503599627370496

/-- Read the magnitude of a finite number. -/
def Binary.ofFloat (value : Float) : Binary :=
  let bits : Nat := value.toBits.toNat % signBit
  let fraction : Nat := bits % hiddenBit
  let exponent : Nat := bits / hiddenBit
  if exponent = 0 then { m := fraction, q := -1074, closerBelow := false }
  else
    { m := fraction + hiddenBit, q := Int.ofNat exponent - 1075,
      closerBelow := fraction = 0 && 1 < exponent }

def digitCount (value : Nat) : Nat := (Nat.toDigits 10 value).length

/-- How often `num` takes a factor of ten to reach `den`. -/
def shortfall : (fuel : Nat) → (num den : Nat) → Nat
  | 0, _, _ => 0
  | fuel + 1, num, den => if den ≤ num then 0 else shortfall fuel (num * 10) den + 1

/-- The number of digits before the point of `num / den`; not positive for numbers
below one tenth. -/
def magnitude (num den : Nat) : Int :=
  if den ≤ num then Int.ofNat (digitCount (num / den)) else 1 - Int.ofNat (shortfall 400 num den)

/-- The neighbour of `value` on the grid of spacing `10^exponent` that rounds to
it, the nearer one if both do. Numbers are given in quarters of the last place,
scaled by `2^(q - 2)`. -/
def onGrid (value : Binary) (exponent : Int) : Option Nat :=
  let unit := Nat.pow 2 (value.q - 2).toNat * Nat.pow 10 (-exponent).toNat
  let spacing := Nat.pow 2 (2 - value.q).toNat * Nat.pow 10 exponent.toNat
  let number := 4 * value.m * unit
  let low := (4 * value.m - if value.closerBelow then 1 else 2) * unit
  let high := (4 * value.m + 2) * unit
  -- A tie goes to the even neighbour, so an even significand owns the ends of its interval.
  let rounds (point : Nat) : Bool :=
    if value.m % 2 = 0 then low ≤ point && point ≤ high else low < point && point < high
  let down := number / spacing
  let below := down * spacing
  let above := below + spacing
  if 0 < down && rounds below then
    if rounds above && (above - number < number - below
        || (above - number == number - below && down % 2 == 1)) then some (down + 1)
    else some down
  else if rounds above then some (down + 1)
  else none

/-- The first grid, from coarse to fine, on which a neighbour rounds to the number. -/
def firstGrid (value : Binary) (top : Int) : (places count : Nat) → Option Scaled
  | _, 0 => none
  | places, count + 1 =>
    match onGrid value (top - places) with
    | some digits => some { digits, exponent := top - places }
    | none => firstGrid value top (places + 1) count

/-- The shortest decimal of the magnitude of a finite number; zero has no digits. -/
def shortest (value : Float) : Scaled :=
  let binary := Binary.ofFloat value
  if binary.m = 0 then { digits := 0, exponent := 0 }
  else
    let num := binary.m * Nat.pow 2 binary.q.toNat
    let den := Nat.pow 2 (-binary.q).toNat
    (firstGrid binary (magnitude num den) 1 17).getD { digits := 0, exponent := 0 }

/-- The digits of a number, and the exponent that is left when zeros at the end
are dropped. -/
def normalize (number : Scaled) : List Char × Int :=
  let digits := Nat.toDigits 10 number.digits
  let kept := (digits.reverse.dropWhile (· == '0')).reverse
  (kept, number.exponent + (digits.length - kept.length : Nat))

end Vivarium.Decimal
