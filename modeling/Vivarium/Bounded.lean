import Vivarium.Fault

/-!
# Arithmetic within fixed bounds

Numbers are unbounded; what is bounded is where they are kept. Signed amounts
(energies, loop counters) live in 64 bits, counts in 32 or 64 bits. An exact
operation returns the mathematical result and faults when that result leaves
the range; a clamping operation stops at the nearest end of the range instead.
-/
namespace Vivarium

/-- Smallest and largest signed amount. -/
def minAmount : Int := -9223372036854775808
def maxAmount : Int := 9223372036854775807

/-- One more than the largest count of each width. -/
def limit32 : Nat := 4294967296
def limit64 : Nat := 18446744073709551616

def isAmount (value : Int) : Bool := minAmount ≤ value && value ≤ maxAmount

theorem isAmount_iff (value : Int) :
    isAmount value = true ↔ minAmount ≤ value ∧ value ≤ maxAmount := by
  simp [isAmount]

namespace Amount

/-- `value` if it is in range, else the fault. -/
def guard (fault : Fault) (value : Int) : Outcome Int :=
  if isAmount value then .ok value else .error fault

def add (a b : Int) : Outcome Int := guard .addOverflow (a + b)
def sub (a b : Int) : Outcome Int := guard .subOverflow (a - b)
def mul (a b : Int) : Outcome Int := guard .mulOverflow (a * b)

def clamp (value : Int) : Int := max minAmount (min maxAmount value)

/-- The amount congruent to `value`; how an unsigned word reads as a signed one. -/
def wrap (value : Int) : Int := value.bmod limit64

/-- Magnitude, with the magnitude of the smallest amount brought back into range. -/
def magnitude (value : Int) : Int := min maxAmount value.natAbs

theorem guard_eq_ok_iff (fault : Fault) (value result : Int) :
    guard fault value = .ok result ↔ isAmount value = true ∧ result = value := by
  unfold guard
  split
  next inside => simp [inside, eq_comm]
  next outside => simp [outside]

theorem add_eq_ok_iff (a b result : Int) :
    add a b = .ok result ↔ isAmount (a + b) = true ∧ result = a + b :=
  guard_eq_ok_iff _ _ _

theorem sub_eq_ok_iff (a b result : Int) :
    sub a b = .ok result ↔ isAmount (a - b) = true ∧ result = a - b :=
  guard_eq_ok_iff _ _ _

theorem mul_eq_ok_iff (a b result : Int) :
    mul a b = .ok result ↔ isAmount (a * b) = true ∧ result = a * b :=
  guard_eq_ok_iff _ _ _

theorem clamp_of_isAmount (value : Int) (inside : isAmount value = true) :
    clamp value = value := by
  rw [isAmount_iff] at inside
  unfold clamp
  omega

theorem magnitude_mem (value : Int) : 0 ≤ magnitude value ∧ magnitude value ≤ maxAmount := by
  unfold magnitude maxAmount
  omega

end Amount

namespace Count

/-- Sum below `limit`. -/
def add (limit a b : Nat) : Outcome Nat :=
  if a + b < limit then .ok (a + b) else .error .countOverflow

/-- Difference that does not go below zero. -/
def sub (a b : Nat) : Outcome Nat :=
  if b ≤ a then .ok (a - b) else .error .belowZero

def mul (limit a b : Nat) : Outcome Nat :=
  if a * b < limit then .ok (a * b) else .error .mulOverflow

/-- Sum that stops at the largest number below `limit`. -/
def addClamped (limit a b : Nat) : Nat := min (limit - 1) (a + b)

/-- Remainder; there is none for a divisor of zero. -/
def rem (a b : Nat) : Outcome Nat :=
  if b = 0 then .error .remainderByZero else .ok (a % b)

theorem add_eq_ok_iff (limit a b result : Nat) :
    add limit a b = .ok result ↔ a + b < limit ∧ result = a + b := by
  unfold add
  split
  next inside => simp [inside, eq_comm]
  next outside => simp [outside]

theorem sub_eq_ok_iff (a b result : Nat) :
    sub a b = .ok result ↔ b ≤ a ∧ result = a - b := by
  unfold sub
  split
  next inside => simp [inside, eq_comm]
  next outside => simp [outside]

end Count

end Vivarium
