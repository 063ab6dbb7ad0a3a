import Vivarium.Bounded

/-!
# Register numbers

Registers hold binary64 numbers. Everything that leaves a register for the
integer world goes through `toInt`, and everything arithmetic puts back goes
through `saturate`, so an infinity or a NaN never stays behind.
-/
namespace Vivarium.Register

def bytes : Nat := 8

def largest : Float := Float.ofBits 0x7fefffffffffffff

def infinity : Float := Float.ofBits 0x7ff0000000000000

/-- The number nearest to a count. -/
def ofNat (value : Nat) : Float := (UInt64.ofNat value).toFloat

/-- The number nearest to a signed amount. -/
def ofInt (value : Int) : Float :=
  if value < 0 then -ofNat value.natAbs else ofNat value.natAbs

/-- Toward zero and clamped to a count; NaN and negative numbers read as zero. -/
def truncateToCount (value : Float) : Nat := value.toUInt64.toNat

/-- Toward zero and clamped to a signed amount; NaN reads as zero. -/
def truncate (value : Float) : Int :=
  Amount.clamp (if value < 0.0 then -truncateToCount (-value) else truncateToCount value)

/-- From this magnitude on every number is whole. -/
def wholeBound : Float := 4503599627370496.0

/-- The nearest whole number; a half goes away from zero. -/
def round (value : Float) : Float :=
  if value.abs < wholeBound then
    let whole := ofNat (truncateToCount value.abs)
    let nearest := if 0.5 ≤ value.abs - whole then whole + 1.0 else whole
    if value < 0.0 then -nearest else nearest
  else value

/-- The least whole number that is not below. -/
def ceil (value : Float) : Float :=
  if value.abs < wholeBound then
    let whole := ofNat (truncateToCount value.abs)
    if value < 0.0 then -whole
    else if whole < value then whole + 1.0 else whole
  else value

/-- The integer a register stands for; what is not finite stands for zero. -/
def toInt (value : Float) : Int :=
  if value.isFinite then truncate value else 0

/-- The finite number an arithmetic result is stored as. -/
def saturate (value : Float) : Float :=
  if value.isNaN then 0.0
  else if value == infinity then largest
  else if value == -infinity then -largest
  else value

/-- A quotient is kept only when it is finite. -/
def quotient (a b : Float) : Float :=
  let value := a / b
  if value.isFinite then value else 0.0

/-- The magnitude of the integer a register stands for, as a position. -/
def toPosition (value : Float) : Nat := (toInt value).natAbs

/-- The direction a register points to. -/
def toDirection (value : Float) : Nat := toPosition value % 8

end Vivarium.Register
