import Vivarium.Fault

/-!
# Storage

A sequence takes a number of bytes for each of its entries, and none may take more
than `maxBytes` in all. Room is made before a sequence of a given length is built,
so a length beyond all storage faults before anything else happens.
-/
namespace Vivarium

/-- Most bytes that one sequence may take. -/
def maxBytes : Nat := 9223372036854775807

/-- Make room for a sequence of so many entries of one size. -/
def reserve (entries bytesEach : Nat) : Outcome Unit :=
  if entries * bytesEach ≤ maxBytes then .ok () else .error .capacityOverflow

theorem reserve_eq_ok_iff (entries bytesEach : Nat) :
    reserve entries bytesEach = .ok () ↔ entries * bytesEach ≤ maxBytes := by
  unfold reserve
  split
  next fits => simp [fits]
  next exceeds => simp [exceeds]

end Vivarium
