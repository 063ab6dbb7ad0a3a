/-!
# Faults

A fault ends the operation that meets it: the state it was working on is not
handed back. Each constructor is one cause. The arithmetic causes carry no
operands because the message names the operation alone. Amounts of energy have causes of
their own, so that a fault tells whether the energy of the world was at stake.
-/
namespace Vivarium

/-- Why an operation stopped before it had an answer. -/
inductive Fault where
  /-- A sum of amounts leaves their range. -/
  | addOverflow
  /-- A difference of amounts leaves their range. -/
  | subOverflow
  | mulOverflow
  /-- A sum of counts does not fit the width of the count. -/
  | countOverflow
  /-- The turns left of a loop leave the range of amounts. -/
  | turnsOverflow
  /-- A count is to be lowered by more than there is. -/
  | belowZero
  | remainderByZero
  /-- A draw was asked for from a range that holds no number. -/
  | emptyRange
  /-- A position lies outside the sequence it addresses. -/
  | outOfRange
  /-- A sequence is to hold more than storage can. -/
  | capacityOverflow
  deriving DecidableEq, Repr

namespace Fault

def message : Fault → String
  | addOverflow => "attempt to add with overflow"
  | subOverflow => "attempt to subtract with overflow"
  | mulOverflow => "attempt to multiply with overflow"
  | countOverflow => "attempt to add with overflow"
  | turnsOverflow => "attempt to subtract with overflow"
  | belowZero => "attempt to subtract with overflow"
  | remainderByZero => "attempt to calculate the remainder with a divisor of zero"
  | emptyRange => "cannot sample empty range"
  | outOfRange => "index out of bounds"
  | capacityOverflow => "capacity overflow"

/-- The faults that only say that a result does not fit its width. A count below zero
is not among them: it has no width to which it would fit. -/
def isOverflow : Fault → Bool
  | addOverflow | subOverflow | mulOverflow | countOverflow | turnsOverflow => true
  | _ => false

/-- The faults of adding and subtracting energy. -/
def isEnergy : Fault → Bool
  | addOverflow | subOverflow => true
  | _ => false

end Fault

/-- What an operation that may meet a fault returns. -/
abbrev Outcome (α : Type) := Except Fault α

/-- The entry at `position`, or the fault of a position outside the list. -/
def entryAt {α : Type} (entries : List α) (position : Nat) : Outcome α :=
  match entries[position]? with
  | some entry => .ok entry
  | none => .error .outOfRange

theorem entryAt_eq_ok_iff {α : Type} (entries : List α) (position : Nat) (entry : α) :
    entryAt entries position = .ok entry ↔ entries[position]? = some entry := by
  unfold entryAt
  split <;> simp_all

/-- A sequence of two operations has an answer if both have, the second one in
view of the first answer. -/
theorem bind_eq_ok_iff {α β : Type} (first : Outcome α) (rest : α → Outcome β) (answer : β) :
    first >>= rest = .ok answer ↔ ∃ value, first = .ok value ∧ rest value = .ok answer := by
  cases first with
  | error fault => simp [bind, Except.bind]
  | ok value => simp [bind, Except.bind]

theorem pure_eq_ok_iff {α : Type} (value answer : α) :
    (pure value : Outcome α) = .ok answer ↔ value = answer := by
  simp [pure, Except.pure]

end Vivarium
