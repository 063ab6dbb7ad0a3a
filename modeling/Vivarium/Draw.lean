import Vivarium.Bounded

/-!
# Draws

Chance enters through a source: a state from which one number after the other
is drawn. Nothing here fixes how a source works; `LawfulDrawSource` states the
only thing that is relied on, that a number drawn below a bound is below it.
Drawing from a range without numbers is a fault and leaves the source alone.
-/
namespace Vivarium

/-- Width of the word that one draw consumes. -/
inductive WordSize where
  | word32
  | word64
  deriving DecidableEq, Repr

namespace WordSize

/-- How many words of this width there are. -/
def span : WordSize → Nat
  | word32 => limit32
  | word64 => limit64

/-- Positions are drawn with the narrow word as long as their bound fits it. -/
def forBound (bound : Nat) : WordSize :=
  if bound < limit32 then word32 else word64

end WordSize

/-- States from which numbers can be drawn. -/
class DrawSource (ρ : Type) where
  /-- A number meant to be below the bound, and the state after it. -/
  below : WordSize → Nat → ρ → Nat × ρ
  /-- A fraction, and the state after it. -/
  unit : ρ → Float × ρ

/-- Sources that keep to the bound. -/
class LawfulDrawSource (ρ : Type) [DrawSource ρ] : Prop where
  below_lt : ∀ (size : WordSize) (bound : Nat) (source : ρ),
    0 < bound → (DrawSource.below size bound source).1 < bound

namespace Draw

variable {ρ : Type} [DrawSource ρ]

/-- A number in `0 .. bound - 1`. -/
def below (size : WordSize) (bound : Nat) (source : ρ) : Outcome (Nat × ρ) :=
  if bound = 0 then .error .emptyRange else .ok (DrawSource.below size bound source)

/-- A number in `low .. high - 1`. -/
def between (size : WordSize) (low high : Int) (source : ρ) : Outcome (Int × ρ) := do
  let (step, source) ← below size (high - low).toNat source
  return (low + step, source)

/-- A position in a sequence of `length` entries. -/
def position (length : Nat) (source : ρ) : Outcome (Nat × ρ) :=
  below (.forBound length) length source

/-- A position in `start .. length - 1`. -/
def positionFrom (start length : Nat) (source : ρ) : Outcome (Nat × ρ) := do
  let (step, source) ← below (.forBound length) (length - start) source
  return (start + step, source)

/-- A gap of a sequence of `length` entries: before, between or after them. -/
def gap (length : Nat) (source : ρ) : Outcome (Nat × ρ) :=
  below (.forBound length) (length + 1) source

def unit (source : ρ) : Float × ρ := DrawSource.unit source

theorem below_lt [LawfulDrawSource ρ] {size : WordSize} {bound : Nat} {source next : ρ}
    {number : Nat} (drawn : below size bound source = .ok (number, next)) : number < bound := by
  unfold below at drawn
  split at drawn
  next => simp at drawn
  next nonzero =>
    have inside := LawfulDrawSource.below_lt size bound source (Nat.pos_of_ne_zero nonzero)
    simp only [Except.ok.injEq] at drawn
    simpa [drawn] using inside

theorem below_eq_ok {size : WordSize} {bound : Nat} (positive : 0 < bound) (source : ρ) :
    below size bound source = .ok (DrawSource.below size bound source) := by
  simp [below, Nat.ne_of_gt positive]

end Draw

end Vivarium
