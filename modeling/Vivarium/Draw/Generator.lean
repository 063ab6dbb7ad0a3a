import Vivarium.Draw

/-!
# The word generator

A 256-bit xoshiro state seeded through SplitMix. A bounded number is the high
half of the product of one word and the bound; when the low half lies so near
its end that the cut-off part of the product could carry, a second word decides
whether it does. The high half never exceeds the bound, carry included, so the
generator is a lawful source.
-/
namespace Vivarium

structure Generator where
  s0 : UInt64
  s1 : UInt64
  s2 : UInt64
  s3 : UInt64
  deriving DecidableEq, Repr

namespace Generator

def rotateLeft (word : UInt64) (amount : UInt64) : UInt64 :=
  (word <<< amount) ||| (word >>> (64 - amount))

/-- Step between two SplitMix states. -/
def seedStep : UInt64 := 0x9e3779b97f4a7c15

/-- The SplitMix word of a state. -/
def scramble (state : UInt64) : UInt64 :=
  let z := (state ^^^ (state >>> 30)) * 0xbf58476d1ce4e5b9
  let z := (z ^^^ (z >>> 27)) * 0x94d049bb133111eb
  z ^^^ (z >>> 31)

/-- The state for a seed: the first four SplitMix words after it. -/
def ofSeed (seed : Nat) : Generator :=
  let start := UInt64.ofNat seed
  { s0 := scramble (start + seedStep)
    s1 := scramble (start + 2 * seedStep)
    s2 := scramble (start + 3 * seedStep)
    s3 := scramble (start + 4 * seedStep) }

def word (state : Generator) : UInt64 × Generator :=
  let result := rotateLeft (state.s0 + state.s3) 23 + state.s0
  let s2 := state.s2 ^^^ state.s0
  let s3 := state.s3 ^^^ state.s1
  (result,
    { s0 := state.s0 ^^^ s3
      s1 := state.s1 ^^^ s2
      s2 := s2 ^^^ (state.s1 <<< 17)
      s3 := rotateLeft s3 45 })

/-- One word of the given width; the narrow one is the high half of a wide one. -/
def wordOf (size : WordSize) (state : Generator) : Nat × Generator :=
  let (wide, state) := state.word
  match size with
  | .word32 => (wide.toNat / limit32, state)
  | .word64 => (wide.toNat, state)

/-- The high half of `word * bound`, with a carry decided by a second word. -/
def below (size : WordSize) (bound : Nat) (state : Generator) : Nat × Generator :=
  let span := size.span
  let (first, state) := state.wordOf size
  let product := first * bound
  let high := product / span
  let low := product % span
  -- A carry needs a low half so near the end that the cut-off part could reach it.
  if span < low + bound then
    let (second, state) := state.wordOf size
    if span ≤ low + second * bound / span then (high + 1, state) else (high, state)
  else (high, state)

/-- A fraction in `[0, 1)` in steps of `2⁻⁵³`. -/
def unit (state : Generator) : Float × Generator :=
  let (wide, state) := state.word
  ((wide >>> 11).toFloat / 9007199254740992.0, state)

instance : DrawSource Generator where
  below := below
  unit := unit

theorem wordOf_lt (size : WordSize) (state : Generator) : (state.wordOf size).1 < size.span := by
  have wide : state.word.1.toNat < limit64 := state.word.1.toNat_lt
  cases size
  · simp only [wordOf, WordSize.span, limit32, limit64] at wide ⊢
    omega
  · exact wide

/-- A carry needs room above the low half, and the high half leaves that room. -/
theorem below_lt_bound (size : WordSize) (bound : Nat) (state : Generator)
    (positive : 0 < bound) : (state.below size bound).1 < bound := by
  have firstLt := wordOf_lt size state
  have spanPos : 0 < size.span := by cases size <;> decide
  generalize spanEq : size.span = span at *
  simp only [below, spanEq]
  generalize firstEq : state.wordOf size = drawn at *
  obtain ⟨first, next⟩ := drawn
  simp only at firstLt ⊢
  have split : span * (first * bound / span) + first * bound % span = first * bound :=
    Nat.div_add_mod _ _
  have highLt : first * bound / span < bound := by
    rw [Nat.div_lt_iff_lt_mul spanPos, Nat.mul_comm bound]
    exact Nat.mul_lt_mul_of_pos_right firstLt positive
  have top : first * bound + bound ≤ span * bound := by
    have := Nat.mul_le_mul_right bound (Nat.succ_le_of_lt firstLt)
    simpa [Nat.succ_mul] using this
  by_cases near : span < first * bound % span + bound
  · simp only [near, if_true]
    generalize secondEq : next.wordOf size = drawn
    obtain ⟨second, last⟩ := drawn
    simp only
    split
    next carry =>
      have room : first * bound / span + 1 < bound ∨ first * bound / span + 1 = bound := by omega
      rcases room with below | full
      · exact below
      · exfalso
        have whole : span * (first * bound / span + 1) = span * bound := by rw [full]
        rw [Nat.mul_add, Nat.mul_one] at whole
        omega
    next => exact highLt
  · simp only [near, if_false]
    exact highLt

instance : LawfulDrawSource Generator where
  below_lt := below_lt_bound

end Generator

end Vivarium
