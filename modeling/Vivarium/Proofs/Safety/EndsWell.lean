import Vivarium.World

/-!
# Operations that end well

Two kinds of faults are beyond what a program can avoid: a result that does not fit
its width, and a sequence for which there is no room. An operation ends well if it
has an answer of which something holds, or meets one of these. Operations are taken
apart at their binds, so that each one cites what its parts establish; draws end well
as long as there is something to draw from.
-/
namespace Vivarium

/-- There is room for all sequences whose length the configuration says. -/
structure Config.Roomy (config : Config) : Prop where
  grid : reserve (config.worldWidth * config.worldHeight) Cell.bytes = .ok ()
  pool : reserve config.orgAmount Organism.bytes = .ok ()
  history : reserve config.historyCapacity RunSummary.bytes = .ok ()
  memory : reserve config.orgMemSize Register.bytes = .ok ()
  frames : reserve config.codeStackSize Frame.bytes = .ok ()
  code : reserve config.orgInitialCodeSize Genome.wordBytes = .ok ()

/-- A result does not fit its width, or there is no room for what the configuration asks. -/
def Config.Tolerates (config : Config) (fault : Fault) : Prop :=
  fault.isOverflow = true ∨ fault = .capacityOverflow ∧ ¬ config.Roomy

/-- There is an answer of which this holds, or a tolerated fault. -/
structure EndsWell {α : Type} (config : Config) (outcome : Outcome α) (holds : α → Prop) :
    Prop where
  answer : ∀ answer, outcome = .ok answer → holds answer
  fault : ∀ fault, outcome = .error fault → config.Tolerates fault

namespace EndsWell

variable {α β : Type} {config : Config} {outcome : Outcome α} {holds : α → Prop}

theorem ok {answer : α} (here : holds answer) : EndsWell config (.ok answer) holds where
  answer := by
    rintro _ ⟨⟩
    exact here
  fault := nofun

theorem pure {answer : α} (here : holds answer) :
    EndsWell config (Pure.pure answer : Outcome α) holds := ok here

theorem error {fault : Fault} (tolerated : config.Tolerates fault) :
    EndsWell config (.error fault) holds where
  answer := nofun
  fault := by
    rintro _ ⟨⟩
    exact tolerated

/-- What comes after may rely on the answer, and on what led to it. -/
theorem bind {rest : α → Outcome β} {after : β → Prop} (first : EndsWell config outcome holds)
    (next : ∀ answer, outcome = .ok answer → holds answer → EndsWell config (rest answer) after) :
    EndsWell config (outcome >>= rest) after := by
  cases outcome with
  | error fault => exact error (first.fault fault rfl)
  | ok answer => exact next answer rfl (first.answer answer rfl)

theorem mono {weaker : α → Prop} (well : EndsWell config outcome holds)
    (implies : ∀ answer, outcome = .ok answer → holds answer → weaker answer) :
    EndsWell config outcome weaker where
  answer := fun answer same => implies answer same (well.answer answer same)
  fault := well.fault

end EndsWell

/-! ### Arithmetic and room -/

variable {config : Config}

theorem Amount.guard_endsWell {fault : Fault} (overflow : fault.isOverflow = true) (value : Int) :
    EndsWell config (Amount.guard fault value) (fun _ => True) := by
  unfold Amount.guard
  split
  · exact .ok trivial
  · exact .error (.inl overflow)

theorem Amount.add_endsWell (a b : Int) : EndsWell config (Amount.add a b) (fun _ => True) :=
  Amount.guard_endsWell rfl _

theorem Amount.sub_endsWell (a b : Int) : EndsWell config (Amount.sub a b) (fun _ => True) :=
  Amount.guard_endsWell rfl _

theorem Amount.mul_endsWell (a b : Int) : EndsWell config (Amount.mul a b) (fun _ => True) :=
  Amount.guard_endsWell rfl _

theorem Count.add_endsWell (limit a b : Nat) :
    EndsWell config (Count.add limit a b) (fun _ => True) := by
  unfold Count.add
  split
  · exact .ok trivial
  · exact .error (.inl rfl)

theorem Count.sub_endsWell {a b : Nat} (below : b ≤ a) :
    EndsWell config (Count.sub a b) (fun _ => True) := by
  rw [Count.sub, if_pos below]
  exact .ok trivial

theorem Count.rem_endsWell {a b : Nat} (nonzero : b ≠ 0) :
    EndsWell config (Count.rem a b) (fun rest => rest = a % b) := by
  rw [Count.rem, if_neg nonzero]
  exact .ok rfl

theorem reserve_endsWell {entries bytes : Nat}
    (roomy : config.Roomy → reserve entries bytes = .ok ()) :
    EndsWell config (reserve entries bytes) (fun _ => True) := by
  cases reserved : reserve entries bytes with
  | ok => exact .ok trivial
  | error fault =>
    unfold reserve at reserved
    split at reserved
    · cases reserved
    · cases reserved
      refine .error (.inr ⟨rfl, fun room => ?_⟩)
      have fits := roomy room
      simp_all [reserve]

/-! ### Draws -/

namespace Draw

variable {ρ : Type} [DrawSource ρ] [LawfulDrawSource ρ]

theorem below_endsWell (size : WordSize) {bound : Nat} (positive : 0 < bound) (source : ρ) :
    EndsWell config (below size bound source) (fun drawn => drawn.1 < bound) := by
  rw [below_eq_ok positive]
  exact .ok (LawfulDrawSource.below_lt size bound source positive)

omit [LawfulDrawSource ρ] in
theorem between_endsWell (size : WordSize) {low high : Int} (some : low < high) (source : ρ) :
    EndsWell config (between size low high source) (fun _ => True) := by
  have positive : 0 < (high - low).toNat := by omega
  unfold between
  rw [below_eq_ok positive]
  exact .ok trivial

theorem position_endsWell {length : Nat} (positive : 0 < length) (source : ρ) :
    EndsWell config (position length source) (fun drawn => drawn.1 < length) :=
  below_endsWell _ positive source

theorem positionFrom_endsWell {start length : Nat} (inside : start < length) (source : ρ) :
    EndsWell config (positionFrom start length source)
      (fun drawn => start ≤ drawn.1 ∧ drawn.1 < length) := by
  refine (below_endsWell _ (by omega) source).bind ?_
  rintro ⟨step, next⟩ - within
  simp only at within
  exact .pure ⟨Nat.le_add_right _ _, by simp only; omega⟩

theorem gap_endsWell (length : Nat) (source : ρ) :
    EndsWell config (gap length source) (fun drawn => drawn.1 ≤ length) :=
  (below_endsWell _ (Nat.succ_pos length) source).mono fun _ _ within => Nat.le_of_lt_succ within

end Draw

end Vivarium
