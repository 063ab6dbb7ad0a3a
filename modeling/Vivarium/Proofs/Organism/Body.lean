import Vivarium.Organism.Program
import Vivarium.Mutation

/-!
# Bodies

The body of an organism is what the rest of the world deals with: who it is,
where it stands, what energy it has, what it carries and what lies beneath it. A
program that computes, jumps and calls does not touch its body, and neither does
a mutation.
-/
namespace Vivarium

/-- What the world deals with of an organism. -/
structure Body where
  id : Nat
  parent : Option Nat
  offset : Nat
  energy : Int
  packet : Option Token
  beneath : Cell

namespace Organism

/-- The body of an organism. -/
def body (org : Organism) : Body :=
  { id := org.id, parent := org.parent, offset := org.offset, energy := org.energy
    packet := org.packet, beneath := org.beneath }

/-! ### Programs -/

@[simp] theorem body_advance (org : Organism) : org.advance.body = org.body := rfl

@[simp] theorem body_returnTo (org : Organism) (frame : Frame) :
    (org.returnTo frame).body = org.body := rfl

@[simp] theorem body_popFrame (org : Organism) : org.popFrame.2.body = org.body := by
  unfold popFrame
  split <;> rfl

theorem body_of_popFrame {org rest : Organism} {frame : Option Frame}
    (popped : org.popFrame = (frame, rest)) : rest.body = org.body := by
  have same := org.body_popFrame
  rwa [popped] at same

@[simp] theorem body_pushFrame (org : Organism) (frame : Frame) :
    (org.pushFrame frame).body = org.body := by
  unfold pushFrame
  split <;> rfl

@[simp] theorem body_leaveCode (org : Organism) : org.leaveCode.body = org.body := by
  unfold leaveCode
  split
  next popped =>
    have kept := body_of_popFrame popped
    exact kept
  next popped =>
    have kept := body_of_popFrame popped
    exact kept

@[simp] theorem body_runHeader (org : Organism) : org.runHeader.body = org.body := by
  unfold runHeader
  split
  next popped =>
    have kept := body_of_popFrame popped
    exact kept
  next popped =>
    have kept := body_of_popFrame popped
    exact kept

@[simp] theorem body_runReturn (org : Organism) : org.runReturn.body = org.body := by
  unfold runReturn
  split
  next popped =>
    have kept := body_of_popFrame popped
    exact kept
  next popped =>
    have kept := body_of_popFrame popped
    exact kept

@[simp] theorem body_runClose (org : Organism) : org.runClose.body = org.body := by
  simp only [runClose]
  split
  · rfl
  · split
    · rfl
    · split
      · split
        next popped =>
          have kept := body_of_popFrame popped
          exact kept
        next popped =>
          have kept := body_of_popFrame popped
          exact kept
      · rfl
    · rfl

@[simp] theorem body_compute (org : Organism) (opcode : Opcode) :
    (org.compute opcode).body = org.body := by
  cases opcode <;> rfl

theorem body_runLoop {org after : Organism} (ran : org.runLoop = .ok after) :
    after.body = org.body := by
  obtain ⟨counter, -, answer⟩ := (bind_eq_ok_iff _ _ _).mp ran
  rw [pure_eq_ok_iff] at answer
  subst answer
  rfl

theorem body_runCall {org after : Organism} (ran : org.runCall = .ok after) :
    after.body = org.body := by
  simp only [runCall] at ran
  split at ran
  · cases ran
    rfl
  · obtain ⟨selected, -, ran⟩ := (bind_eq_ok_iff _ _ _).mp ran
    obtain ⟨start, -, ran⟩ := (bind_eq_ok_iff _ _ _).mp ran
    obtain ⟨header, -, ran⟩ := (bind_eq_ok_iff _ _ _).mp ran
    rw [pure_eq_ok_iff] at ran
    subst ran
    exact org.body_pushFrame _

/-- An instruction whose effect stays inside the organism leaves its body alone. -/
theorem body_execute {org after : Organism} {opcode : Opcode}
    (ran : org.execute opcode = .ok after) : after.body = org.body := by
  unfold execute at ran
  split at ran
  · exact body_runLoop ran
  · cases ran
    rfl
  · cases ran
    rfl
  · cases ran
    rfl
  · exact body_runCall ran
  · cases ran
    exact org.body_runHeader
  · cases ran
    exact org.body_runReturn
  · cases ran
    exact org.body_runClose
  · cases ran
    exact org.body_compute _

/-- What is read into a register is not part of the body. -/
theorem body_setB (org : Organism) (value : Float) :
    ({ org with b := value } : Organism).body = org.body := rfl

theorem body_setD (org : Organism) (value : Float) :
    ({ org with d := value } : Organism).body = org.body := rfl

/-! ### Mutations -/

@[simp] theorem body_setCode (org : Organism) (code : Genome) (maxSize : Nat) :
    (org.setCode code maxSize).body = org.body := rfl

/-- The organism with other mutation parameters. -/
def retune (org : Organism) (period : Nat) (percent : Float) (weights : Weights) : Organism :=
  { org with period, percent, weights }

/-- The second organism has other mutation parameters at most, and still some age
between two mutations. -/
def Retuned (org after : Organism) : Prop :=
  ∃ period percent weights, after = org.retune period percent weights ∧
    (1 ≤ org.period → 1 ≤ period)

theorem Retuned.refl (org : Organism) : org.Retuned org :=
  ⟨_, _, _, rfl, fun positive => positive⟩

theorem Retuned.trans {org between after : Organism} (first : org.Retuned between)
    (second : between.Retuned after) : org.Retuned after := by
  obtain ⟨_, _, _, rfl, some⟩ := first
  obtain ⟨period, percent, weights, rfl, someLater⟩ := second
  exact ⟨period, percent, weights, rfl, fun positive => someLater (some positive)⟩

theorem Retuned.body {org after : Organism} (retuned : org.Retuned after) :
    after.body = org.body := by
  obtain ⟨_, _, _, rfl, -⟩ := retuned
  rfl

end Organism

namespace Mutation

variable {ρ : Type} [DrawSource ρ]

/-- An event edits the genome that it is given, and of the organism itself it changes
the mutation parameters at most. -/
theorem retuned_applyEvent {config : Config} {kind : Mutation} {org after : Organism}
    {code edited : Genome} {source next : ρ}
    (applied : applyEvent config kind org code source = .ok (after, edited, next)) :
    org.Retuned after := by
  cases kind with
  | change =>
    obtain ⟨⟨word, source⟩, -, applied⟩ := (bind_eq_ok_iff _ _ _).mp applied
    simp only at applied
    split at applied
    · cases applied
      exact .refl org
    · obtain ⟨⟨line, source⟩, -, applied⟩ := (bind_eq_ok_iff _ _ _).mp applied
      obtain ⟨code, -, answer⟩ := (bind_eq_ok_iff _ _ _).mp applied
      cases answer
      exact .refl org
  | delete | cut =>
    simp only [applyEvent] at applied
    split at applied
    · cases applied
      exact .refl org
    · obtain ⟨drawn, -, applied⟩ := (bind_eq_ok_iff _ _ _).mp applied
      obtain ⟨code, -, answer⟩ := (bind_eq_ok_iff _ _ _).mp applied
      cases answer
      exact .refl org
  | period =>
    obtain ⟨⟨drawn, source⟩, between, answer⟩ := (bind_eq_ok_iff _ _ _).mp applied
    cases answer
    -- The lower end of the range drawn from is one.
    obtain ⟨⟨step, source⟩, -, answer⟩ := (bind_eq_ok_iff _ _ _).mp between
    cases answer
    exact ⟨_, _, _, rfl, fun _ => by omega⟩
  | amount =>
    cases applied
    exact ⟨_, _, _, rfl, id⟩
  | weight =>
    obtain ⟨⟨index, source⟩, -, applied⟩ := (bind_eq_ok_iff _ _ _).mp applied
    obtain ⟨⟨value, source⟩, -, applied⟩ := (bind_eq_ok_iff _ _ _).mp applied
    simp only at applied
    split at applied
    · cases applied
      exact ⟨_, _, _, rfl, id⟩
    · cases applied
  | insert =>
    simp only [applyEvent] at applied
    split at applied
    · obtain ⟨⟨word, source⟩, -, applied⟩ := (bind_eq_ok_iff _ _ _).mp applied
      obtain ⟨⟨gap, source⟩, -, applied⟩ := (bind_eq_ok_iff _ _ _).mp applied
      obtain ⟨code, -, answer⟩ := (bind_eq_ok_iff _ _ _).mp applied
      cases answer
      exact .refl org
    · cases applied
      exact .refl org
  | copy =>
    simp only [applyEvent] at applied
    split at applied
    · obtain ⟨⟨start, stop, source⟩, -, applied⟩ := (bind_eq_ok_iff _ _ _).mp applied
      obtain ⟨piece, -, applied⟩ := (bind_eq_ok_iff _ _ _).mp applied
      obtain ⟨⟨gap, source⟩, -, applied⟩ := (bind_eq_ok_iff _ _ _).mp applied
      obtain ⟨code, -, answer⟩ := (bind_eq_ok_iff _ _ _).mp applied
      cases answer
      exact .refl org
    · cases applied
      exact .refl org

theorem retuned_applyEvents {config : Config} {events : Nat} {org after : Organism}
    {code edited : Genome} {source next : ρ}
    (applied : applyEvents config events org code source = .ok (after, edited, next)) :
    org.Retuned after := by
  induction events generalizing org code source with
  | zero =>
    simp only [applyEvents, Except.ok.injEq, Prod.mk.injEq] at applied
    rw [applied.1]
    exact .refl after
  | succ events ih =>
    simp only [applyEvents] at applied
    obtain ⟨⟨kind, drawn⟩, -, applied⟩ := (bind_eq_ok_iff _ _ _).mp applied
    obtain ⟨⟨first, code, source⟩, event, applied⟩ := (bind_eq_ok_iff _ _ _).mp applied
    exact (retuned_applyEvent event).trans (ih applied)

end Mutation

namespace Organism

variable {ρ : Type} [DrawSource ρ] {org after : Organism} {config : Config} {source next : ρ}

/-- A mutation retunes the organism and sets its genome. -/
theorem mutate_eq_ok {events : Nat}
    (mutated : org.mutate config source = .ok (events, after, next)) :
    ∃ (retuned : Organism) (code : Genome) (mutations : Nat), org.Retuned retuned ∧
      after = { retuned.setCode code config.codeMaxSize with mutations } := by
  obtain ⟨⟨retuned, code, source⟩, applied, mutated⟩ := (bind_eq_ok_iff _ _ _).mp mutated
  obtain ⟨last, finished, answer⟩ := (bind_eq_ok_iff _ _ _).mp mutated
  obtain ⟨mutations, -, counted⟩ := (bind_eq_ok_iff _ _ _).mp finished
  cases counted
  cases answer
  exact ⟨retuned, code, mutations, Mutation.retuned_applyEvents applied, rfl⟩

/-- A crossover sets the genome, if the donor has one. -/
theorem crossover_eq_ok {donor : Genome} {found : Bool}
    (crossed : org.crossover donor config source = .ok (found, after, next)) :
    after = org ∨ ∃ code : Genome, after = org.setCode code config.codeMaxSize := by
  unfold crossover at crossed
  split at crossed
  · cases crossed
    exact .inl rfl
  · obtain ⟨⟨start, stop, source⟩, -, crossed⟩ := (bind_eq_ok_iff _ _ _).mp crossed
    obtain ⟨piece, -, crossed⟩ := (bind_eq_ok_iff _ _ _).mp crossed
    obtain ⟨⟨gap, source⟩, -, crossed⟩ := (bind_eq_ok_iff _ _ _).mp crossed
    obtain ⟨code, -, answer⟩ := (bind_eq_ok_iff _ _ _).mp crossed
    cases answer
    exact .inr ⟨code, rfl⟩

/-- A mutation leaves the body alone. -/
theorem body_mutate {events : Nat}
    (mutated : org.mutate config source = .ok (events, after, next)) : after.body = org.body := by
  obtain ⟨retuned, code, mutations, tuning, rfl⟩ := mutate_eq_ok mutated
  exact tuning.body

/-- A crossover leaves the body alone. -/
theorem body_crossover {donor : Genome} {found : Bool}
    (crossed : org.crossover donor config source = .ok (found, after, next)) :
    after.body = org.body := by
  obtain rfl | ⟨code, rfl⟩ := crossover_eq_ok crossed
  · rfl
  · exact org.body_setCode code config.codeMaxSize

end Organism

end Vivarium
