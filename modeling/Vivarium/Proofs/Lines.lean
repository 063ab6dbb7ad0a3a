import Vivarium.Proofs.Organism.Course
import Vivarium.Proofs.Outcomes.Turns

/-!
# What a line does to the course of a program

A line of a genome does one of three things. Behind the last line the program
leaves a call or starts over. An instruction that steers decides on the next line
by the block table and the saved callers. Every other line goes on to the next one
and keeps the course, whatever it does in the world.
-/
namespace Vivarium

/-- The opcodes that decide on the next line. -/
def Opcode.steers : Opcode → Bool
  | loop | ifGreater | ifLess | ifEqual | call | func | ret | close => true
  | _ => false

/-- What does not steer neither opens nor closes a block. -/
theorem Opcode.plain_of_straight {opcode : Opcode} (straight : opcode.steers = false) :
    opcode.opensBlock = false ∧ opcode ≠ .close := by
  cases opcode <;> simp_all [steers, opensBlock]

namespace Organism

/-- A line that only computes goes on to the next one. -/
theorem keepsCourse_execute {org after : Organism} {opcode : Opcode}
    (straight : opcode.steers = false) (ran : org.execute opcode = .ok after) :
    org.advance.KeepsCourse after := by
  cases opcode
  case loop | ifGreater | ifLess | ifEqual | call | func | ret | close => cases straight
  all_goals
    cases ran
    exact { KeepsCourse.refl org.advance with }

end Organism

namespace World

variable {ρ : Type} {world next : World ρ} {org after : Organism}

open Organism (KeepsCourse)

/-! ### What the world does to an organism -/

theorem charge_keepsCourse {amount : Int} (charged : world.charge org amount = .ok (after, next)) :
    org.KeepsCourse after := by
  obtain ⟨rfl, -⟩ := charge_eq_ok charged
  exact { KeepsCourse.refl org with }

theorem walk_keepsCourse {slot delay : Nat} {flow : Flow}
    (walked : world.walk slot org delay = .ok (flow, after, next)) : org.KeepsCourse after := by
  cases walk_cases walked with
  | waits early charged => exact { charge_keepsCourse charged with }
  | stays due barred => exact { KeepsCourse.refl org with }
  | goes due pointed passable charged => exact { charge_keepsCourse charged with }

theorem eatToken_keepsCourse {target : Nat} {token : Token} {flow : Flow}
    (ran : world.eatToken org target token = .ok (flow, after, next)) : org.KeepsCourse after := by
  obtain ⟨surface, eaten, changed, grid, -, -, -, rfl, -⟩ := eatToken_eq_ok ran
  exact { KeepsCourse.refl org with }

theorem putAt_keepsCourse {packet : Option Token} {target : Option Nat}
    (ran : world.putAt org packet target = .ok (after, next)) : org.KeepsCourse after := by
  obtain ⟨rfl, -⟩ | ⟨offset, token, surface, changed, grid, -, -, -, -, rfl, -⟩ := putAt_cases ran
  · exact .refl after
  · exact { KeepsCourse.refl org with }

theorem runGet_keepsCourse (ran : world.runGet org = .ok (after, next)) :
    org.advance.KeepsCourse after := by
  obtain ⟨rfl, -⟩ | ⟨target, kind, surface, token, changed, grid, -, -, -, rfl, -⟩ :=
    runGet_cases ran
  · exact { KeepsCourse.refl org.advance with }
  · exact { KeepsCourse.refl org.advance with }

theorem runMix_keepsCourse (ran : world.runMix org = .ok (after, next)) :
    org.advance.KeepsCourse after := by
  obtain ⟨rfl, -⟩ | ⟨target, packet, surface, merged, changed, grid, -, -, -, rfl, -⟩ :=
    runMix_cases ran
  · exact { KeepsCourse.refl org.advance with }
  · exact { KeepsCourse.refl org.advance with }

variable [DrawSource ρ]

theorem irradiate_keepsCourse {radiation : Float}
    (done : world.irradiate org radiation = .ok (after, next)) : org.KeepsCourse after := by
  obtain ⟨rfl, -⟩ | ⟨events, source, mutated, -⟩ := irradiate_cases done
  · exact { KeepsCourse.refl org with }
  · exact { Organism.keepsCourse_mutate mutated with }

theorem runStep_keepsCourse {slot : Nat} {flow : Flow}
    (ran : world.runStep slot org = .ok (flow, after, next)) : org.advance.KeepsCourse after := by
  cases runStep_cases ran with
  | bare free walked => exact walk_keepsCourse walked
  | dies beneath charging dead => exact charge_keepsCourse charging
  | treads beneath charging alive irradiated walked =>
    exact ((charge_keepsCourse charging).trans (irradiate_keepsCourse irradiated)).trans
      (walk_keepsCourse walked)

theorem eatOrganism_keepsCourse {victim : Nat} {amount : Int} {flow : Flow}
    (ran : world.eatOrganism org victim amount = .ok (flow, after, next)) :
    org.KeepsCourse after := by
  cases eatOrganism_cases ran with
  | misses | bites | drains => exact { KeepsCourse.refl org with }

theorem eatAt_keepsCourse {target : Option Nat} {flow : Flow}
    (ran : world.eatAt org target = .ok (flow, after, next)) : org.KeepsCourse after := by
  cases eatAt_cases ran with
  | nothing => exact { KeepsCourse.refl org with }
  | terrain => exact .refl org
  | organism pointed shown bitten => exact eatOrganism_keepsCourse bitten
  | token pointed shown energy eaten => exact eatToken_keepsCourse eaten

theorem bear_keepsCourse {target : Nat} {flow : Flow}
    (ran : world.bear org target = .ok (flow, after, next)) : org.KeepsCourse after := by
  rcases bear_cases ran with ⟨-, -, rfl, rfl⟩ | ⟨-, -, bears⟩
  · exact .refl after
  · obtain ⟨child, placed, charged, -, -, -, rfl⟩ := bears
    -- What is drawn for the child leaves its parent alone, which pays for it.
    have kept := charge_keepsCourse charged
    split
    · exact { kept with }
    · exact kept

theorem runClone_keepsCourse {flow : Flow} (ran : world.runClone org = .ok (flow, after, next)) :
    org.advance.KeepsCourse after := by
  have silent : org.advance.KeepsCourse { org.advance with b := 0.0 } :=
    { KeepsCourse.refl org.advance with }
  rcases runClone_cases ran with ⟨-, rfl, -⟩ | ⟨target, -, -, -, -, bearing⟩
  · exact silent
  · exact silent.trans (bear_keepsCourse bearing)

omit [DrawSource ρ] in
theorem runSee_keepsCourse (world : World ρ) (org : Organism) :
    org.advance.KeepsCourse (world.runSee org) := by
  unfold runSee
  exact org.advance.keepsCourse_setD _

/-! ### Between slices -/

theorem mutateByAge_keepsCourse (done : world.mutateByAge org = .ok (after, next)) :
    org.KeepsCourse after := by
  obtain ⟨rfl, -⟩ | ⟨events, source, mutated, -⟩ := mutateByAge_cases done
  · exact .refl after
  · exact Organism.keepsCourse_mutate mutated

theorem ageOrganism_keepsCourse {fate : Fate}
    (aged : world.ageOrganism org = .ok (fate, after, next)) : org.KeepsCourse after := by
  obtain ⟨mutant, between, energy, totalEnergy, age, mutated, rfl, -⟩ := ageOrganism_eq_ok aged
  exact { mutateByAge_keepsCourse mutated with }

end World

/-! ### Lines -/

namespace Organism

/-- The second organism is the first one after a line, in whatever world. -/
def Executes (org after : Organism) : Prop :=
  ∃ (ρ : Type) (_ : DrawSource ρ) (world next : World ρ) (slot : Nat) (flow : Flow),
    world.executeLine slot org = .ok (flow, after, next)

theorem Executes.of_ok {ρ : Type} [DrawSource ρ] {world next : World ρ} {slot : Nat} {flow : Flow}
    {org after : Organism} (ran : world.executeLine slot org = .ok (flow, after, next)) :
    org.Executes after :=
  ⟨ρ, inferInstance, world, next, slot, flow, ran⟩

variable {org after : Organism}

theorem fetch_eq_op_iff {opcode : Opcode} :
    org.fetch = some (.op opcode) ↔ BlockTable.opcodeAt? org.code org.line = some opcode := by
  unfold fetch BlockTable.opcodeAt?
  cases org.code[org.line]? with
  | none => simp
  | some word => cases decoded : Instruction.decode word <;> simp [decoded, Instruction.opcode?]

/-- The three kinds of lines. -/
theorem Executes.cases (executes : org.Executes after) :
    (org.fetch = none ∧ after = org.leaveCode) ∨
      (∃ opcode, org.fetch = some (.op opcode) ∧ opcode.steers = true ∧
        org.execute opcode = .ok after) ∨
      ((∀ opcode, org.fetch = some (.op opcode) → opcode.steers = false) ∧
        org.advance.KeepsCourse after) := by
  obtain ⟨ρ, _, world, next, slot, flow, executed⟩ := executes
  -- The instruction that is fetched is the only one.
  have plain : ∀ {opcode : Opcode}, org.fetch = some (.op opcode) → opcode.steers = false →
      ∀ other, org.fetch = some (.op other) → other.steers = false := by
    intro opcode fetched straight other same
    cases fetched.symm.trans same
    exact straight
  cases World.executeLine_cases executed with
  | leaves behind => exact .inl ⟨behind, rfl⟩
  | loads value fetched =>
    refine .inr (.inr ⟨fun opcode other => ?_, org.advance.keepsCourse_setD _⟩)
    cases fetched.symm.trans other
  | passes word fetched =>
    refine .inr (.inr ⟨fun opcode other => ?_, .refl org.advance⟩)
    cases fetched.symm.trans other
  | steps fetched ran => exact .inr (.inr ⟨plain fetched rfl, World.runStep_keepsCourse ran⟩)
  | eats fetched ran => exact .inr (.inr ⟨plain fetched rfl, World.eatAt_keepsCourse ran⟩)
  | clones fetched ran => exact .inr (.inr ⟨plain fetched rfl, World.runClone_keepsCourse ran⟩)
  | sees fetched => exact .inr (.inr ⟨plain fetched rfl, world.runSee_keepsCourse org⟩)
  | draws number source fetched =>
    exact .inr (.inr ⟨plain fetched rfl, { KeepsCourse.refl org.advance with }⟩)
  | gets fetched ran => exact .inr (.inr ⟨plain fetched rfl, World.runGet_keepsCourse ran⟩)
  | puts fetched ran => exact .inr (.inr ⟨plain fetched rfl, World.putAt_keepsCourse ran⟩)
  | mixes fetched ran => exact .inr (.inr ⟨plain fetched rfl, World.runMix_keepsCourse ran⟩)
  | computes opcode fetched ran =>
    cases steers : opcode.steers with
    | true => exact .inr (.inl ⟨opcode, fetched, steers, ran⟩)
    | false => exact .inr (.inr ⟨plain fetched steers, keepsCourse_execute steers ran⟩)

theorem Executes.of_steers {opcode : Opcode} (executes : org.Executes after)
    (fetched : org.fetch = some (.op opcode)) (steers : opcode.steers = true) :
    org.execute opcode = .ok after := by
  rcases executes.cases with ⟨nothing, -⟩ | ⟨other, fetchedOther, -, ran⟩ | ⟨straight, -⟩
  · rw [fetched] at nothing
    cases nothing
  · rw [fetched] at fetchedOther
    cases fetchedOther
    exact ran
  · rw [straight opcode fetched] at steers
    cases steers

end Organism

end Vivarium
