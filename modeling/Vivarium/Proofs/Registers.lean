import Vivarium.Proofs.Organism.Finite
import Vivarium.Proofs.Residents

/-!
# The registers of a world

All numbers of an organism are finite when it comes into a world, and whatever it executes, eats,
reads or picks up leaves them finite. Nothing has to be known of sums, products and quotients for
this: what is stored of them is finite by itself.
-/
namespace Vivarium

open Register (isFinite_zero isFinite_one isFinite_ofInt isFinite_raw isFinite_cell_raw)

namespace Organism

variable {org after : Organism}

/-- An organism starts with zeros. -/
theorem allFinite_fresh (id offset : Nat) (energy : Int) (config : Config) :
    (fresh id offset energy config).AllFinite where
  d := isFinite_zero
  a := isFinite_zero
  b := isFinite_zero
  mem := by
    intro value member
    rw [Array.eq_of_mem_replicate member]
    exact isFinite_zero
  frames := nofun

theorem AllFinite.varies (finite : org.AllFinite) (varies : org.Varies after) :
    after.AllFinite := by
  cases varies with
  | mutates mutated =>
    obtain ⟨_, code, mutations, ⟨period, percent, weights, rfl, -⟩, rfl⟩ := mutate_eq_ok mutated
    exact { finite with }
  | crosses crossed =>
    obtain rfl | ⟨code, rfl⟩ := crossover_eq_ok crossed
    · exact finite
    · exact { finite with }

end Organism

namespace World

open Organism (AllFinite)
variable {ρ : Type} {world next : World ρ} {org after : Organism} {flow : Flow} {slot : Nat}

/-! ### Lines -/

theorem allFinite_of_charge {amount : Int} (charged : world.charge org amount = .ok (after, next))
    (finite : org.AllFinite) : after.AllFinite := by
  obtain ⟨rfl, -⟩ := charge_eq_ok charged
  exact { finite with }

theorem allFinite_of_walk {delay : Nat} (finite : org.AllFinite)
    (walked : world.walk slot org delay = .ok (flow, after, next)) : after.AllFinite := by
  cases walk_cases walked with
  | waits early charged => exact allFinite_of_charge charged { finite with }
  | stays due barred => exact { finite with }
  | goes due pointed passable charged => exact allFinite_of_charge charged { finite with }

theorem allFinite_of_eatToken {target : Nat} {token : Token} (finite : org.AllFinite)
    (ran : world.eatToken org target token = .ok (flow, after, next)) : after.AllFinite := by
  obtain ⟨surface, eaten, changed, grid, -, -, -, rfl, -⟩ := eatToken_eq_ok ran
  exact { finite with b := isFinite_ofInt _ }

theorem allFinite_of_runSee (world : World ρ) (finite : org.AllFinite) :
    (world.runSee org).AllFinite := by
  have advanced : org.advance.AllFinite := { finite with }
  unfold runSee
  refine advanced.setD ?_
  split
  · exact isFinite_zero
  · exact isFinite_cell_raw _

/-- An organism with nothing in its hands or before it reads zero. -/
theorem allFinite_silent (finite : org.AllFinite) : ({ org with b := 0.0 } : Organism).AllFinite :=
  { finite with b := isFinite_zero }

theorem allFinite_of_runGet (finite : org.AllFinite)
    (ran : world.runGet org = .ok (after, next)) : after.AllFinite := by
  obtain ⟨rfl, -⟩ | ⟨target, kind, surface, token, changed, grid, -, -, -, rfl, -⟩ :=
    runGet_cases ran
  · exact { allFinite_silent finite with }
  · exact { finite with b := isFinite_raw _ }

theorem allFinite_of_putAt {packet : Option Token} {target : Option Nat} (finite : org.AllFinite)
    (ran : world.putAt org packet target = .ok (after, next)) : after.AllFinite := by
  obtain ⟨rfl, -⟩ | ⟨offset, token, surface, changed, grid, -, -, -, -, rfl, -⟩ := putAt_cases ran
  · exact finite
  · exact { finite with b := isFinite_raw _ }

theorem allFinite_of_runMix (finite : org.AllFinite)
    (ran : world.runMix org = .ok (after, next)) : after.AllFinite := by
  obtain ⟨rfl, -⟩ | ⟨target, packet, surface, merged, changed, grid, -, -, -, rfl, -⟩ :=
    runMix_cases ran
  · exact { allFinite_silent finite with }
  · exact { finite with b := isFinite_raw _ }

variable [DrawSource ρ]

theorem allFinite_of_irradiate {radiation : Float} (finite : org.AllFinite)
    (done : world.irradiate org radiation = .ok (after, next)) : after.AllFinite := by
  obtain ⟨rfl, -⟩ | ⟨events, source, mutated, -⟩ := irradiate_cases done
  · exact { finite with }
  · have reset : ({ org with radiation := 0.0 } : Organism).AllFinite := { finite with }
    exact reset.varies (.mutates mutated)

theorem allFinite_of_runStep (finite : org.AllFinite)
    (ran : world.runStep slot org = .ok (flow, after, next)) : after.AllFinite := by
  have advanced : org.advance.AllFinite := { finite with }
  cases runStep_cases ran with
  | bare free walked => exact allFinite_of_walk advanced walked
  | dies beneath charging dead => exact allFinite_of_charge charging advanced
  | treads beneath charging alive irradiated walked =>
    have terrain := allFinite_of_charge charging advanced
    exact allFinite_of_walk (allFinite_of_irradiate terrain irradiated) walked

theorem allFinite_of_eatOrganism {victim : Nat} {amount : Int} (finite : org.AllFinite)
    (ran : world.eatOrganism org victim amount = .ok (flow, after, next)) : after.AllFinite := by
  cases eatOrganism_cases ran with
  | misses nobody => exact allFinite_silent finite
  | bites | drains => exact { finite with b := isFinite_ofInt _ }

theorem allFinite_of_eatAt {target : Option Nat} (finite : org.AllFinite)
    (ran : world.eatAt org target = .ok (flow, after, next)) : after.AllFinite := by
  cases eatAt_cases ran with
  | nothing => exact allFinite_silent finite
  | terrain => exact finite
  | organism pointed shown bitten => exact allFinite_of_eatOrganism finite bitten
  | token pointed shown energy eaten => exact allFinite_of_eatToken finite eaten

theorem allFinite_of_bear {target : Nat} (finite : org.AllFinite)
    (ran : world.bear org target = .ok (flow, after, next)) : after.AllFinite := by
  rcases bear_cases ran with ⟨-, -, rfl, -⟩ | ⟨-, -, bears⟩
  · exact finite
  · obtain ⟨child, placed, charged, -, -, -, rfl⟩ := bears
    -- The bearer pays, and is told in a register whether there is a child.
    have paying := allFinite_of_charge charged finite
    split
    · exact { paying with b := isFinite_one }
    · exact paying

theorem allFinite_of_runClone (finite : org.AllFinite)
    (ran : world.runClone org = .ok (flow, after, next)) : after.AllFinite := by
  have silent : ({ org.advance with b := 0.0 } : Organism).AllFinite :=
    { allFinite_silent finite with }
  rcases runClone_cases ran with ⟨-, rfl, -⟩ | ⟨target, -, -, -, -, bearing⟩
  · exact silent
  · exact allFinite_of_bear silent bearing

theorem allFinite_of_executeLine (finite : org.AllFinite)
    (executed : world.executeLine slot org = .ok (flow, after, next)) : after.AllFinite := by
  have advanced : org.advance.AllFinite := { finite with }
  cases executeLine_cases executed with
  | leaves behind => exact finite.leaveCode
  | loads value fetched => exact { finite with d := isFinite_ofInt value }
  | passes => exact advanced
  | steps fetched ran => exact allFinite_of_runStep finite ran
  | eats fetched ran => exact allFinite_of_eatAt advanced ran
  | clones fetched ran => exact allFinite_of_runClone finite ran
  | sees => exact allFinite_of_runSee world finite
  | draws number source fetched => exact { finite with a := isFinite_ofInt number }
  | gets fetched ran => exact allFinite_of_runGet finite ran
  | puts fetched ran => exact allFinite_of_putAt advanced ran
  | mixes fetched ran => exact allFinite_of_runMix finite ran
  | computes opcode fetched ran => exact finite.execute fetched ran

end World

namespace Organism

theorem lifelong_allFinite : Lifelong AllFinite where
  placed id offset energy config code := { allFinite_fresh id offset energy config with }
  endowed _ id offset energy config := { allFinite_fresh id offset energy config with }
  executes := by
    rintro org after finite ⟨ρ, _, world, next, slot, flow, ran⟩
    exact World.allFinite_of_executeLine finite ran
  varies := AllFinite.varies
  lives finite energy age := { finite with }

end Organism

namespace World

variable {ρ : Type} [DrawSource ρ]

/-! ### Whole lives -/

/-- Whatever is called, no number of an organism of the pool is an infinity or no number. -/
theorem performAll_registers {config : Config} {source : ρ} {recording : Bool}
    {start world : World ρ} (calls : List Call)
    (created : create config source recording = .ok (.ok start))
    (performed : performAll calls start = .ok world) :
    ∀ slot org, world.pool.get? slot = some org →
      org.d.isFinite = true ∧ org.a.isFinite = true ∧ org.b.isFinite = true ∧
      (∀ value ∈ org.mem, value.isFinite = true) ∧
      ∀ frame ∈ org.frames,
        frame.d.isFinite = true ∧ frame.a.isFinite = true ∧ frame.b.isFinite = true := by
  intro slot org live
  obtain ⟨d, a, b, mem, frames⟩ :=
    all_of_performAll Organism.lifelong_allFinite created performed slot org live
  exact ⟨d, a, b, mem, fun frame saved => ⟨(frames frame saved).d, (frames frame saved).a,
    (frames frame saved).b⟩⟩

end World

/-! ### A number that grows -/

/-- The calls of a life in which an organism squares a number eight times. -/
def Call.squaringLife : List Call :=
  [.spawnOrganism 5 [1023, Opcode.dToA.word, Opcode.dToB.word, 8, Opcode.loop.word,
    Opcode.mul.word, Opcode.dToA.word, Opcode.dToB.word, Opcode.close.word] 3000,
    .runOrganism 2 46]

namespace World

set_option maxRecDepth 40000 in
theorem performAll_squaring :
    ∃ start world : World Generator, create .small (.ofSeed 7) false = .ok (.ok start) ∧
      performAll Call.squaringLife start = .ok world ∧
      (world.pool.get? 2).map Organism.a = some Register.largest := ⟨_, _, rfl, rfl, rfl⟩

/-- The last square would be an infinity, and the largest number is stored instead. -/
theorem performAll_registers_squaring :
    ∃ start world : World Generator, create .small (.ofSeed 7) false = .ok (.ok start) ∧
      performAll Call.squaringLife start = .ok world ∧
      ∃ org, world.pool.get? 2 = some org ∧ org.a = Register.largest ∧
        org.d.isFinite = true ∧ org.a.isFinite = true ∧ org.b.isFinite = true := by
  obtain ⟨start, world, created, performed, grown⟩ := performAll_squaring
  obtain ⟨org, live, largest⟩ := Option.map_eq_some_iff.mp grown
  obtain ⟨d, a, b, -⟩ := performAll_registers Call.squaringLife created performed 2 org live
  exact ⟨start, world, created, performed, org, live, largest, d, a, b⟩

end World

end Vivarium
