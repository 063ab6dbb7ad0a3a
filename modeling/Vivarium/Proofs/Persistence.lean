import Vivarium.Proofs.Residents

/-!
# Who an organism is, and how old

An organism keeps its identity for life, and its age from one year to the next. No line of a
program touches either, whatever it does in the world, and neither does chance; a clone starts
at the age of zero. A year adds one to the age of those who survive it, and whoever survives it
has not reached the age at which organisms die.
-/
namespace Vivarium

namespace Organism

/-- The same organism at the same age. -/
structure Persists (org after : Organism) : Prop where
  id : after.id = org.id
  age : after.age = org.age

namespace Persists

variable {org between after : Organism}

theorem refl (org : Organism) : org.Persists org := ⟨rfl, rfl⟩

theorem trans (first : org.Persists between) (rest : between.Persists after) :
    org.Persists after :=
  ⟨rest.id.trans first.id, rest.age.trans first.age⟩

end Persists

variable {org after : Organism}

/-! ### Programs -/

theorem persists_popFrame {rest : Organism} {frame : Option Frame}
    (popped : org.popFrame = (frame, rest)) : org.Persists rest := by
  unfold popFrame at popped
  split at popped <;>
  · cases popped
    exact { Persists.refl org with }

theorem persists_pushFrame (org : Organism) (frame : Frame) :
    org.Persists (org.pushFrame frame) := by
  unfold pushFrame
  split <;> exact { Persists.refl org with }

theorem persists_leaveCode (org : Organism) : org.Persists org.leaveCode := by
  unfold leaveCode
  split <;>
  next popped => exact { persists_popFrame popped with }

theorem persists_runHeader (org : Organism) : org.Persists org.runHeader := by
  unfold runHeader
  split <;>
  next popped => exact { persists_popFrame popped with }

theorem persists_runReturn (org : Organism) : org.Persists org.runReturn := by
  unfold runReturn
  split <;>
  next popped => exact { persists_popFrame popped with }

theorem persists_runClose (org : Organism) : org.Persists org.runClose := by
  simp only [runClose]
  split
  · exact { Persists.refl org with }
  · split
    · exact { Persists.refl org with }
    -- The end of a function pops the frame of its call, if there is one.
    · split
      · split <;>
        next popped => exact { persists_popFrame popped with }
      · exact { Persists.refl org with }
    · exact { Persists.refl org with }

theorem persists_runCall (ran : org.runCall = .ok after) : org.Persists after := by
  simp only [runCall] at ran
  split at ran
  · cases ran
    exact { Persists.refl org with }
  · obtain ⟨selected, -, ran⟩ := (bind_eq_ok_iff _ _ _).mp ran
    obtain ⟨start, -, ran⟩ := (bind_eq_ok_iff _ _ _).mp ran
    obtain ⟨header, -, answer⟩ := (bind_eq_ok_iff _ _ _).mp ran
    cases answer
    exact { org.persists_pushFrame _ with }

theorem persists_execute {opcode : Opcode} (ran : org.execute opcode = .ok after) :
    org.Persists after := by
  cases opcode
  case loop =>
    obtain ⟨counter, -, answer⟩ := (bind_eq_ok_iff _ _ _).mp ran
    cases answer
    exact { Persists.refl org with }
  case call => exact persists_runCall ran
  case func =>
    cases ran
    exact org.persists_runHeader
  case ret =>
    cases ran
    exact org.persists_runReturn
  case close =>
    cases ran
    exact org.persists_runClose
  all_goals
    cases ran
    exact { Persists.refl org with }

/-! ### Chance -/

variable {ρ : Type} [DrawSource ρ]

theorem persists_mutate {config : Config} {source next : ρ} {events : Nat}
    (mutated : org.mutate config source = .ok (events, after, next)) : org.Persists after := by
  obtain ⟨retuned, code, mutations, ⟨period, percent, weights, rfl, -⟩, rfl⟩ := mutate_eq_ok mutated
  exact { Persists.refl org with }

theorem Varies.persists (varies : org.Varies after) : org.Persists after := by
  cases varies with
  | mutates mutated => exact persists_mutate mutated
  | crosses crossed =>
    obtain rfl | ⟨code, rfl⟩ := crossover_eq_ok crossed
    · exact .refl after
    · exact { Persists.refl org with }

/-- Whatever chance makes of a clone, it has not lived yet. -/
theorem Begets.age {child : Organism} (begets : org.Begets child) : child.age = 0 := by
  obtain ⟨id, offset, energy, config, varies⟩ := begets
  induction varies with
  | refl => rfl
  | tail _ event ih => exact event.persists.age.trans ih

end Organism

namespace World

variable {ρ : Type} {world next : World ρ} {org after : Organism} {flow : Flow}

open Organism (Persists)

/-! ### Lines -/

theorem charge_persists {amount : Int} (charged : world.charge org amount = .ok (after, next)) :
    org.Persists after := by
  obtain ⟨rfl, -⟩ := charge_eq_ok charged
  exact { Persists.refl org with }

theorem walk_persists {slot delay : Nat}
    (walked : world.walk slot org delay = .ok (flow, after, next)) : org.Persists after := by
  cases walk_cases walked with
  | waits early charged => exact { charge_persists charged with }
  | stays due barred => exact { Persists.refl org with }
  | goes due pointed passable charged => exact { charge_persists charged with }

theorem eatToken_persists {target : Nat} {token : Token}
    (ran : world.eatToken org target token = .ok (flow, after, next)) : org.Persists after := by
  obtain ⟨surface, eaten, changed, grid, -, -, -, rfl, -⟩ := eatToken_eq_ok ran
  exact { Persists.refl org with }

theorem runGet_persists (ran : world.runGet org = .ok (after, next)) : org.Persists after := by
  obtain ⟨rfl, -⟩ | ⟨target, kind, surface, token, changed, grid, -, -, -, rfl, -⟩ :=
    runGet_cases ran
  · exact { Persists.refl org with }
  · exact { Persists.refl org with }

theorem putAt_persists {packet : Option Token} {target : Option Nat}
    (ran : world.putAt org packet target = .ok (after, next)) : org.Persists after := by
  obtain ⟨rfl, -⟩ | ⟨offset, token, surface, changed, grid, -, -, -, -, rfl, -⟩ := putAt_cases ran
  · exact .refl after
  · exact { Persists.refl org with }

theorem runMix_persists (ran : world.runMix org = .ok (after, next)) : org.Persists after := by
  obtain ⟨rfl, -⟩ | ⟨target, packet, surface, merged, changed, grid, -, -, -, rfl, -⟩ :=
    runMix_cases ran
  · exact { Persists.refl org with }
  · exact { Persists.refl org with }

variable [DrawSource ρ]

theorem irradiate_persists {radiation : Float}
    (done : world.irradiate org radiation = .ok (after, next)) : org.Persists after := by
  obtain ⟨rfl, -⟩ | ⟨events, source, mutated, -⟩ := irradiate_cases done
  · exact { Persists.refl org with }
  · exact { Organism.persists_mutate mutated with }

theorem runStep_persists {slot : Nat} (ran : world.runStep slot org = .ok (flow, after, next)) :
    org.Persists after := by
  have advanced : org.Persists org.advance := { Persists.refl org with }
  cases runStep_cases ran with
  | bare free walked => exact advanced.trans (walk_persists walked)
  | dies beneath charging dead => exact advanced.trans (charge_persists charging)
  | treads beneath charging alive irradiated walked =>
    have terrain := advanced.trans (charge_persists charging)
    exact (terrain.trans (irradiate_persists irradiated)).trans (walk_persists walked)

/-- Whether the prey dies makes no difference to the eater. -/
theorem eatOrganism_persists {victim : Nat} {amount : Int}
    (ran : world.eatOrganism org victim amount = .ok (flow, after, next)) : org.Persists after := by
  cases eatOrganism_cases ran with
  | misses | bites | drains => exact { Persists.refl org with }

theorem eatAt_persists {target : Option Nat}
    (ran : world.eatAt org target = .ok (flow, after, next)) : org.Persists after := by
  cases eatAt_cases ran with
  | nothing => exact { Persists.refl org with }
  | terrain => exact .refl org
  | organism pointed shown bitten => exact eatOrganism_persists bitten
  | token pointed shown energy eaten => exact eatToken_persists eaten

theorem bear_persists {target : Nat} (ran : world.bear org target = .ok (flow, after, next)) :
    org.Persists after := by
  rcases bear_cases ran with ⟨-, -, rfl, -⟩ | ⟨-, -, bears⟩
  · exact .refl after
  · obtain ⟨child, placed, charged, -, -, -, rfl⟩ := bears
    have pays := charge_persists charged
    -- A register says whether the child has found a slot.
    split
    · exact { pays with }
    · exact pays

theorem runClone_persists (ran : world.runClone org = .ok (flow, after, next)) :
    org.Persists after := by
  have silent : org.Persists { org.advance with b := 0.0 } := { Persists.refl org with }
  rcases runClone_cases ran with ⟨-, rfl, -⟩ | ⟨target, -, -, -, -, bearing⟩
  · exact silent
  · exact silent.trans (bear_persists bearing)

omit [DrawSource ρ] in
theorem runSee_persists (world : World ρ) (org : Organism) : org.Persists (world.runSee org) := by
  have reads : ∀ value : Float, org.Persists { org.advance with d := value } :=
    fun _ => { Persists.refl org with }
  exact reads _

/-- No line makes an organism another one, or older. -/
theorem executeLine_persists {slot : Nat}
    (executed : world.executeLine slot org = .ok (flow, after, next)) : org.Persists after := by
  have advanced : org.Persists org.advance := { Persists.refl org with }
  cases executeLine_cases executed with
  | leaves behind => exact org.persists_leaveCode
  | loads value fetched => exact { Persists.refl org with }
  | passes word fetched => exact advanced
  | steps fetched ran => exact runStep_persists ran
  | eats fetched ran => exact advanced.trans (eatAt_persists ran)
  | clones fetched ran => exact runClone_persists ran
  | sees fetched => exact world.runSee_persists org
  | draws number source fetched => exact { Persists.refl org with }
  | gets fetched ran => exact runGet_persists ran
  | puts fetched ran => exact advanced.trans (putAt_persists ran)
  | mixes fetched ran => exact runMix_persists ran
  | computes opcode fetched ran => exact Organism.persists_execute ran

/-! ### Years -/

theorem mutateByAge_persists (done : world.mutateByAge org = .ok (after, next)) :
    org.Persists after := by
  obtain ⟨rfl, -⟩ | ⟨events, source, mutated, -⟩ := mutateByAge_cases done
  · exact .refl after
  · exact Organism.persists_mutate mutated

omit [DrawSource ρ] in
theorem growOlder_eq_ok (grown : growOlder org = .ok after) :
    after = { org with age := org.age + 1 } := by
  obtain ⟨age, counted, answer⟩ := (bind_eq_ok_iff _ _ _).mp grown
  obtain ⟨-, rfl⟩ := (Count.add_eq_ok_iff _ _ _ _).mp counted
  cases answer
  rfl

/-- Whoever survives a year was not too old for it and is a year older; whoever does not has not
aged. -/
theorem ageOrganism_ages {fate : Fate} (aged : world.ageOrganism org = .ok (fate, after, next)) :
    after.id = org.id ∧
      (fate = .alive ∧ isTooOld world.config org.age = false ∧ after.age = org.age + 1 ∨
        fate = .dead ∧ after.age = org.age) := by
  obtain ⟨⟨mutant, between⟩, mutated, aged⟩ := (bind_eq_ok_iff _ _ _).mp aged
  -- Age is looked at after a mutation, which changes neither it nor the configuration.
  have persists := mutateByAge_persists mutated
  have config : between.config = world.config := (mutateByAge_leavesOthers mutated).config
  simp only [config, persists.age] at aged
  split at aged
  next =>
    cases aged
    exact ⟨persists.id, .inr ⟨rfl, persists.age⟩⟩
  next young =>
    rw [Bool.not_eq_true] at young
    split at aged
    next =>
      obtain ⟨⟨paid, charged⟩, charging, aged⟩ := (bind_eq_ok_iff _ _ _).mp aged
      have pays := persists.trans (charge_persists charging)
      simp only at aged
      split at aged
      next =>
        obtain ⟨older, grown, answer⟩ := (bind_eq_ok_iff _ _ _).mp aged
        cases growOlder_eq_ok grown
        cases answer
        exact ⟨pays.id, .inl ⟨rfl, young, congrArg (· + 1) pays.age⟩⟩
      next =>
        cases aged
        exact ⟨pays.id, .inr ⟨rfl, pays.age⟩⟩
    next =>
      obtain ⟨older, grown, answer⟩ := (bind_eq_ok_iff _ _ _).mp aged
      cases growOlder_eq_ok grown
      cases answer
      exact ⟨persists.id, .inl ⟨rfl, young, congrArg (· + 1) persists.age⟩⟩

end World

end Vivarium
