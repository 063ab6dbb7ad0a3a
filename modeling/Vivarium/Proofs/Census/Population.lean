import Vivarium.Proofs.Calls
import Vivarium.Proofs.Census.Execution

/-!
# What a world does to its organisms

Between two operations no slot is lent, and the pool holds all organisms. Each operation
leads from such a world to such a world by changes of the census; an iteration counts
its births and deaths from zero, and what it reports is what it has counted. Nothing is
assumed of the organisms themselves, so the owner of the world may have changed them.
-/
namespace Vivarium

open Mutation (Drawn)

namespace World

variable {ρ : Type}

/-- From one world to a later one of the same iteration, with these words as new ones. -/
structure Alters (words : Int → Prop) (world next : World ρ) : Prop where
  changes : world.census.Changes words next.census
  lent : next.pool.LentOnly none

/-- From one world to a later one. -/
structure Proceeds (words : Int → Prop) (world next : World ρ) : Prop where
  moves : world.census.Moves words next.census
  lent : next.pool.LentOnly none

variable {words more : Int → Prop} {world between next : World ρ}

theorem Alters.trans (first : Alters words world between) (rest : Alters words between next) :
    Alters words world next :=
  ⟨Relation.ReflTransGen.trans first.changes rest.changes, rest.lent⟩

theorem Alters.proceeds (alters : Alters words world next) : Proceeds words world next :=
  ⟨alters.changes.moves, alters.lent⟩

theorem Proceeds.trans (first : Proceeds words world between)
    (rest : Proceeds words between next) : Proceeds words world next :=
  ⟨Relation.ReflTransGen.trans first.moves rest.moves, rest.lent⟩

theorem Proceeds.mono (proceeds : Proceeds words world next)
    (wider : ∀ word, words word → more word) : Proceeds more world next :=
  ⟨proceeds.moves.mono wider, proceeds.lent⟩

/-- What the census does not show may change. -/
theorem Alters.unseen (lent : world.pool.LentOnly none) (shown : next.census = world.census)
    (pool : next.pool = world.pool) : Alters words world next := by
  refine ⟨?_, pool ▸ lent⟩
  rw [shown]
  exact .refl

theorem Alters.refl (lent : world.pool.LentOnly none) : Alters words world world :=
  .unseen lent rfl rfl

theorem Alters.drawn (lent : world.pool.LentOnly none) (source : ρ) :
    Alters words world { world with source } := .unseen lent rfl rfl

/-! ### Turns -/

/-- An organism that is lent is shown in its slot all the same. -/
theorem census_of_take {pool : Pool} {slot : Nat} {org : Organism}
    (lent : world.pool.LentOnly none) (taken : world.pool.take slot = some (org, pool)) :
    world.pool.get? slot = some org ∧ pool.LentOnly (some slot) ∧
      { world with pool }.censusDuring slot org = world.census := by
  obtain ⟨live, out, map, -⟩ := Pool.take_eq_some lent taken
  refine ⟨live, out, ?_⟩
  simp only [census, censusDuring, censusWith, map, Pool.size_of_take taken]
  rw [Function.update_idem, ← live, Function.update_eq_self]

variable [DrawSource ρ]

/-- At the end of its turn an organism goes back to its slot, or it leaves. -/
theorem census_of_settle {slot : Nat} {org : Organism} {fate : Fate}
    (lent : world.pool.LentOnly (some slot)) (settled : world.settle slot org fate = .ok next) :
    next.pool.LentOnly none ∧
      (next.census = world.censusDuring slot org ∨
        1 ≤ world.pool.size ∧ next.census = (world.censusDuring slot org).dismiss slot) := by
  cases fate with
  | alive =>
    cases settled
    obtain ⟨back, map, -⟩ := Pool.restore_of_lent lent org
    refine ⟨back, .inl ?_⟩
    simp only [census, censusDuring, censusWith, map, Pool.size_restore]
  | dead =>
    obtain ⟨buried, burying, settled⟩ := (bind_eq_ok_iff _ _ _).mp settled
    obtain ⟨pool, released, answer⟩ := (bind_eq_ok_iff _ _ _).mp settled
    cases answer
    obtain ⟨totalEnergy, grid, surfaces, source, rfl⟩ := counts_of_bury burying
    obtain ⟨freed, map, -⟩ := Pool.release_of_lent lent released
    obtain ⟨counted, size⟩ := Pool.size_of_release lent released
    refine ⟨freed, .inr ⟨counted, ?_⟩⟩
    simp only [census, censusDuring, censusWith, Census.dismiss, map, size, Function.update_idem]

theorem settle_changes {slot : Nat} {org : Organism} {fate : Fate}
    (lent : world.pool.LentOnly (some slot)) (settled : world.settle slot org fate = .ok next) :
    (world.censusDuring slot org).Changes words next.census ∧ next.pool.LentOnly none := by
  obtain ⟨ready, stays | ⟨counted, leaves⟩⟩ := census_of_settle lent settled
  · rw [stays]
    exact ⟨.refl, ready⟩
  · rw [leaves]
    exact ⟨.single (.leave slot org (world.resident_censusDuring slot org) counted), ready⟩

variable {org after : Organism} {slot : Nat}

theorem Drains.changes {victim : Nat} (drains : Drains slot victim world org next after) :
    (world.censusDuring slot org).Changes (Drawn ρ) (next.censusDuring slot after) := by
  obtain ⟨prey, live, -⟩ := drains.taken
  have caught : (world.censusDuring slot org).residents victim = some prey := by
    simpa only [censusDuring, censusWith, Function.update_of_ne drains.other] using live
  have eats : ((world.censusDuring slot org).dismiss victim).residents slot = some org := by
    simp [censusDuring, censusWith, Census.dismiss, Function.update_of_ne drains.other.symm]
  rw [drains.gone]
  refine .tail (.single (.leave victim prey caught drains.counted)) ?_
  exact .deed slot _ (.alone org after eats drains.evolves)

theorem executeLines_changes {lines : Nat} {fate : Fate} (lent : world.pool.LentOnly (some slot))
    (ran : executeLines slot lines org world = .ok (fate, after, next)) :
    (world.censusDuring slot org).Changes (Drawn ρ) (next.censusDuring slot after) ∧
      next.pool.LentOnly (some slot) := by
  obtain ⟨ready, deeds | ⟨-, passed, between, eater, victim, -, passes, -, -, drains⟩⟩ :=
    executeLines_plays lent ran
  · exact ⟨deeds.changes, ready⟩
  · exact ⟨(passes.deeds lent).1.changes.trans drains.changes, ready⟩

theorem runOrganism_alters {lines : Nat} {fate : Option Fate} (lent : world.pool.LentOnly none)
    (ran : world.runOrganism slot lines = .ok (fate, next)) : Alters (Drawn ρ) world next := by
  rcases runOrganism_cases ran with
    ⟨-, -, rfl⟩ | ⟨org, pool, fate, after, executed, taken, execution, settling, -⟩
  · exact .refl lent
  · obtain ⟨-, out, started⟩ := census_of_take lent taken
    obtain ⟨slice, out'⟩ := executeLines_changes out execution
    obtain ⟨ends, back⟩ := settle_changes out' settling
    rw [started] at slice
    exact ⟨slice.trans ends, back⟩

/-! ### Growing old -/

theorem mutateByAge_leavesOthers (done : world.mutateByAge org = .ok (after, next)) :
    world.LeavesOthers org next after := by
  obtain ⟨rfl, rfl⟩ | ⟨events, source, mutated, rfl⟩ := mutateByAge_cases done
  · exact .refl next after
  · exact ⟨Organism.evolves_mutate mutated, rfl, fun _ => rfl⟩

theorem ageOrganism_leavesOthers {fate : Fate}
    (aged : world.ageOrganism org = .ok (fate, after, next)) :
    world.LeavesOthers org next after := by
  obtain ⟨mutant, between, energy, totalEnergy, age, mutated, rfl, rfl⟩ := ageOrganism_eq_ok aged
  have leaves := mutateByAge_leavesOthers mutated
  exact ⟨{ leaves.evolves with }, leaves.pool, leaves.kept⟩

theorem ageSurvivor_leavesOthers {fate later : Fate}
    (aged : world.ageSurvivor org fate = .ok (later, after, next)) :
    world.LeavesOthers org next after := by
  cases fate with
  | alive => exact ageOrganism_leavesOthers aged
  | dead =>
    cases aged
    exact .refl world org

/-! ### Births and deaths between turns -/

omit [DrawSource ρ] in
/-- Whoever is placed has the words of the genome that was given for it. -/
theorem spawnOrganism_alters {offset : Nat} {code : Genome} {energy : Int} {placed : Option Nat}
    (lent : world.pool.LentOnly none) (given : ∀ word ∈ code, words word)
    (spawned : world.spawnOrganism offset code energy = .ok (placed, next)) :
    Alters words world next := by
  rcases spawnOrganism_cases spawned with ⟨-, rfl, -⟩ | ⟨⟨-, room, -⟩, adopted⟩
  · exact .refl lent
  · cases placed with
    | none =>
      have full := adopt_eq_none adopted
      rw [room] at full
      cases full
    | some slot =>
      obtain ⟨vacant, -, ready, shown, -⟩ := receive_of_adopt adopted lent rfl
      refine ⟨?_, ready⟩
      rw [shown]
      have orphan := Census.newborn_fresh words world.census offset energy
      refine .single (.spawn slot _ vacant (orphan.evolve (Organism.Evolves.setCode ?_)))
      intro word member
      exact .inr (.inl (given word member))

omit [DrawSource ρ] in
theorem spawnToken_alters {offset kind atoms : Nat} {added : Bool}
    (lent : world.pool.LentOnly none)
    (spawned : world.spawnToken offset kind atoms = .ok (added, next)) :
    Alters words world next := by
  obtain ⟨surfaces, grid, rfl⟩ := spawnToken_eq_ok spawned
  exact .unseen lent rfl rfl

theorem kill_alters {done : Bool} (lent : world.pool.LentOnly none)
    (killed : world.kill slot = .ok (done, next)) : Alters words world next := by
  rcases dismiss_of_kill lent killed with ⟨-, rfl⟩ | ⟨org, live, ready, counted, shown, -⟩
  · exact .refl lent
  · refine ⟨?_, ready⟩
    rw [shown]
    exact .single (.leave slot org live counted)

/-- A random genome takes draws, of which the census shows nothing. -/
theorem drawn_of_world_randomCode {code : Genome} (drawing : world.randomCode = .ok (code, next)) :
    (∀ word ∈ code, Drawn ρ word) ∧ ∃ source, next = { world with source } := by
  obtain ⟨⟨code', source⟩, drawn, answer⟩ := (bind_eq_ok_iff _ _ _).mp drawing
  cases answer
  exact ⟨Mutation.drawn_of_randomCode drawn, source, rfl⟩

theorem seedMany_alters {wanted placed total : Nat} (lent : world.pool.LentOnly none)
    (seeded : seedMany wanted placed world = .ok (total, next)) : Alters (Drawn ρ) world next := by
  induction wanted generalizing placed world with
  | zero =>
    cases seeded
    exact .refl lent
  | succ wanted ih =>
    obtain ⟨headroom, -, seeded⟩ := (bind_eq_ok_iff _ _ _).mp seeded
    simp only at seeded
    split at seeded
    next =>
      cases seeded
      exact .refl lent
    next =>
      obtain ⟨⟨found, source⟩, -, seeded⟩ := (bind_eq_ok_iff _ _ _).mp seeded
      have looked : Alters (Drawn ρ) world { world with source } := .drawn lent source
      simp only at seeded
      split at seeded
      next => exact looked.trans (ih looked.lent seeded)
      next offset =>
        obtain ⟨⟨code, coded⟩, coding, seeded⟩ := (bind_eq_ok_iff _ _ _).mp seeded
        obtain ⟨words, source', rfl⟩ := drawn_of_world_randomCode coding
        obtain ⟨⟨slot, spawned⟩, spawning, seeded⟩ := (bind_eq_ok_iff _ _ _).mp seeded
        have drawn : Alters (Drawn ρ) world { world with source := source' } := .drawn lent source'
        have born := drawn.trans (spawnOrganism_alters drawn.lent words spawning)
        exact born.trans (ih born.lent seeded)

theorem seedPopulation_alters {placed : Nat} (lent : world.pool.LentOnly none)
    (seeded : world.seedPopulation = .ok (placed, next)) : Alters (Drawn ρ) world next := by
  obtain ⟨⟨total, populated⟩, seeding, seeded⟩ := (bind_eq_ok_iff _ _ _).mp seeded
  obtain ⟨generation, -, answer⟩ := (bind_eq_ok_iff _ _ _).mp seeded
  cases answer
  have grown := seedMany_alters lent seeding
  exact ⟨grown.changes, grown.lent⟩

/-! ### Cataclysms -/

theorem replace_alters {victim : Organism} {fresh : Bool} (lent : world.pool.LentOnly none)
    (replaced : world.replace slot victim = .ok (fresh, next)) : Alters (Drawn ρ) world next := by
  obtain ⟨headroom, -, replaced⟩ := (bind_eq_ok_iff _ _ _).mp replaced
  obtain ⟨available, -, replaced⟩ := (bind_eq_ok_iff _ _ _).mp replaced
  obtain ⟨⟨found, source⟩, -, replaced⟩ := (bind_eq_ok_iff _ _ _).mp replaced
  have looked : Alters (Drawn ρ) world { world with source } := .drawn lent source
  simp only at replaced
  split at replaced
  next =>
    cases replaced
    exact looked
  next offset =>
    split at replaced
    next =>
      cases replaced
      exact looked
    next =>
      obtain ⟨⟨killed, left⟩, killing, replaced⟩ := (bind_eq_ok_iff _ _ _).mp replaced
      obtain ⟨⟨code, coded⟩, coding, replaced⟩ := (bind_eq_ok_iff _ _ _).mp replaced
      obtain ⟨⟨successor, spawned⟩, spawning, replaced⟩ := (bind_eq_ok_iff _ _ _).mp replaced
      cases replaced
      obtain ⟨words, source', rfl⟩ := drawn_of_world_randomCode coding
      have gone := looked.trans (kill_alters looked.lent killing)
      have drawn := gone.trans (.drawn gone.lent source')
      exact drawn.trans (spawnOrganism_alters drawn.lent words spawning)

theorem cullFrom_alters {remaining bound replaced total : Nat} (lent : world.pool.LentOnly none)
    (culled : cullFrom remaining slot bound replaced world = .ok (total, next)) :
    Alters (Drawn ρ) world next := by
  induction remaining generalizing slot bound replaced world with
  | zero =>
    cases culled
    exact .refl lent
  | succ remaining ih =>
    unfold cullFrom at culled
    split at culled
    next =>
      split at culled
      next =>
        obtain ⟨raised, -, culled⟩ := (bind_eq_ok_iff _ _ _).mp culled
        exact ih lent culled
      next victim live =>
        obtain ⟨⟨fresh, left⟩, replacing, culled⟩ := (bind_eq_ok_iff _ _ _).mp culled
        have first := replace_alters lent replacing
        exact first.trans (ih first.lent culled)
    next =>
      cases culled
      exact .refl lent

theorem compareTwo_alters {compared : Bool} (lent : world.pool.LentOnly none)
    (done : world.compareTwo = .ok (compared, next)) : Alters words world next := by
  obtain ⟨⟨first, source⟩, -, done⟩ := (bind_eq_ok_iff _ _ _).mp done
  obtain ⟨⟨second, source'⟩, -, done⟩ := (bind_eq_ok_iff _ _ _).mp done
  simp only at done
  split at done
  · obtain ⟨probe, -, answer⟩ := (bind_eq_ok_iff _ _ _).mp done
    cases answer
    exact .unseen lent rfl rfl
  · cases done
    exact .unseen lent rfl rfl

theorem conclude_alters {replaced : Nat} (lent : world.pool.LentOnly none)
    (done : world.conclude = .ok (replaced, next)) : Alters (Drawn ρ) world next := by
  have refreshed : Alters (Drawn ρ) world { world with probe := world.probe.refresh } :=
    .unseen lent rfl rfl
  simp only [conclude] at done
  split at done
  · obtain ⟨⟨total, culled⟩, culling, answer⟩ := (bind_eq_ok_iff _ _ _).mp done
    cases answer
    have thinned := refreshed.trans (cullFrom_alters refreshed.lent culling)
    exact ⟨thinned.changes, thinned.lent⟩
  · cases done
    exact .unseen lent rfl rfl

theorem updateCataclysm_alters {replaced : Option Nat} (lent : world.pool.LentOnly none)
    (done : world.updateCataclysm = .ok (replaced, next)) : Alters (Drawn ρ) world next := by
  obtain ⟨⟨compared, sampled⟩, comparing, done⟩ := (bind_eq_ok_iff _ _ _).mp done
  have first : Alters (Drawn ρ) world sampled := compareTwo_alters lent comparing
  simp only at done
  split at done
  · cases done
    exact first
  · obtain ⟨⟨total, culled⟩, concluding, answer⟩ := (bind_eq_ok_iff _ _ _).mp done
    cases answer
    exact first.trans (conclude_alters first.lent concluding)

/-! ### Iterations -/

theorem replenish_alters (lent : world.pool.LentOnly none)
    (replenished : world.replenish = .ok next) : Alters words world next := by
  obtain ⟨surfaces, grid, source, rfl⟩ := replenish_eq_ok replenished
  exact .unseen lent rfl rfl

theorem tickSurfaces_alters (lent : world.pool.LentOnly none)
    (ticked : world.tickSurfaces = .ok next) : Alters words world next := by
  obtain ⟨surfaces, grid, source, rfl⟩ := tickSurfaces_eq_ok ticked
  exact .unseen lent rfl rfl

/-- The slice and the year after it are one turn outside of the pool. -/
theorem visit_alters (lent : world.pool.LentOnly none) (visited : world.visit slot = .ok next) :
    Alters (Drawn ρ) world next := by
  rcases visit_cases visited with ⟨-, rfl⟩ | ⟨org, -, turn⟩
  · exact .refl lent
  · obtain ⟨settled, linesGranted, taken, slice, year, settling, -, dropping, ticking⟩ := turn
    obtain ⟨-, out, started⟩ := census_of_take lent taken
    obtain ⟨executed, out'⟩ := executeLines_changes out slice
    rw [started] at executed
    have leaves := ageSurvivor_leavesOthers year
    obtain ⟨ends, back⟩ := settle_changes (leaves.lent out') settling
    have played : Alters (Drawn ρ) world { settled with linesGranted } :=
      ⟨(executed.trans (leaves.deeds slot).changes).trans ends, back⟩
    have dropped := played.trans (replenish_alters played.lent dropping)
    exact dropped.trans (tickSurfaces_alters dropped.lent ticking)

theorem visitFrom_alters {remaining : Nat} (lent : world.pool.LentOnly none)
    (visited : visitFrom remaining slot world = .ok next) : Alters (Drawn ρ) world next := by
  induction remaining generalizing slot world with
  | zero =>
    cases visited
    exact .refl lent
  | succ remaining ih =>
    obtain ⟨between, first, rest⟩ := (bind_eq_ok_iff _ _ _).mp visited
    have turn := visit_alters lent first
    exact turn.trans (ih turn.lent rest)

/-- An iteration counts from zero, and reports what it has counted. -/
theorem step_changes {report : StepReport} (lent : world.pool.LentOnly none)
    (stepped : world.step = .ok (report, next)) :
    ∃ last : Census,
      ({ world.census with births := 0, deaths := 0 } : Census).Changes (Drawn ρ) last ∧
        next.census = { last with iteration := last.iteration + 1 } ∧
        report.births = last.births ∧ report.deaths = last.deaths ∧ next.pool.LentOnly none := by
  obtain ⟨visited, turns, stepped⟩ := (bind_eq_ok_iff _ _ _).mp stepped
  obtain ⟨phase, -, stepped⟩ := (bind_eq_ok_iff _ _ _).mp stepped
  have opened : ({ world with births := 0, deaths := 0 } : World ρ).pool.LentOnly none := lent
  have played := visitFrom_alters opened turns
  -- With a cataclysm or without one, the iteration is closed and reported in the same way.
  have closes : ∀ (last : World ρ) (iteration : Nat), Alters (Drawn ρ) visited last →
      Count.add limit64 last.iteration 1 = .ok iteration → report.births = last.births →
      report.deaths = last.deaths → next = { last with iteration } →
      ∃ last : Census,
        ({ world.census with births := 0, deaths := 0 } : Census).Changes (Drawn ρ) last ∧
          next.census = { last with iteration := last.iteration + 1 } ∧
          report.births = last.births ∧ report.deaths = last.deaths ∧
          next.pool.LentOnly none := by
    rintro last iteration alters counted births deaths rfl
    obtain ⟨-, rfl⟩ := (Count.add_eq_ok_iff _ _ _ _).mp counted
    have lived := played.trans alters
    exact ⟨last.census, lived.changes, rfl, births, deaths, lived.lent⟩
  simp only at stepped
  split at stepped
  · obtain ⟨⟨replaced, last⟩, updating, stepped⟩ := (bind_eq_ok_iff _ _ _).mp stepped
    obtain ⟨iteration, counted, answer⟩ := (bind_eq_ok_iff _ _ _).mp stepped
    cases answer
    exact closes last _ (updateCataclysm_alters played.lent updating) counted rfl rfl rfl
  · obtain ⟨last, same, stepped⟩ := (bind_eq_ok_iff _ _ _).mp stepped
    cases same
    obtain ⟨iteration, counted, answer⟩ := (bind_eq_ok_iff _ _ _).mp stepped
    cases answer
    exact closes visited _ (.refl played.lent) counted rfl rfl rfl

theorem step_proceeds {report : StepReport} (lent : world.pool.LentOnly none)
    (stepped : world.step = .ok (report, next)) : Proceeds (Drawn ρ) world next := by
  obtain ⟨last, changes, closed, -, -, ready⟩ := step_changes lent stepped
  refine ⟨?_, ready⟩
  rw [closed]
  exact ((Relation.ReflTransGen.single .opened).trans changes.moves).tail .closed

/-! ### Runs -/

theorem iterate_proceeds {iterations lines granted : Nat} (lent : world.pool.LentOnly none)
    (iterated : iterate iterations lines world = .ok (granted, next)) :
    Proceeds (Drawn ρ) world next := by
  induction iterations generalizing lines world with
  | zero =>
    cases iterated
    exact (Alters.refl lent).proceeds
  | succ iterations ih =>
    obtain ⟨⟨report, between⟩, stepping, iterated⟩ := (bind_eq_ok_iff _ _ _).mp iterated
    obtain ⟨difference, -, iterated⟩ := (bind_eq_ok_iff _ _ _).mp iterated
    obtain ⟨sum, -, iterated⟩ := (bind_eq_ok_iff _ _ _).mp iterated
    have first := step_proceeds lent stepping
    exact first.trans (ih first.lent iterated)

theorem revive_alters (lent : world.pool.LentOnly none) (revived : world.revive = .ok next) :
    Alters (Drawn ρ) world next := by
  unfold revive at revived
  split at revived
  · obtain ⟨⟨placed, populated⟩, seeding, answer⟩ := (bind_eq_ok_iff _ _ _).mp revived
    cases answer
    exact seedPopulation_alters lent seeding
  · cases revived
    exact .refl lent

theorem run_proceeds {summary : RunSummary} (lent : world.pool.LentOnly none)
    (ran : world.run = .ok (summary, next)) : Proceeds (Drawn ρ) world next := by
  obtain ⟨⟨lines, iterated⟩, iterating, ran⟩ := (bind_eq_ok_iff _ _ _).mp ran
  obtain ⟨revived, reviving, answer⟩ := (bind_eq_ok_iff _ _ _).mp ran
  cases answer
  have lived := iterate_proceeds lent iterating
  have seeded := lived.trans (revive_alters lived.lent reviving).proceeds
  obtain ⟨history, kept⟩ := remember_eq revived (revived.summarize lines)
  rw [kept]
  exact ⟨seeded.moves, seeded.lent⟩

end World

/-! ### Calls -/

/-- The words that come in with a call. -/
def Call.given : Call → Genome
  | spawnOrganism _ code _ => code
  | _ => []

/-- A word that comes in while these calls are carried out. -/
def Call.Supplied (ρ : Type) [DrawSource ρ] (calls : List Call) (word : Int) : Prop :=
  (∃ call ∈ calls, word ∈ call.given) ∨ Drawn ρ word

namespace World

variable {ρ : Type} [DrawSource ρ] {world next : World ρ}

/-- What a call does brings in its own words and drawn ones. -/
theorem perform_proceeds {call : Call} (lent : world.pool.LentOnly none)
    (performed : world.perform call = .ok next) :
    Proceeds (fun word => word ∈ call.given ∨ Drawn ρ word) world next := by
  have wider : ∀ word, Drawn ρ word → word ∈ call.given ∨ Drawn ρ word := fun word => .inr
  cases perform_cases performed with
  | spawnOrganism offset code energy spawned =>
    exact (spawnOrganism_alters lent (fun word member => .inl member) spawned).proceeds
  | spawnToken offset kind atoms spawned => exact (spawnToken_alters lent spawned).proceeds
  | kill slot killed => exact (kill_alters lent killed).proceeds
  | runOrganism slot lines ran => exact (runOrganism_alters lent ran).proceeds.mono wider
  | step stepped => exact (step_proceeds lent stepped).mono wider
  | run ran => exact (run_proceeds lent ran).mono wider
  | seedPopulation seeded => exact (seedPopulation_alters lent seeded).proceeds.mono wider
  | updateCataclysm updated => exact (updateCataclysm_alters lent updated).proceeds.mono wider

theorem performAll_proceeds {calls : List Call} (lent : world.pool.LentOnly none)
    (performed : performAll calls world = .ok next) :
    Proceeds (Call.Supplied ρ calls) world next := by
  induction calls generalizing world with
  | nil =>
    cases performed
    exact (Alters.refl lent).proceeds
  | cons call rest ih =>
    obtain ⟨between, first, performed⟩ := (bind_eq_ok_iff _ _ _).mp performed
    have proceeds := perform_proceeds lent first
    refine (proceeds.mono ?_).trans ((ih proceeds.lent performed).mono ?_)
    · rintro word (given | drawn)
      · exact .inl ⟨call, List.mem_cons_self, given⟩
      · exact .inr drawn
    · rintro word (⟨other, member, given⟩ | drawn)
      · exact .inl ⟨other, List.mem_cons_of_mem _ member, given⟩
      · exact .inr drawn

end World

/-! ### The first census -/

namespace Census

/-- Nobody has come yet. -/
def vacant (config : Config) (recording : Bool) : Census where
  config := config
  residents := fun _ => none
  size := 0
  nextId := 0
  iteration := 0
  births := 0
  deaths := 0
  lineage := if recording then some [] else none

end Census

namespace World

variable {ρ : Type} [DrawSource ρ] {config : Config} {source : ρ} {recording : Bool}
  {start world : World ρ} {calls : List Call}

/-- A created world proceeds from nobody to its first population. -/
theorem create_proceeds (created : create config source recording = .ok (.ok start)) :
    (Census.vacant config recording).Moves (Drawn ρ) start.census ∧
      start.pool.LentOnly none := by
  obtain ⟨-, surfaces, grid, rest, placed, -, seeded⟩ := (create_eq_ok_iff _ _ _ _).mp created
  have lent : (barren config surfaces grid rest recording).pool.LentOnly none :=
    Pool.lentOnly_empty _
  have populated := (seedPopulation_alters lent seeded).proceeds
  have shown : (barren config surfaces grid rest recording).census =
      Census.vacant config recording := by
    have nobody : (Pool.empty config.orgAmount).get? = fun _ => none :=
      funext (Pool.get?_empty config.orgAmount)
    simp only [census, censusWith, barren, Census.vacant, nobody]
    rfl
  exact ⟨shown ▸ populated.moves, populated.lent⟩

/-- Whatever is called, the census of the world is reached by moves from the vacant one. -/
theorem moves_of_performAll (created : create config source recording = .ok (.ok start))
    (performed : performAll calls start = .ok world) :
    (Census.vacant config recording).Moves (Call.Supplied ρ calls) world.census ∧
      world.pool.LentOnly none := by
  obtain ⟨first, lent⟩ := create_proceeds created
  have called := performAll_proceeds lent performed
  refine ⟨Relation.ReflTransGen.trans (first.mono ?_) called.moves, called.lent⟩
  exact fun word drawn => .inr drawn

end World

end Vivarium
