import Vivarium.World.Population
import Vivarium.Proofs.Safety.Execution

/-!
# The life of a population ends well

An organism has some age between two mutations, a cataclysm has some iterations in
between, and the lines granted only grow; so nothing is divided by zero and no
difference falls below zero, however long a population lives.
-/
namespace Vivarium

variable {config : Config}

namespace World

variable {ρ : Type} [DrawSource ρ] [LawfulDrawSource ρ] {world : World ρ} {out : Option Nat}
  {lines : Nat}

/-! ### One iteration -/

theorem mutateByAge_endsWell (sound : world.Sound config out lines) {org : Organism}
    (positive : 1 ≤ org.period) :
    EndsWell config (world.mutateByAge org) (fun done => done.2.Sound config out lines) := by
  unfold mutateByAge
  split
  next => exact .ok sound
  next =>
    refine (Count.rem_endsWell (Nat.ne_of_gt positive)).bind fun phase _ _ => ?_
    split
    next => exact (Organism.mutate_endsWell _ _).bind fun ⟨_, _, _⟩ _ _ => .pure { sound with }
    next => exact .pure sound

omit [DrawSource ρ] [LawfulDrawSource ρ] in
theorem growOlder_endsWell (org : Organism) : EndsWell config (growOlder org) (fun _ => True) :=
  (Count.add_endsWell _ _ _).bind fun _ _ _ => .pure trivial

theorem ageOrganism_endsWell (sound : world.Sound config out lines) {org : Organism}
    (belongs : org.Belongs config) :
    EndsWell config (world.ageOrganism org)
      (fun done => done.2.1.Belongs config ∧ done.2.2.Sound config out lines) := by
  have ends : EndsWell config (world.ageOrganism org)
      (fun done => done.2.2.Sound config out lines) := by
    refine (mutateByAge_endsWell sound belongs.sound.period).bind fun ⟨_, _⟩ _ sound => ?_
    simp only
    split
    next => exact .pure sound
    next =>
      split
      next =>
        refine (charge_endsWell sound _ _).bind fun ⟨_, _⟩ _ paid => ?_
        simp only
        split
        next => exact (growOlder_endsWell _).bind fun _ _ _ => .pure paid
        next => exact .pure paid
      next => exact (growOlder_endsWell _).bind fun _ _ _ => .pure sound
  exact ends.mono fun ⟨_, _, _⟩ aged sound =>
    ⟨(ageOrganism_keepsCourse aged).belongs belongs, sound⟩

theorem ageSurvivor_endsWell (sound : world.Sound config out lines) {org : Organism}
    (belongs : org.Belongs config) (fate : Fate) :
    EndsWell config (world.ageSurvivor org fate)
      (fun done => done.2.1.Belongs config ∧ done.2.2.Sound config out lines) := by
  cases fate with
  | alive => exact ageOrganism_endsWell sound belongs
  | dead => exact .ok ⟨belongs, sound⟩

omit [DrawSource ρ] [LawfulDrawSource ρ] in
/-- The field of a world, with its source of chance. -/
theorem Sound.wideState (sound : world.Sound config out lines) :
    KeptAll WideState world.surfaces (world.grid, world.source) := sound.kept

theorem replenish_endsWell (sound : world.Sound config out lines) :
    EndsWell config world.replenish (fun next => next.Sound config out lines) := by
  unfold replenish
  refine (Amount.add_endsWell _ _).bind fun _ _ _ => ?_
  refine (Amount.add_endsWell _ _).bind fun _ _ _ => ?_
  refine (maxEnergy_endsWell _).bind fun _ _ _ => ?_
  split
  next =>
    refine (onSurface_endsWell (fun surface state consistent wide =>
      Surface.put_endsWell ⟨consistent, wide⟩ state.2) sound.wideState energyKind).bind
        fun ⟨put, _, _, _⟩ _ done => ?_
    obtain ⟨landed, rfl⟩ := Option.isSome_iff_exists.mp (done.2.2 sound.energy)
    exact .pure { sound.ground done.1 done.2.1 with }
  next => exact .pure sound

theorem tickSurfaces_endsWell (sound : world.Sound config out lines) :
    EndsWell config world.tickSurfaces (fun next => next.Sound config out lines) := by
  refine (onSurfaces_endsWell (fun surface state consistent wide =>
    Surface.tick_endsWell ⟨consistent, wide⟩ state.2) sound.wideState).bind
      fun ⟨_, _, _⟩ _ done => ?_
  exact .pure { sound.ground done.1 done.2 with }

theorem visit_endsWell (accepted : config.Accepted) (sound : world.Sound config none lines)
    (slot : Nat) :
    EndsWell config (world.visit slot) (fun next => next.Sound config none lines) := by
  unfold visit
  split
  next => exact .ok sound
  next org pool taken =>
    obtain ⟨lent, belongs⟩ := sound.pool.take taken
    have taken : { world with pool }.Sound config (some slot) lines := { sound with pool := lent }
    simp only
    refine (executeLines_endsWell accepted slot _ taken belongs).bind fun ⟨_, _, _⟩ _ executed => ?_
    refine (ageSurvivor_endsWell executed.2 executed.1 _).bind fun ⟨_, _, _⟩ _ aged => ?_
    refine (settle_endsWell aged.2 aged.1 _).bind fun settled _ sound => ?_
    refine (Count.add_endsWell _ _ _).bind fun granted counted _ => ?_
    obtain ⟨-, rfl⟩ := (Count.add_eq_ok_iff _ _ _ _).mp counted
    have granted : { settled with
        linesGranted := settled.linesGranted + world.config.linesPerIteration }.Sound config none
          lines :=
      { sound with lines := Nat.le_add_right_of_le sound.lines }
    exact (replenish_endsWell granted).bind fun _ _ sound => tickSurfaces_endsWell sound

theorem visitFrom_endsWell (accepted : config.Accepted) (remaining slot : Nat)
    (sound : world.Sound config none lines) :
    EndsWell config (visitFrom remaining slot world)
      (fun next => next.Sound config none lines) := by
  induction remaining generalizing slot world with
  | zero => exact .ok sound
  | succ remaining ih =>
    exact (visit_endsWell accepted sound slot).bind fun _ _ sound => ih _ sound

/-! ### Seeding -/

omit [LawfulDrawSource ρ] in
theorem randomCode_endsWell (sound : world.Sound config out lines) :
    EndsWell config world.randomCode (fun done => done.2.Sound config out lines) := by
  have roomy : config.Roomy →
      reserve world.config.orgInitialCodeSize Genome.wordBytes = .ok () := by
    rw [sound.settings]
    exact Config.Roomy.code
  exact (Mutation.randomCode_endsWell roomy _ _).bind fun ⟨_, _⟩ _ _ => .pure { sound with }

theorem seedMany_endsWell (accepted : config.Accepted) (wanted placed : Nat)
    (sound : world.Sound config out lines) :
    EndsWell config (seedMany wanted placed world)
      (fun done => done.2.Sound config out lines) := by
  induction wanted generalizing placed world with
  | zero => exact .ok sound
  | succ wanted ih =>
    refine (headroom_endsWell _).bind fun headroom _ _ => ?_
    simp only
    split
    next => exact .pure sound
    next =>
      refine (Grid.randomEmpty_endsWell sound.kept.2 _ _).bind fun ⟨found, source⟩ _ _ => ?_
      have drawn : { world with source }.Sound config out lines := { sound with }
      cases found with
      | none => exact ih _ drawn
      | some offset =>
        refine (randomCode_endsWell drawn).bind fun ⟨code, _⟩ _ coded => ?_
        refine (spawnOrganism_endsWell accepted coded offset code _).bind fun ⟨_, _⟩ _ spawned => ?_
        exact ih _ spawned

theorem seedPopulation_endsWell (accepted : config.Accepted)
    (sound : world.Sound config out lines) :
    EndsWell config world.seedPopulation (fun done => done.2.Sound config out lines) :=
  (seedMany_endsWell accepted _ _ sound).bind fun ⟨_, _⟩ _ seeded =>
    (Count.add_endsWell _ _ _).bind fun _ _ _ => .pure { seeded with }

/-! ### Cataclysms -/

theorem replace_endsWell (accepted : config.Accepted) (sound : world.Sound config out lines)
    (slot : Nat) (victim : Organism) :
    EndsWell config (world.replace slot victim) (fun done => done.2.Sound config out lines) := by
  refine (headroom_endsWell _).bind fun headroom _ _ => ?_
  refine (Amount.add_endsWell _ _).bind fun available _ _ => ?_
  refine (Grid.randomEmpty_endsWell sound.kept.2 _ _).bind fun ⟨found, source⟩ _ _ => ?_
  have drawn : { world with source }.Sound config out lines := { sound with }
  cases found with
  | none => exact .pure drawn
  | some offset =>
    simp only
    split
    next => exact .pure drawn
    next =>
      refine (kill_endsWell drawn slot).bind fun ⟨_, _⟩ _ killed => ?_
      refine (randomCode_endsWell killed).bind fun ⟨code, _⟩ _ coded => ?_
      exact (spawnOrganism_endsWell accepted coded offset code _).bind fun ⟨_, _⟩ _ spawned =>
        .pure spawned

theorem cullFrom_endsWell (accepted : config.Accepted) (remaining slot bound replaced : Nat)
    (sound : world.Sound config out lines) :
    EndsWell config (cullFrom remaining slot bound replaced world)
      (fun done => done.2.Sound config out lines) := by
  induction remaining generalizing slot bound replaced world with
  | zero => exact .ok sound
  | succ remaining ih =>
    unfold cullFrom
    split
    next =>
      split
      next => exact (Count.add_endsWell _ _ _).bind fun _ _ _ => ih _ _ _ sound
      next victim _ =>
        exact (replace_endsWell accepted sound slot victim).bind fun ⟨_, _⟩ _ sound =>
          ih _ _ _ sound
    next => exact .ok sound

theorem cull_endsWell (accepted : config.Accepted) (sound : world.Sound config out lines) :
    EndsWell config world.cull (fun done => done.2.Sound config out lines) :=
  cullFrom_endsWell accepted _ _ _ _ sound

omit [DrawSource ρ] [LawfulDrawSource ρ] in
theorem sample_endsWell (world : World ρ) (a b : Genome) :
    EndsWell config (world.sample a b) (fun _ => True) := by
  refine (Count.add_endsWell _ _ _).bind fun _ _ _ => ?_
  refine (Count.add_endsWell _ _ _).bind fun _ _ _ => ?_
  exact (Count.add_endsWell _ _ _).bind fun _ _ _ => .pure trivial

theorem conclude_endsWell (accepted : config.Accepted) (sound : world.Sound config out lines) :
    EndsWell config world.conclude (fun done => done.2.Sound config out lines) := by
  have refreshed : { world with probe := world.probe.refresh }.Sound config out lines :=
    { sound with }
  unfold conclude
  simp only
  split
  next => exact (cull_endsWell accepted refreshed).bind fun ⟨_, _⟩ _ culled => .pure { culled with }
  next => exact .pure { refreshed with }

theorem compareTwo_endsWell (sound : world.Sound config out lines) :
    EndsWell config world.compareTwo (fun done => done.2.Sound config out lines) := by
  refine (Draw.position_endsWell sound.pool.capacity _).bind fun ⟨first, _⟩ _ _ => ?_
  refine (Draw.position_endsWell sound.pool.capacity _).bind fun ⟨second, source⟩ _ _ => ?_
  simp only
  split
  next => exact (sample_endsWell _ _ _).bind fun _ _ _ => .pure { sound with }
  next => exact .pure { sound with }

theorem updateCataclysm_endsWell (accepted : config.Accepted)
    (sound : world.Sound config out lines) :
    EndsWell config world.updateCataclysm (fun done => done.2.Sound config out lines) := by
  refine (compareTwo_endsWell sound).bind fun ⟨compared, _⟩ _ sound => ?_
  simp only
  split
  next => exact .pure sound
  next => exact (conclude_endsWell accepted sound).bind fun ⟨_, _⟩ _ done => .pure done

theorem step_endsWell (accepted : config.Accepted) (sound : world.Sound config none lines) :
    EndsWell config world.step (fun done => done.2.Sound config none lines) := by
  have reset : { world with births := 0, deaths := 0 }.Sound config none lines := { sound with }
  refine (visitFrom_endsWell accepted _ _ reset).bind fun visited _ sound => ?_
  have often : visited.config.cataclysmEvery ≠ 0 := by
    rw [sound.settings]
    exact accepted.periods.2
  refine (Count.rem_endsWell often).bind fun phase _ _ => ?_
  simp only
  split
  next =>
    refine (updateCataclysm_endsWell accepted sound).bind fun ⟨_, _⟩ _ updated => ?_
    exact (Count.add_endsWell _ _ _).bind fun _ _ _ => .pure { updated with }
  next => exact (Count.add_endsWell _ _ _).bind fun _ _ _ => .pure { sound with }

/-! ### Runs -/

/-- The lines granted before an iteration are no more than those granted after it. -/
theorem iterate_endsWell (accepted : config.Accepted) (iterations total : Nat)
    (sound : world.Sound config none lines) :
    EndsWell config (iterate iterations total world)
      (fun done => done.2.Sound config none lines) := by
  induction iterations generalizing total world with
  | zero => exact .ok sound
  | succ iterations ih =>
    -- Lines are granted and never taken back, so the difference is a count.
    have since : world.Sound config none world.linesGranted :=
      { sound with lines := Nat.le_refl _ }
    refine (step_endsWell accepted since).bind fun ⟨_, _⟩ _ sound' => ?_
    refine (Count.sub_endsWell sound'.lines).bind fun _ _ _ => ?_
    refine (Count.add_endsWell _ _ _).bind fun _ _ _ => ?_
    exact ih _ { sound' with lines := Nat.le_trans sound.lines sound'.lines }

theorem revive_endsWell (accepted : config.Accepted) (sound : world.Sound config out lines) :
    EndsWell config world.revive (fun next => next.Sound config out lines) := by
  unfold revive
  split
  next =>
    exact (seedPopulation_endsWell accepted sound).bind fun ⟨_, _⟩ _ seeded => .pure seeded
  next => exact .ok sound

omit [DrawSource ρ] [LawfulDrawSource ρ] in
theorem Sound.remember (sound : world.Sound config out lines) (summary : RunSummary) :
    (world.remember summary).Sound config out lines := by
  unfold World.remember
  split
  · exact sound
  · split <;> exact { sound with }

theorem run_endsWell (accepted : config.Accepted) (sound : world.Sound config none lines) :
    EndsWell config world.run (fun done => done.2.Sound config none lines) := by
  refine (iterate_endsWell accepted _ _ sound).bind fun ⟨_, _⟩ _ iterated => ?_
  exact (revive_endsWell accepted iterated).bind fun _ _ revived => .pure (revived.remember _)

end World

end Vivarium
