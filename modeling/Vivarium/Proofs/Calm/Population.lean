import Vivarium.Proofs.Calm.Execution

/-!
# Iterations that are calm about energy

At rest the ledger and the tokens together are an amount: either nobody lives, or all of it
is below the ceiling. That is what the headroom is computed from, and what a new token is
added to. So no turn of a slot, no cataclysm and no seeding is beyond the range of amounts.
-/
namespace Vivarium.World

variable {ρ : Type} {cap yield : Int}

/-- A world at rest where nobody lives, or that is below the ceiling. -/
structure Bounded (cap yield : Int) (world : World ρ) : Prop where
  lent : world.pool.LentOnly none
  regular : world.scene.Regular cap yield
  within : world.scene.Deserted ∨ world.scene.Modest cap yield

variable {world : World ρ} {slot : Nat}

theorem Bounded.resting (bounded : Bounded cap yield world) : Resting world where
  lent := bounded.lent
  accepted := bounded.regular.accepted
  furnished := bounded.regular.accounted.furnished
  thriving := bounded.regular.thriving

theorem Bounded.after {next : World ρ} (bounded : Bounded cap yield world)
    (leads : Leads Scene.Affords world next) : Bounded cap yield next where
  lent := leads.lent
  regular := leads.moves.regular bounded.regular
  within := leads.moves.deserted_or_modest bounded.regular bounded.within

/-- Where somebody lives, the world is below the ceiling. -/
theorem Bounded.modest (bounded : Bounded cap yield world) {org : Organism}
    (live : world.pool.get? slot = some org) : world.scene.Modest cap yield :=
  bounded.within.resolve_left (Scene.not_deserted (Pool.bodies_eq_some live))

theorem Bounded.take (bounded : Bounded cap yield world) {pool : Pool} {org : Organism}
    (taken : world.pool.take slot = some (org, pool)) :
    Scene.Moves Scene.Affords world.scene ({ world with pool }.during slot org.body) ∧
      Engaged cap yield { world with pool } slot org.body ∧ 0 < org.energy := by
  obtain ⟨started, executing⟩ : Scene.Moves Scene.Affords world.scene _ ∧ _ :=
    bounded.resting.take taken
  have live := (Pool.take_eq_some bounded.lent taken).1
  refine ⟨started, ⟨executing.lent, started.regular bounded.regular, ?_⟩, executing.alive⟩
  exact started.modest bounded.regular (bounded.modest live)

theorem Bounded.funds_eq (bounded : Bounded cap yield world) :
    world.scene.funds = world.totalEnergy :=
  bounded.regular.settled.funds_eq bounded.regular.thriving rfl

/-- Everybody has energy, and nobody more than the ledger says. -/
theorem Bounded.share (bounded : Bounded cap yield world) {org : Organism}
    (live : world.pool.get? slot = some org) :
    0 < org.energy ∧ org.energy ≤ world.totalEnergy := by
  have resident := Pool.bodies_eq_some live
  have alive : 0 < org.energy :=
    bounded.regular.thriving slot org.body resident fun acting => nomatch acting
  have rest : 0 ≤ world.totalEnergy - org.energy :=
    (bounded.regular.others resident fun _ acting => nomatch acting).1
  exact ⟨alive, by omega⟩

/-- The ledger and the tokens are an amount together. -/
theorem Bounded.range (bounded : Bounded cap yield world) :
    0 ≤ world.totalEnergy ∧ 0 ≤ world.tokenEnergy ∧
      world.totalEnergy + world.tokenEnergy ≤ maxAmount := by
  have regular := bounded.regular
  have funds := bounded.funds_eq
  have least : 0 ≤ world.scene.funds := Scene.funds_nonneg
  have tokens : 0 ≤ world.tokenEnergy := Scene.tokenEnergy_nonneg regular.accepted
  refine ⟨by omega, tokens, ?_⟩
  rcases bounded.within with deserted | modest
  · have nothing := deserted.funds_eq
    have most : world.scene.tokenEnergy ≤ maxAmount := by
      rw [Scene.tokenEnergy_eq_stored]
      exact stored_le _ _
    change world.tokenEnergy ≤ maxAmount at most
    omega
  · have value : 0 < world.scene.config.energyValue := regular.accepted.energyValue
    have most := regular.funds_le modest
    change _ + world.tokenEnergy + _ ≤ _ at most
    omega

/-! ### Headroom -/

theorem Bounded.headroom_eq (bounded : Bounded cap yield world) :
    world.headroom = .ok (cap - world.totalEnergy - world.tokenEnergy - 1) := by
  obtain ⟨total, tokens, sum⟩ := bounded.range
  have nonneg := bounded.regular.nonneg
  have least := minAmount_eq
  exact headroom_eq_ok bounded.regular.ample.capped total tokens (by omega)

/-- A newcomer with energy there is room for fits into the ledger. -/
theorem spawnOrganism_calm {offset : Nat} {code : Genome} {energy : Int}
    (bounded : Bounded cap yield world) (affords : world.scene.Affords energy) :
    Calm (world.spawnOrganism offset code energy) := by
  unfold spawnOrganism
  split
  · exact .ok _
  next able =>
    have some : 0 < energy := Int.not_le.mp fun none => able (.inl none)
    apply Calm.bind world.allocateId_calm
    intro ⟨id, named⟩ allocated
    apply Calm.bind (Organism.create_calm _ _ _ _)
    intro org created
    obtain ⟨rfl, rfl⟩ := allocateId_eq_ok allocated
    obtain ⟨-, rfl⟩ := (Organism.create_eq_ok_iff _ _ _ _ _).mp created
    obtain ⟨total, tokens, sum⟩ := bounded.range
    obtain ⟨cap', capped, below⟩ := affords
    have most := Config.maxEnergy_le capped
    change world.totalEnergy + world.tokenEnergy + energy < cap' at below
    have least := minAmount_eq
    apply adopt_calm
    · change minAmount ≤ world.totalEnergy + energy
      omega
    · change world.totalEnergy + energy ≤ maxAmount
      omega

section Drawing

variable [DrawSource ρ]

/-! ### Turns of a slot -/

theorem runOrganism_calm {lines : Nat} (bounded : Bounded cap yield world) :
    Calm (world.runOrganism slot lines) := by
  unfold runOrganism
  split
  · exact .ok _
  next org pool taken =>
    obtain ⟨-, engaged, alive⟩ := bounded.take taken
    apply Calm.bind (executeLines_calm engaged alive)
    intro ⟨fate, after, executed⟩ ran
    have slice : Reaches Scene.Affords slot _ _ executed after.body :=
      (executeLines_reaches (engaged.executing alive) ran).1
    exact (settle_calm (engaged.after slice)).bind fun _ _ => .pure _

theorem ageSurvivor_calm {org : Organism} {fate : Fate}
    (engaged : Engaged cap yield world slot org.body) (lives : fate = .alive → 0 < org.energy) :
    Calm (world.ageSurvivor org fate) := by
  cases fate with
  | alive => exact ageOrganism_calm engaged (lives rfl)
  | dead => exact .ok _

/-- Below the ceiling there is room for one token more. -/
theorem replenish_calm (bounded : Bounded cap yield world)
    (modest : world.scene.Modest cap yield) : Calm world.replenish := by
  have regular := bounded.regular
  obtain ⟨total, tokens, sum⟩ := bounded.range
  have funds := bounded.funds_eq
  have value : 0 < world.config.energyValue := regular.accepted.energyValue
  have most : world.scene.funds + world.tokenEnergy + world.config.energyValue ≤ maxAmount :=
    regular.funds_le modest
  have least := minAmount_eq
  apply Calm.bind (Amount.add_calm (by omega) sum)
  intro known first
  obtain ⟨-, rfl⟩ := (Amount.add_eq_ok_iff _ _ _).mp first
  apply Calm.bind (Amount.add_calm (by omega) (by omega))
  intro _ _
  apply Calm.bind (Calm.of_ok regular.ample.capped)
  intro cap _
  split
  · apply Calm.bind (onSurface_calm (fun surface state => surface.put_calm _ _) _ _ _)
    intro ⟨put, surfaces, grid, source⟩ _
    simp only
    split
    · exact .error rfl
    · exact .pure _
  · exact .pure _

theorem visit_calm (bounded : Bounded cap yield world) : Calm (world.visit slot) := by
  unfold visit
  split
  · exact .ok _
  next org pool taken =>
    obtain ⟨started, engaged, alive⟩ := bounded.take taken
    have executing := engaged.executing alive
    apply Calm.bind (executeLines_calm engaged alive)
    intro ⟨fate, moved, sliced⟩ ran
    obtain ⟨slice, lives⟩ : Reaches Scene.Affords slot _ _ sliced moved.body ∧ _ :=
      executeLines_reaches executing ran
    apply Calm.bind (ageSurvivor_calm (engaged.after slice) lives)
    intro ⟨fate', aged, older⟩ year
    obtain ⟨turn, survives⟩ := ageSurvivor_reaches executing slice lives year
    apply Calm.bind (settle_calm (engaged.after turn))
    intro settled settling
    obtain ⟨ended, lent⟩ := settle_eq_ok turn.lent survives settling
    apply Calm.bind (Count.add_calm _ _ _)
    intro linesGranted _
    -- Whoever lived at first has left the world below the ceiling, even by its death.
    have moves := turn.moves.trans ended
    have modest : settled.scene.Modest cap yield := moves.modest engaged.regular engaged.modest
    have rest : Bounded cap yield { settled with linesGranted } :=
      ⟨lent, moves.regular engaged.regular, .inr modest⟩
    exact (replenish_calm rest modest).bind fun _ _ => tickSurfaces_calm _

theorem visitFrom_calm {remaining : Nat} (bounded : Bounded cap yield world) :
    Calm (visitFrom remaining slot world) := by
  induction remaining generalizing slot world with
  | zero => exact .ok _
  | succ remaining ih =>
    apply Calm.bind (visit_calm bounded)
    intro visited turn
    exact ih (bounded.after (visit_leads bounded.resting Scene.lenient_affords turn))

/-! ### Seeding -/

theorem seedMany_calm {wanted placed : Nat} (bounded : Bounded cap yield world) :
    Calm (seedMany wanted placed world) := by
  induction wanted generalizing placed world with
  | zero => exact .ok _
  | succ wanted ih =>
    apply Calm.bind (.of_ok bounded.headroom_eq)
    intro headroom room
    simp only
    split
    · exact .pure _
    · apply Calm.bind (Grid.randomEmpty_calm _ _ _)
      intro ⟨found, source⟩ _
      have unseen : ∀ source, Leads Scene.Affords world { world with source } := fun source =>
        bounded.resting.unseen rfl rfl
      simp only
      split
      -- No cell was found; the next one is tried all the same.
      · exact ih (bounded.after (unseen source))
      · apply Calm.bind (randomCode_calm _)
        intro ⟨code, coded⟩ coding
        obtain ⟨source', rfl⟩ := randomCode_eq_ok coding
        have affords : world.scene.Affords (min world.config.orgEnergy headroom) :=
          affords_of_headroom room (Int.min_le_right _ _)
        have ready := bounded.after (unseen source')
        apply Calm.bind (spawnOrganism_calm ready affords)
        intro ⟨slot, spawned⟩ spawning
        exact ih (ready.after (spawnOrganism_leads ready.resting affords spawning))

theorem seedPopulation_calm (bounded : Bounded cap yield world) : Calm world.seedPopulation :=
  (seedMany_calm bounded).bind fun _ _ => (Count.add_calm _ _ _).bind fun _ _ => .pure _

theorem revive_calm (bounded : Bounded cap yield world) : Calm world.revive := by
  unfold revive
  split
  · exact (seedPopulation_calm bounded).bind fun _ _ => .pure _
  · exact .ok _

/-! ### Cataclysms -/

theorem Bounded.kill_calm (bounded : Bounded cap yield world) : Calm (world.kill slot) := by
  apply World.kill_calm bounded.lent
  intro org live
  obtain ⟨alive, part⟩ := bounded.share live
  obtain ⟨total, tokens, sum⟩ := bounded.range
  have least := minAmount_eq
  exact ⟨by omega, by omega⟩

/-- What the victim has can be given to its successor, who has no more than the cap. -/
theorem replace_calm {victim : Organism} (bounded : Bounded cap yield world)
    (live : world.pool.get? slot = some victim) : Calm (world.replace slot victim) := by
  apply Calm.bind (.of_ok bounded.headroom_eq)
  intro headroom room
  have level := Except.ok.inj (room.symm.trans bounded.headroom_eq)
  obtain ⟨alive, part⟩ := bounded.share live
  obtain ⟨total, tokens, sum⟩ := bounded.range
  have nonneg := bounded.regular.nonneg
  have least := minAmount_eq
  have most := Config.maxEnergy_le bounded.regular.ample.capped
  apply Calm.bind (Amount.add_calm (by omega) (by omega))
  intro available added
  have given := ((Amount.add_eq_ok_iff _ _ _).mp added).2
  apply Calm.bind (Grid.randomEmpty_calm _ _ _)
  intro ⟨found, source⟩ _
  have unseen : Leads Scene.Affords world { world with source } := bounded.resting.unseen rfl rfl
  have drawn := bounded.after unseen
  simp only
  split
  -- There is no cell for a successor, or no energy.
  · exact .pure _
  · split
    · exact .pure _
    · apply Calm.bind drawn.kill_calm
      intro ⟨killed, left⟩ killing
      have gone := drawn.after (kill_leads drawn.resting killing)
      have value := Int.le_of_lt bounded.regular.accepted.energyValue
      have spare : world.scene.Affords
          (min world.config.orgEnergy available - victim.energy) :=
        affords_of_headroom room (by omega)
      have affords := affords_of_kill drawn.lent live killing value spare
      apply Calm.bind (randomCode_calm _)
      intro ⟨code, coded⟩ coding
      obtain ⟨source', rfl⟩ := randomCode_eq_ok coding
      have drawnCode : Leads Scene.Affords left { left with source := source' } :=
        gone.resting.unseen rfl rfl
      have ready := gone.after drawnCode
      exact (spawnOrganism_calm ready affords).bind fun _ _ => .pure _

theorem cullFrom_calm {remaining bound replaced : Nat} (bounded : Bounded cap yield world) :
    Calm (cullFrom remaining slot bound replaced world) := by
  induction remaining generalizing slot bound replaced world with
  | zero => exact .ok _
  | succ remaining ih =>
    unfold cullFrom
    split
    · split
      -- An empty slot raises the bound.
      · exact (Count.add_calm _ _ _).bind fun _ _ => ih bounded
      next victim live =>
        apply Calm.bind (replace_calm bounded live)
        intro ⟨fresh, after⟩ replacing
        exact ih (bounded.after
          (replace_leads bounded.resting live Scene.lenient_affords replacing))
    · exact .ok _

theorem conclude_calm (bounded : Bounded cap yield world) : Calm world.conclude := by
  have refreshed : Bounded cap yield { world with probe := world.probe.refresh } :=
    bounded.after (bounded.resting.unseen rfl rfl)
  simp only [conclude]
  split
  · exact (cullFrom_calm refreshed).bind fun _ _ => .pure _
  · exact .pure _

theorem updateCataclysm_calm (bounded : Bounded cap yield world) :
    Calm world.updateCataclysm := by
  apply Calm.bind world.compareTwo_calm
  intro ⟨compared, sampled⟩ comparing
  simp only
  split
  · exact .pure _
  · have after := bounded.after (compareTwo_leads bounded.resting comparing)
    exact (conclude_calm after).bind fun _ _ => .pure _

/-! ### Iterations and runs -/

theorem step_calm (bounded : Bounded cap yield world) : Calm world.step := by
  have opened : Bounded cap yield { world with births := 0, deaths := 0 } :=
    bounded.after (bounded.resting.of_move .opened rfl rfl)
  apply Calm.bind (visitFrom_calm opened)
  intro visited turns
  have played := opened.after
    (visitFrom_leads opened.resting Scene.lenient_affords turns)
  apply Calm.bind (Count.rem_calm _ _)
  intro phase _
  simp only
  split
  · apply Calm.bind (updateCataclysm_calm played)
    intro _ _
    exact (Count.add_calm _ _ _).bind fun _ _ => .pure _
  · exact (Count.add_calm _ _ _).bind fun _ _ => .pure _

theorem iterate_calm {iterations lines : Nat} (bounded : Bounded cap yield world) :
    Calm (iterate iterations lines world) := by
  induction iterations generalizing lines world with
  | zero => exact .ok _
  | succ iterations ih =>
    apply Calm.bind (step_calm bounded)
    intro ⟨report, after⟩ stepping
    apply Calm.bind (Count.sub_calm _ _)
    intro _ _
    apply Calm.bind (Count.add_calm _ _ _)
    intro _ _
    exact ih (bounded.after (step_leads bounded.resting Scene.lenient_affords stepping))

theorem run_calm (bounded : Bounded cap yield world) : Calm world.run := by
  apply Calm.bind (iterate_calm bounded)
  intro ⟨lines, after⟩ iterating
  have lived := bounded.after
    (iterate_leads bounded.resting Scene.lenient_affords iterating)
  exact (revive_calm lived).bind fun _ _ => .pure _

end Drawing

end Vivarium.World
