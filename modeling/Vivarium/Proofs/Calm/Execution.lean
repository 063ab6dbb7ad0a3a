import Vivarium.Proofs.Calm
import Vivarium.Proofs.Worth

/-!
# Turns that are calm about energy

An organism executes in a world below the ceiling. What it pays it has or owes, and owes no
more than an amount, since whoever is in debt pays nothing more. What it gains was there
before, in another organism or in the atoms of a token. So no line of its program is beyond
the range of amounts, and neither is its year.
-/
namespace Vivarium.World

variable {ρ : Type} {cap yield : Int}

/-- The organism of a slot is out of the pool, in a world below the ceiling. -/
structure Engaged (cap yield : Int) (world : World ρ) (slot : Nat) (body : Body) : Prop where
  lent : world.pool.LentOnly (some slot)
  regular : (world.during slot body).Regular cap yield
  modest : (world.during slot body).Modest cap yield

variable {world : World ρ} {slot : Nat} {body : Body} {org : Organism}

theorem Engaged.executing (engaged : Engaged cap yield world slot body)
    (alive : 0 < body.energy) : Executing world slot body where
  lent := engaged.lent
  accepted := engaged.regular.accepted
  furnished := engaged.regular.accounted.furnished
  thriving := engaged.regular.thriving
  alive := alive

theorem Engaged.after {next : World ρ} {later : Body}
    (engaged : Engaged cap yield world slot body)
    (reaches : Reaches Scene.Affords slot world body next later) :
    Engaged cap yield next slot later where
  lent := reaches.lent
  regular := reaches.moves.regular engaged.regular
  modest := reaches.moves.modest engaged.regular engaged.modest

/-- The ledger without the one that executes, and with what that has. -/
theorem Engaged.others (engaged : Engaged cap yield world slot body) :
    0 ≤ world.totalEnergy - body.energy ∧
      world.totalEnergy - body.energy + max 0 body.energy = (world.during slot body).funds :=
  engaged.regular.others (world.resident_during slot body)
    fun _ acting => (Option.some.inj acting).symm

theorem Engaged.range (engaged : Engaged cap yield world slot body) :
    0 ≤ world.totalEnergy - body.energy ∧
      world.totalEnergy - body.energy + max 0 body.energy ≤ maxAmount := by
  obtain ⟨rest, whole⟩ := engaged.others
  have tokens := Scene.tokenEnergy_nonneg engaged.regular.accepted
  have value := engaged.regular.accepted.energyValue
  have most := engaged.regular.funds_le engaged.modest
  exact ⟨rest, by omega⟩

/-! ### Payments -/

theorem charge_calm {amount : Int}
    (energy : minAmount ≤ org.energy - amount ∧ org.energy - amount ≤ maxAmount)
    (total : minAmount ≤ world.totalEnergy - amount ∧ world.totalEnergy - amount ≤ maxAmount) :
    Calm (world.charge org amount) := by
  apply Calm.bind (Amount.sub_calm energy.1 energy.2)
  intro _ _
  exact (Amount.sub_calm total.1 total.2).bind fun _ _ => .pure _

/-- Who has energy may pay any amount. -/
theorem Engaged.charge_calm {amount : Int} (engaged : Engaged cap yield world slot org.body)
    (alive : 0 < org.energy) (cost : 0 ≤ amount ∧ amount ≤ maxAmount) :
    Calm (world.charge org amount) := by
  obtain ⟨rest, whole⟩ := engaged.range
  have same : org.body.energy = org.energy := rfl
  have least := minAmount_eq
  exact World.charge_calm ⟨by omega, by omega⟩ ⟨by omega, by omega⟩

theorem credit_calm {amount : Int}
    (energy : minAmount ≤ org.energy + amount ∧ org.energy + amount ≤ maxAmount)
    (total : minAmount ≤ world.totalEnergy + amount ∧ world.totalEnergy + amount ≤ maxAmount) :
    Calm (world.credit org amount) := by
  apply Calm.bind (Amount.add_calm energy.1 energy.2)
  intro _ _
  exact (Amount.add_calm total.1 total.2).bind fun _ _ => .pure _

theorem adopt_calm (least : minAmount ≤ world.totalEnergy + org.energy)
    (most : world.totalEnergy + org.energy ≤ maxAmount) : Calm (world.adopt org) := by
  apply Calm.bind (world.pool.insert_calm org)
  intro ⟨inserted, pool⟩ _
  cases inserted with
  | none => exact .pure _
  | some slot =>
    apply Calm.bind (Amount.add_calm least most)
    intro _ _
    exact (Count.add_calm _ _ _).bind fun _ _ => .pure _

section Drawing

variable [DrawSource ρ]

theorem bury_calm (least : minAmount ≤ world.totalEnergy - org.energy)
    (most : world.totalEnergy - org.energy ≤ maxAmount) : Calm (world.bury org) := by
  apply Calm.bind (Amount.sub_calm least most)
  intro total _
  simp only
  split
  · exact (Count.add_calm _ _ _).bind fun _ _ => .pure _
  · apply Calm.bind (onSurface_calm (fun surface state => surface.restore_calm _ _ _) _ _ _)
    intro _ _
    exact (Count.add_calm _ _ _).bind fun _ _ => .pure _

/-- Whoever is killed takes its energy out of the ledger. -/
theorem kill_calm {out : Option Nat} (lent : world.pool.LentOnly out)
    (range : ∀ org, world.pool.get? slot = some org →
      minAmount ≤ world.totalEnergy - org.energy ∧
        world.totalEnergy - org.energy ≤ maxAmount) : Calm (world.kill slot) := by
  apply Calm.bind (world.pool.remove_calm slot)
  intro ⟨removed, pool⟩ taken
  cases removed with
  | none => exact .pure _
  | some org =>
    obtain ⟨least, most⟩ := range org (Pool.remove_eq_some lent taken).1
    have buried : Calm ({ world with pool }.bury org) := bury_calm least most
    exact buried.bind fun _ _ => .pure _

/-! ### Steps -/

omit [DrawSource ρ] in
theorem walk_calm {delay : Nat} (engaged : Engaged cap yield world slot org.body)
    (alive : 0 < org.energy) : Calm (world.walk slot org delay) := by
  have cost := engaged.regular.cost_mem (.inl rfl)
  apply Calm.bind (Count.add_calm _ _ _)
  intro steps _
  split
  -- It waits for its next step, which costs as much.
  · have waiting : Engaged cap yield world slot { org with steps }.body := engaged
    exact (waiting.charge_calm alive cost).bind fun _ _ => .pure _
  · simp only
    split
    -- It points off the grid, or runs into an organism or a barrier, and pays nothing.
    · exact .ok _
    · split
      · exact .ok _
      · -- Where it stands makes no difference to what it can pay.
        obtain ⟨rest, whole⟩ := engaged.range
        have same : org.body.energy = org.energy := rfl
        have least := minAmount_eq
        change 0 ≤ world.config.orgStepEnergy ∧ world.config.orgStepEnergy ≤ maxAmount at cost
        refine (World.charge_calm ?_ ?_).bind fun _ _ => .pure _
        all_goals
          simp only
          omega

theorem runStep_calm (engaged : Engaged cap yield world slot org.body) (alive : 0 < org.energy) :
    Calm (world.runStep slot org) := by
  have advanced : Engaged cap yield world slot org.advance.body := engaged
  unfold runStep
  simp only
  split
  · exact walk_calm advanced alive
  next surface found =>
    obtain ⟨token, -, own⟩ := Option.bind_eq_some_iff.mp found
    have terrain : (world.during slot org.advance.body).Cost surface.config.energy :=
      .inr (.inr ⟨surface, List.mem_of_getElem? own, rfl⟩)
    have cost := engaged.regular.cost_mem terrain
    apply Calm.bind (advanced.charge_calm alive cost)
    intro ⟨paid, charged⟩ done
    have reached := advanced.after (charge_reaches done advanced.lent terrain)
    simp only
    split
    -- Only who survives the terrain has to pay for the step.
    next lives =>
      have positive : 0 < paid.energy := by simpa [Organism.isAlive] using lives
      apply Calm.bind (irradiate_calm _ _ _)
      intro ⟨dosed, irradiated⟩ dosing
      obtain ⟨dose, sameBody⟩ : Reaches Scene.Affords slot charged _ irradiated dosed.body ∧ _ :=
        irradiate_reaches (reached.executing positive) dosing
      have energy : dosed.energy = paid.energy := congrArg Body.energy sameBody
      exact walk_calm (reached.after dose) (energy ▸ positive)
    next => exact .pure _

/-! ### Meals -/

omit [DrawSource ρ] in
theorem eatToken_calm {target : Nat} {token : Token}
    (engaged : Engaged cap yield world slot org.body) (alive : 0 < org.energy)
    (shown : world.grid.get target = .token token) (energy : token.kind = energyKind) :
    Calm (world.eatToken org target token) := by
  apply Calm.bind (onSurface_calm (fun surface grid => surface.remove_calm grid _ _) _ _ _)
  intro ⟨eaten, surfaces, grid⟩ _
  simp only
  split
  · exact .error rfl
  · -- What it gains is worth as much before.
    obtain ⟨rest, whole⟩ := engaged.others
    have most := engaged.regular.gain_le engaged.modest shown energy
    have gain := engaged.regular.accepted.gain_nonneg token
    have least := minAmount_eq
    have same : org.body.energy = org.energy := rfl
    have config : (world.during slot org.body).config = world.config := rfl
    rw [config] at most gain
    refine (credit_calm ⟨by omega, by omega⟩ ?_).bind fun _ _ => .pure _
    simp only
    omega

theorem eatOrganism_calm {victim : Nat} {amount : Int}
    (engaged : Engaged cap yield world slot org.body) (alive : 0 < org.energy)
    (nonneg : 0 ≤ amount) : Calm (world.eatOrganism org victim amount) := by
  unfold eatOrganism
  split
  · exact .ok _
  next prey live =>
    obtain ⟨elsewhere, preyAlive⟩ := (engaged.executing alive).other live
    have caught : (world.during slot org.body).residents victim = some prey.body := by
      simp only [during, sceneWith, Function.update_of_ne elsewhere]
      exact Pool.bodies_eq_some live
    have regular := engaged.regular
    have pair := regular.pair_le (world.resident_during slot org.body) elsewhere caught
    have tokens := Scene.tokenEnergy_nonneg regular.accepted
    have value := regular.accepted.energyValue
    have most := regular.funds_le engaged.modest
    obtain ⟨rest, whole⟩ := engaged.range
    have same : org.body.energy = org.energy := rfl
    have samePrey : prey.body.energy = prey.energy := rfl
    have least := minAmount_eq
    -- Eater and prey have no more than all organisms together, before and after.
    apply Calm.bind (Amount.sub_calm (by omega) (by omega))
    intro left difference
    apply Calm.bind (Amount.add_calm (by omega) (by omega))
    intro energy _
    obtain ⟨-, remains⟩ := (Amount.sub_eq_ok_iff _ _ _).mp difference
    simp only
    split
    next drained =>
      -- The drained prey has nothing to take out of the ledger.
      have nothing : left = 0 := by omega
      obtain ⟨lent, map, -⟩ :=
        Pool.update_of_get? engaged.lent live { prey with energy := left }
      refine (kill_calm lent fun dead held => ?_).bind fun _ _ => .pure _
      simp only [map, Function.update_self, Option.some.injEq] at held
      subst held
      simp only [nothing]
      omega
    next => exact .pure _

theorem eatAt_calm {target : Option Nat} (engaged : Engaged cap yield world slot org.body)
    (alive : 0 < org.energy) : Calm (world.eatAt org target) := by
  cases target with
  | none => exact .ok _
  | some target =>
    simp only [eatAt]
    -- The cell is empty, or it shows an organism or a token.
    split
    next => exact .ok _
    next victim _ =>
      split
      next => exact eatOrganism_calm engaged alive (Amount.magnitude_mem _).1
      next => exact .ok _
    next token shown =>
      split
      next energy =>
        exact eatToken_calm engaged alive shown (by simpa [Token.isEnergy] using energy)
      next => exact .ok _

/-! ### Offspring -/

/-- The child has what its parent gives away, so the ledger is in the end what it was. -/
theorem bear_calm {target : Nat} (engaged : Engaged cap yield world slot org.body)
    (alive : 0 < org.energy) : Calm (world.bear org target) := by
  obtain ⟨rest, whole⟩ := engaged.range
  have same : org.body.energy = org.energy := rfl
  have least := minAmount_eq
  have share : 0 ≤ org.energy.tdiv 2 ∧ org.energy.tdiv 2 ≤ org.energy := by
    rw [Int.tdiv_eq_ediv_of_nonneg (Int.le_of_lt alive)]
    omega
  unfold bear
  simp only
  split
  · exact .ok _
  · apply Calm.bind world.allocateId_calm
    intro ⟨id, named⟩ allocated
    apply Calm.bind (org.offspring_calm _ _ _ _)
    intro child born
    obtain ⟨rfl, rfl⟩ := allocateId_eq_ok allocated
    obtain rfl := Organism.offspring_eq_ok born
    apply Calm.bind (charge_calm ⟨by omega, by omega⟩ ⟨by simp only; omega, by simp only; omega⟩)
    intro ⟨payer, paid⟩ charged
    obtain ⟨rfl, rfl⟩ := charge_eq_ok charged
    apply Calm.bind (mutateClone_calm _ _)
    intro ⟨mutant, _⟩ mutated
    apply Calm.bind (crossClone_calm _ _)
    intro ⟨crossed, _⟩ crossing
    obtain ⟨mutantBody, source, rfl⟩ := mutateClone_eq_ok mutated
    obtain ⟨crossedBody, source', rfl⟩ := crossClone_eq_ok crossing
    -- Neither mutation nor crossover changes what the child has.
    have childBody := crossedBody.trans (mutantBody.trans (body_endow ..))
    have energy : crossed.energy = org.energy.tdiv 2 := congrArg Body.energy childBody
    refine (adopt_calm ?_ ?_).bind fun _ _ => .pure _
    all_goals
      simp only [energy]
      omega

theorem runClone_calm (engaged : Engaged cap yield world slot org.body)
    (alive : 0 < org.energy) : Calm (world.runClone org) := by
  have silent : Engaged cap yield world slot { org.advance with b := 0.0 }.body := by
    rw [Organism.body_setB]
    exact engaged
  unfold runClone
  simp only
  -- Each way to fail costs nothing.
  split
  · exact .ok _
  · split
    · exact .ok _
    · split
      · exact bear_calm silent alive
      · exact .ok _

/-! ### Lines and slices -/

theorem runOpcode_calm {opcode : Opcode} (engaged : Engaged cap yield world slot org.body)
    (alive : 0 < org.energy) : Calm (world.runOpcode slot org opcode) := by
  have advanced : Engaged cap yield world slot org.advance.body := engaged
  unfold runOpcode
  -- Opcodes that only compute come last, together.
  split
  next => exact runStep_calm engaged alive
  next => exact eatAt_calm advanced alive
  next => exact runClone_calm engaged alive
  next => exact .ok _
  next => exact goOn_calm (world.runRand_calm org)
  next => exact goOn_calm (world.runGet_calm org)
  next => exact goOn_calm (world.putAt_calm _ _ _)
  next => exact goOn_calm (world.runMix_calm org)
  next => exact (org.execute_calm _).bind fun _ _ => .pure _

theorem executeLine_calm (engaged : Engaged cap yield world slot org.body)
    (alive : 0 < org.energy) : Calm (world.executeLine slot org) := by
  unfold executeLine
  split
  next => exact .ok _
  next => exact .ok _
  next => exact .ok _
  next => exact runOpcode_calm engaged alive

theorem executeLines_calm {lines : Nat} (engaged : Engaged cap yield world slot org.body)
    (alive : 0 < org.energy) : Calm (executeLines slot lines org world) := by
  -- A line that goes on leaves the organism with energy for the next one.
  induction lines generalizing org world with
  | zero => exact .ok _
  | succ lines ih =>
    apply Calm.bind (executeLine_calm engaged alive)
    intro ⟨flow, moved, executed⟩ line
    have turn : Turn Scene.Affords slot world org.body flow executed moved.body :=
      executeLine_turn (engaged.executing alive) line
    cases flow with
    | next => exact ih (engaged.after turn.toReaches) (turn.lives (by decide))
    | stop => exact .pure _
    | die => exact .pure _

/-! ### Growing old -/

theorem ageOrganism_calm (engaged : Engaged cap yield world slot org.body)
    (alive : 0 < org.energy) : Calm (world.ageOrganism org) := by
  apply Calm.bind (world.mutateByAge_calm org)
  intro ⟨mutant, aged⟩ mutated
  obtain ⟨kept, source, rfl⟩ := mutateByAge_eq_ok mutated
  have energy : mutant.energy = org.energy := congrArg Body.energy kept
  have older : Engaged cap yield { world with source } slot mutant.body :=
    engaged.after ((engaged.executing alive).drawn source kept)
  simp only
  split
  -- It dies of old age, with what energy it has.
  · exact .pure _
  · split
    -- It loses energy at this age, and may die of that.
    · apply Calm.bind (older.charge_calm (energy ▸ alive) (by decide))
      intro ⟨paid, charged⟩ _
      simp only
      split
      · exact (growOlder_calm _).bind fun _ _ => .pure _
      · exact .pure _
    · exact (growOlder_calm _).bind fun _ _ => .pure _

/-- Whoever is buried leaves the others' energy in the ledger. -/
theorem settle_calm {fate : Fate} (engaged : Engaged cap yield world slot org.body) :
    Calm (world.settle slot org fate) := by
  cases fate with
  | alive => exact .ok _
  | dead =>
    obtain ⟨rest, whole⟩ := engaged.range
    have same : org.body.energy = org.energy := rfl
    have least := minAmount_eq
    have buried : Calm (world.bury org) := bury_calm (by omega) (by omega)
    exact buried.bind fun _ _ => (Pool.release_calm _ _).bind fun _ _ => .pure _

end Drawing

end Vivarium.World
