import Vivarium.Proofs.Grid.Picture
import Vivarium.World.Population

/-!
# Operations only repaint

No operation on a surface or a world touches a cell but by setting it, and none changes
anything else of the grid. This needs no assumption about the surface or the world: an
operation is taken apart at its binds, and each part repaints the grid that the part
before it left. Parts that do not know of the grid are skipped.
-/
namespace Vivarium

/-- Every answer comes with the grid repainted; `canvas` finds the grid in the answer. -/
def Paints {α : Type} (grid : Grid) (canvas : α → Grid) (outcome : Outcome α) : Prop :=
  ∀ answer, outcome = .ok answer → grid.Repainted (canvas answer)

namespace Paints

variable {α β : Type} {grid middle : Grid} {before : α → Grid} {canvas : β → Grid}
  {outcome : Outcome α} {rest : α → Outcome β}

theorem ok {answer : β} (repainted : grid.Repainted (canvas answer)) :
    Paints grid canvas (.ok answer) := by
  rintro _ ⟨⟩
  exact repainted

theorem pure {answer : β} (repainted : grid.Repainted (canvas answer)) :
    Paints grid canvas (Pure.pure answer) := ok repainted

theorem error (fault : Fault) : Paints grid canvas (.error fault) := nofun

theorem bind (first : Paints grid before outcome)
    (next : ∀ answer, Paints (before answer) canvas (rest answer)) :
    Paints grid canvas (outcome >>= rest) := by
  intro last done
  obtain ⟨answer, answered, finished⟩ := (bind_eq_ok_iff _ _ _).mp done
  exact (first answer answered).trans (next answer last finished)

/-- What the first part does has nothing to do with the grid. -/
theorem skip (next : ∀ answer, Paints grid canvas (rest answer)) :
    Paints grid canvas (outcome >>= rest) := by
  intro last done
  obtain ⟨answer, -, finished⟩ := (bind_eq_ok_iff _ _ _).mp done
  exact next answer last finished

theorem after (repainted : grid.Repainted middle) {outcome : Outcome β}
    (paints : Paints middle canvas outcome) : Paints grid canvas outcome := by
  intro answer answered
  exact repainted.trans (paints answer answered)

end Paints

/-! ### Surfaces -/

namespace Surface

variable (surface : Surface) (grid : Grid)

theorem lay_repaints (offset : Nat) (token : Token) :
    grid.Repainted (surface.lay grid offset token).2 := .set .same _ _

theorem place_repaints (offset : Nat) (token : Token) :
    grid.Repainted (surface.place grid offset token).2.2 := by
  unfold place
  split
  · exact .same
  · exact lay_repaints _ _ _ _

theorem insert_paints (offset atoms : Nat) :
    Paints grid (·.2.2) (surface.insert grid offset atoms) := by
  simp only [insert]
  split
  · exact .ok .same
  · have placed := surface.place_repaints grid offset
      { kind := surface.kind, atoms := max atoms 1 }
    split
    next refused =>
      rw [refused] at placed
      exact .ok placed
    next done =>
      rw [done] at placed
      exact .after placed (.skip fun _ => .pure .same)

theorem remove_paints (offset : Nat) (pickedUp : Bool) :
    Paints grid (·.2.2) (surface.remove grid offset pickedUp) := by
  unfold remove
  split
  · exact .ok .same
  · exact .skip fun _ => .pure (.set .same _ _)

theorem merge_paints (offset : Nat) (carried : Token) :
    Paints grid (·.2.2) (surface.merge grid offset carried) := by
  unfold merge
  split
  · exact .ok .same
  · exact .skip fun _ => .pure (.set .same _ _)

section Drawing

variable {ρ : Type} [DrawSource ρ] (source : ρ)

theorem put_paints : Paints grid (·.2.2.1) (surface.put grid source) := by
  unfold put
  split
  · exact .ok .same
  · apply Paints.skip
    rintro ⟨found, source⟩
    cases found with
    | none => exact .pure .same
    | some offset => exact .skip fun _ => .pure (surface.lay_repaints _ _ _)

theorem putMany_paints (amount placed : Nat) :
    Paints grid (·.2.2.1) (putMany amount placed surface grid source) := by
  induction amount generalizing placed surface grid source with
  | zero => exact .ok .same
  | succ amount ih => exact (put_paints surface grid source).bind fun _ => ih _ _ _ _

theorem restore_paints (token : Token) :
    Paints grid (·.2.2.1) (surface.restore grid token source) := by
  apply Paints.skip
  rintro ⟨found, source⟩
  cases found with
  | none => exact .pure .same
  | some offset => exact .pure (surface.lay_repaints _ _ _)

theorem move_paints : Paints grid (·.2.2.1) (surface.move grid source) := by
  unfold move
  -- There may be no token to move, or nowhere to go.
  split
  · exact .ok .same
  · apply Paints.skip
    rintro ⟨drawn, source⟩
    simp only
    split
    · exact .pure .same
    · split
      · exact .pure .same
      · apply Paints.skip
        rintro ⟨target, source⟩
        simp only
        split
        · exact .pure .same
        · exact .skip fun _ => .pure (.set (.set .same _ _) _ _)

theorem tick_paints : Paints grid (·.2.2.1) (surface.tick grid source) := by
  unfold tick
  split
  · exact .ok .same
  · exact (move_paints _ grid source).bind fun _ => .pure .same

end Drawing

end Surface

section Surfaces

variable {σ α : Type} {operation : Surface → σ → Outcome (α × Surface × σ)} (field : σ → Grid)
  (paints : ∀ surface state, Paints (field state) (fun answer => field answer.2.2)
    (operation surface state))

include paints

theorem onSurface_paints (surfaces : List Surface) (kind : Nat) (state : σ) :
    Paints (field state) (fun answer => field answer.2.2)
      (onSurface operation surfaces kind state) := by
  induction surfaces generalizing kind with
  | nil => exact .ok .same
  | cons surface rest ih =>
    cases kind with
    | zero => exact (paints surface state).bind fun _ => .pure .same
    | succ kind => exact (ih kind).bind fun _ => .pure .same

theorem onSurfaces_paints (surfaces : List Surface) (state : σ) :
    Paints (field state) (fun answer => field answer.2)
      (onSurfaces operation surfaces state) := by
  induction surfaces generalizing state with
  | nil => exact .ok .same
  | cons surface rest ih =>
    exact (paints surface state).bind fun _ => (ih _).bind fun _ => .pure .same

end Surfaces

namespace World

variable {ρ : Type} (world : World ρ) (slot : Nat) (org : Organism)

/-! ### Energy and identity -/

theorem charge_paints (amount : Int) :
    Paints world.grid (·.2.grid) (world.charge org amount) :=
  .skip fun _ => .skip fun _ => .pure .same

theorem credit_paints (amount : Int) :
    Paints world.grid (·.2.grid) (world.credit org amount) :=
  .skip fun _ => .skip fun _ => .pure .same

theorem allocateId_paints : Paints world.grid (·.2.grid) world.allocateId :=
  .skip fun _ => .pure .same

/-! ### Birth and death -/

theorem adopt_paints : Paints world.grid (·.2.grid) (world.adopt org) := by
  apply Paints.skip
  rintro ⟨inserted, pool⟩
  cases inserted with
  | none => exact .pure .same
  | some slot => exact .skip fun _ => .skip fun _ => .pure (.set .same _ _)

theorem spawnOrganism_paints (offset : Nat) (code : Genome) (energy : Int) :
    Paints world.grid (·.2.grid) (world.spawnOrganism offset code energy) := by
  unfold spawnOrganism
  split
  · exact .ok .same
  · apply Paints.bind world.allocateId_paints
    rintro ⟨id, named⟩
    exact .skip fun org => named.adopt_paints _

theorem spawnToken_paints (offset kind atoms : Nat) :
    Paints world.grid (·.2.grid) (world.spawnToken offset kind atoms) :=
  (onSurface_paints id (fun surface grid => surface.insert_paints grid offset atoms)
    _ _ _).bind fun _ => .pure .same

variable [DrawSource ρ]

theorem bury_paints : Paints world.grid World.grid (world.bury org) := by
  apply Paints.skip
  intro totalEnergy
  -- The cell shows again what lay beneath before a packet is dropped.
  have uncovered : world.grid.Repainted (world.grid.set org.offset org.beneath) :=
    .set .same _ _
  simp only
  split
  · exact .skip fun _ => .pure uncovered
  next packet _ =>
    exact .after uncovered ((onSurface_paints Prod.fst
      (fun surface state => surface.restore_paints state.1 state.2 packet) _ _ _).bind
        fun _ => .skip fun _ => .pure .same)

theorem kill_paints : Paints world.grid (·.2.grid) (world.kill slot) := by
  apply Paints.skip
  rintro ⟨removed, pool⟩
  cases removed with
  | none => exact .pure .same
  | some org => exact (bury_paints { world with pool } org).bind fun _ => .pure .same

/-! ### Movement and terrain -/

theorem irradiate_paints (radiation : Float) :
    Paints world.grid (·.2.grid) (world.irradiate org radiation) := by
  simp only [irradiate]
  split
  · exact .skip fun _ => .pure .same
  · exact .ok .same

omit [DrawSource ρ] in
theorem walk_paints (delay : Nat) :
    Paints world.grid (·.2.2.grid) (world.walk slot org delay) := by
  apply Paints.skip
  intro steps
  split
  · exact (charge_paints world _ _).bind fun _ => .pure .same
  · simp only
    split
    · exact .pure .same
    · split
      · exact .pure .same
      · next target _ _ =>
        exact .after (.set (.set .same org.offset org.beneath) target (.organism slot))
          ((charge_paints _ _ _).bind fun _ => .pure .same)

theorem runStep_paints : Paints world.grid (·.2.2.grid) (world.runStep slot org) := by
  simp only [runStep]
  split
  · exact walk_paints _ _ _ _
  · apply Paints.bind (charge_paints world _ _)
    rintro ⟨paid, charged⟩
    simp only
    split
    · exact (irradiate_paints charged _ _).bind fun _ => walk_paints _ _ _ _
    · exact .pure .same

/-! ### Meals -/

theorem eatOrganism_paints (victim : Nat) (amount : Int) :
    Paints world.grid (·.2.2.grid) (world.eatOrganism org victim amount) := by
  unfold eatOrganism
  split
  · exact .ok .same
  · apply Paints.skip
    intro left
    apply Paints.skip
    intro energy
    simp only
    split
    · exact (kill_paints _ victim).bind fun _ => .pure .same
    · exact .pure .same

omit [DrawSource ρ] in
theorem eatToken_paints (target : Nat) (token : Token) :
    Paints world.grid (·.2.2.grid) (world.eatToken org target token) := by
  apply Paints.bind (onSurface_paints id
    (fun surface grid => surface.remove_paints grid target false) _ _ _)
  rintro ⟨eaten, surfaces, grid⟩
  cases eaten with
  | none => exact .error _
  | some _ => exact (credit_paints _ _ _).bind fun _ => .pure .same

theorem eatAt_paints (target : Option Nat) :
    Paints world.grid (·.2.2.grid) (world.eatAt org target) := by
  cases target with
  | none => exact .ok .same
  | some target =>
    simp only [eatAt]
    split
    · exact .ok .same
    · split
      · exact eatOrganism_paints _ _ _ _
      · exact .ok .same
    · split
      · exact eatToken_paints _ _ _ _
      · exact .ok .same

/-! ### Offspring -/

theorem mutateClone_paints (child : Organism) :
    Paints world.grid (·.2.grid) (world.mutateClone child) := by
  apply Paints.skip
  rintro ⟨chosen, source⟩
  simp only
  split
  · exact .skip fun _ => .pure .same
  · exact .pure .same

theorem crossClone_paints (child : Organism) :
    Paints world.grid (·.2.grid) (world.crossClone child) := by
  apply Paints.skip
  rintro ⟨chosen, source⟩
  simp only
  split
  · apply Paints.skip
    rintro ⟨slot, source⟩
    simp only
    split
    · exact .pure .same
    · exact .skip fun _ => .pure .same
  · exact .pure .same

theorem bear_paints (target : Nat) :
    Paints world.grid (·.2.2.grid) (world.bear org target) := by
  simp only [bear]
  split
  · exact .ok .same
  · apply Paints.bind world.allocateId_paints
    rintro ⟨id, named⟩
    apply Paints.skip
    intro child
    apply Paints.bind (charge_paints named org _)
    rintro ⟨payer, paid⟩
    apply Paints.bind (mutateClone_paints paid child)
    rintro ⟨mutant, drawn⟩
    apply Paints.bind (crossClone_paints drawn mutant)
    rintro ⟨crossed, drawn⟩
    exact (adopt_paints drawn crossed).bind fun _ => .pure .same

theorem runClone_paints : Paints world.grid (·.2.2.grid) (world.runClone org) := by
  simp only [runClone]
  split
  · exact .ok .same
  · split
    · exact .ok .same
    · split
      · exact bear_paints _ _ _
      · exact .ok .same

/-! ### Tokens carried -/

theorem runRand_paints : Paints world.grid (·.2.grid) (world.runRand org) :=
  .skip fun _ => .pure .same

omit [DrawSource ρ] in
theorem runGet_paints : Paints world.grid (·.2.grid) (world.runGet org) := by
  simp only [runGet]
  split
  · exact .ok .same
  next target kind _ =>
    apply Paints.bind (onSurface_paints id
      (fun surface grid => surface.remove_paints grid target true) _ _ _)
    rintro ⟨taken, surfaces, grid⟩
    simp only
    split
    · exact .pure .same
    · exact .pure .same

omit [DrawSource ρ] in
theorem putAt_paints (packet : Option Token) (target : Option Nat) :
    Paints world.grid (·.2.grid) (world.putAt org packet target) := by
  unfold putAt
  split
  next packet target =>
    apply Paints.bind (onSurface_paints id
      (fun surface grid => .ok (surface.place_repaints grid target packet)) _ _ _)
    rintro ⟨placed, surfaces, grid⟩
    simp only
    split
    · exact .pure .same
    · exact .pure .same
  · exact .ok .same

omit [DrawSource ρ] in
theorem runMix_paints : Paints world.grid (·.2.grid) (world.runMix org) := by
  simp only [runMix]
  split
  · exact .ok .same
  next target packet _ =>
    apply Paints.bind (onSurface_paints id
      (fun surface grid => surface.merge_paints grid target packet) _ _ _)
    rintro ⟨merged, surfaces, grid⟩
    simp only
    split
    · exact .error _
    · exact .pure .same
    · exact .pure .same

/-! ### Lines and slices -/

omit [DrawSource ρ] in
theorem goOn_paints {grid : Grid} {done : Outcome (Organism × World ρ)}
    (paints : Paints grid (·.2.grid) done) : Paints grid (·.2.2.grid) (goOn done) :=
  paints.bind fun _ => .pure .same

theorem runOpcode_paints (opcode : Opcode) :
    Paints world.grid (·.2.2.grid) (world.runOpcode slot org opcode) := by
  unfold runOpcode
  split
  · exact runStep_paints _ _ _
  · exact eatAt_paints _ _ _
  · exact runClone_paints _ _
  · exact .ok .same
  · exact goOn_paints (runRand_paints _ _)
  · exact goOn_paints (runGet_paints _ _)
  · exact goOn_paints (putAt_paints _ _ _ _)
  · exact goOn_paints (runMix_paints _ _)
  · exact .skip fun _ => .pure .same

theorem executeLine_paints : Paints world.grid (·.2.2.grid) (world.executeLine slot org) := by
  unfold executeLine
  split
  · exact .ok .same
  · exact .ok .same
  · exact .ok .same
  · exact runOpcode_paints _ _ _ _

/-- Induction on the lines left. -/
theorem executeLines_paints (lines : Nat) :
    Paints world.grid (·.2.2.grid) (executeLines slot lines org world) := by
  induction lines generalizing org world with
  | zero => exact .ok .same
  | succ lines ih =>
    apply Paints.bind (executeLine_paints world slot org)
    rintro ⟨flow, moved, executed⟩
    cases flow with
    | next => exact ih executed moved
    | stop | die => exact .pure .same

theorem settle_paints (fate : Fate) :
    Paints world.grid World.grid (world.settle slot org fate) := by
  cases fate with
  | alive => exact .ok .same
  | dead => exact (bury_paints world org).bind fun _ => .skip fun _ => .pure .same

theorem runOrganism_paints (lines : Nat) :
    Paints world.grid (·.2.grid) (world.runOrganism slot lines) := by
  unfold runOrganism
  split
  · exact .ok .same
  next org pool _ =>
    exact (executeLines_paints { world with pool } slot org lines).bind fun _ =>
      (settle_paints _ _ _ _).bind fun _ => .pure .same

/-! ### Iterations -/

theorem mutateByAge_paints : Paints world.grid (·.2.grid) (world.mutateByAge org) := by
  unfold mutateByAge
  split
  · exact .ok .same
  · apply Paints.skip
    intro phase
    split
    · exact .skip fun _ => .pure .same
    · exact .pure .same

theorem ageOrganism_paints : Paints world.grid (·.2.2.grid) (world.ageOrganism org) := by
  apply Paints.bind (mutateByAge_paints world org)
  rintro ⟨mutant, drawn⟩
  simp only
  split
  · exact .pure .same
  · split
    · apply Paints.bind (charge_paints drawn mutant 1)
      rintro ⟨paid, charged⟩
      simp only
      split
      · exact .skip fun _ => .pure .same
      · exact .pure .same
    · exact .skip fun _ => .pure .same

theorem ageSurvivor_paints (fate : Fate) :
    Paints world.grid (·.2.2.grid) (world.ageSurvivor org fate) := by
  cases fate with
  | alive => exact ageOrganism_paints _ _
  | dead => exact .ok .same

theorem replenish_paints : Paints world.grid World.grid world.replenish := by
  apply Paints.skip
  intro energy
  apply Paints.skip
  intro energy
  apply Paints.skip
  intro cap
  split
  · apply Paints.bind (onSurface_paints Prod.fst
      (fun surface state => surface.put_paints state.1 state.2) _ _ _)
    rintro ⟨put, surfaces, grid, source⟩
    cases put with
    | none => exact .error _
    | some _ => exact .pure .same
  · exact .pure .same

theorem tickSurfaces_paints : Paints world.grid World.grid world.tickSurfaces :=
  (onSurfaces_paints Prod.fst
    (fun surface state => surface.tick_paints state.1 state.2) _ _).bind fun _ => .pure .same

theorem visit_paints : Paints world.grid World.grid (world.visit slot) := by
  unfold visit
  split
  · exact .ok .same
  next org pool _ =>
    apply Paints.bind (executeLines_paints { world with pool } slot org _)
    rintro ⟨fate, moved, executed⟩
    apply Paints.bind (ageSurvivor_paints executed moved fate)
    rintro ⟨fate, aged, older⟩
    apply Paints.bind (settle_paints older slot aged fate)
    intro settled
    apply Paints.skip
    intro linesGranted
    exact (replenish_paints { settled with linesGranted }).bind fun _ => tickSurfaces_paints _

theorem visitFrom_paints (remaining : Nat) :
    Paints world.grid World.grid (visitFrom remaining slot world) := by
  induction remaining generalizing slot world with
  | zero => exact .ok .same
  | succ remaining ih => exact (visit_paints world slot).bind fun _ => ih _ _

/-! ### Seeding -/

theorem randomCode_paints : Paints world.grid (·.2.grid) world.randomCode :=
  .skip fun _ => .pure .same

theorem seedMany_paints (wanted placed : Nat) :
    Paints world.grid (·.2.grid) (seedMany wanted placed world) := by
  induction wanted generalizing placed world with
  | zero => exact .ok .same
  | succ wanted ih =>
    apply Paints.skip
    intro headroom
    simp only
    split
    · exact .pure .same
    · apply Paints.skip
      rintro ⟨found, source⟩
      cases found with
      | none => exact ih { world with source } placed
      | some offset =>
        apply Paints.bind (randomCode_paints { world with source })
        rintro ⟨code, coded⟩
        exact (spawnOrganism_paints coded offset code _).bind fun _ => ih _ _

theorem seedPopulation_paints : Paints world.grid (·.2.grid) world.seedPopulation :=
  (seedMany_paints world _ 0).bind fun _ => .skip fun _ => .pure .same

/-! ### Cataclysms -/

theorem replace_paints (victim : Organism) :
    Paints world.grid (·.2.grid) (world.replace slot victim) := by
  apply Paints.skip
  intro headroom
  apply Paints.skip
  intro available
  apply Paints.skip
  rintro ⟨found, source⟩
  simp only
  split
  · exact .pure .same
  next offset =>
    split
    · exact .pure .same
    · apply Paints.bind (kill_paints { world with source } slot)
      rintro ⟨killed, left⟩
      apply Paints.bind (randomCode_paints left)
      rintro ⟨code, coded⟩
      exact (spawnOrganism_paints coded offset code _).bind fun _ => .pure .same

theorem cullFrom_paints (remaining bound replaced : Nat) :
    Paints world.grid (·.2.grid) (cullFrom remaining slot bound replaced world) := by
  induction remaining generalizing slot bound replaced world with
  | zero => exact .ok .same
  | succ remaining ih =>
    unfold cullFrom
    split
    · split
      · exact .skip fun _ => ih _ _ _ _
      · exact (replace_paints world slot _).bind fun _ => ih _ _ _ _
    · exact .ok .same

theorem conclude_paints : Paints world.grid (·.2.grid) world.conclude := by
  simp only [conclude]
  split
  · exact (cullFrom_paints { world with probe := world.probe.refresh } 0 _ _ 0).bind
      fun _ => .pure .same
  · exact .pure .same

theorem compareTwo_paints : Paints world.grid (·.2.grid) world.compareTwo := by
  apply Paints.skip
  rintro ⟨first, source⟩
  apply Paints.skip
  rintro ⟨second, source⟩
  simp only
  split
  · exact .skip fun _ => .pure .same
  · exact .pure .same

theorem updateCataclysm_paints : Paints world.grid (·.2.grid) world.updateCataclysm := by
  apply Paints.bind (compareTwo_paints world)
  rintro ⟨compared, sampled⟩
  simp only
  split
  · exact .pure .same
  · exact (conclude_paints sampled).bind fun _ => .pure .same

/-! ### Steps and runs -/

theorem step_paints : Paints world.grid (·.2.grid) world.step := by
  apply Paints.bind (visitFrom_paints { world with births := 0, deaths := 0 } 0 _)
  intro visited
  apply Paints.skip
  intro phase
  simp only
  split
  · exact (updateCataclysm_paints visited).bind fun _ => .skip fun _ => .pure .same
  · have idle : Paints visited.grid (·.2.grid) (pure ((none : Option Nat), visited)) :=
      .pure .same
    exact idle.bind fun _ => .skip fun _ => .pure .same

theorem iterate_paints (iterations lines : Nat) :
    Paints world.grid (·.2.grid) (iterate iterations lines world) := by
  induction iterations generalizing lines world with
  | zero => exact .ok .same
  | succ iterations ih =>
    apply Paints.bind (step_paints world)
    rintro ⟨report, stepped⟩
    exact .skip fun _ => .skip fun _ => ih stepped _

theorem revive_paints : Paints world.grid World.grid world.revive := by
  unfold revive
  split
  · exact (seedPopulation_paints world).bind fun _ => .pure .same
  · exact .ok .same

omit [DrawSource ρ] in
theorem grid_remember (summary : RunSummary) : (world.remember summary).grid = world.grid := by
  unfold remember
  split
  · rfl
  · split
    · rfl
    · rfl

theorem run_paints : Paints world.grid (·.2.grid) world.run := by
  apply Paints.bind (iterate_paints world _ 0)
  rintro ⟨lines, iterated⟩
  apply Paints.bind (revive_paints iterated)
  intro revived
  apply Paints.pure
  simp only [grid_remember]
  exact .same

end World

end Vivarium
