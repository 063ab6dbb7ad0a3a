import Vivarium.Proofs.Scene.Execution

/-!
# Moves of a world at rest

Between two operations nobody executes, no slot is lent, and everybody has
energy. Each operation leads from such a world to such a world by moves; those
that bring energy in compare it with the headroom before, so they are admitted
wherever what stays below the cap is.
-/
namespace Vivarium.World

variable {ρ : Type} (admits : Scene → Int → Prop)

/-- Nobody executes, and everybody has energy. -/
structure Resting (world : World ρ) : Prop where
  lent : world.pool.LentOnly none
  accepted : world.config.Accepted
  furnished : world.scene.Furnished
  thriving : world.scene.Thriving

/-- From one world at rest to a later one. -/
structure Leads (world next : World ρ) : Prop where
  moves : Scene.Moves admits world.scene next.scene
  lent : next.pool.LentOnly none

variable {admits}

theorem Leads.trans {world next last : World ρ} (first : Leads admits world next)
    (rest : Leads admits next last) : Leads admits world last :=
  ⟨first.moves.trans rest.moves, rest.lent⟩

theorem Resting.after {world next : World ρ} (resting : Resting world)
    (leads : Leads admits world next) : Resting next where
  lent := leads.lent
  accepted := by
    have same : next.config = world.config := leads.moves.config
    exact same ▸ resting.accepted
  furnished := leads.moves.preserve _ (fun move => move.furnished) resting.furnished
  thriving := leads.moves.preserve _ (fun move => move.thriving) resting.thriving

/-- What the scene does not show may change. -/
theorem Resting.unseen {world next : World ρ} (resting : Resting world)
    (shown : next.scene = world.scene) (pool : next.pool = world.pool) :
    Leads admits world next := by
  refine ⟨?_, pool ▸ resting.lent⟩
  rw [shown]
  exact Scene.Moves.refl

theorem Resting.still {world : World ρ} (resting : Resting world) : Leads admits world world :=
  resting.unseen rfl rfl

theorem Resting.of_move {world next : World ρ} {scene : Scene} (resting : Resting world)
    (move : Scene.Move admits world.scene scene) (shown : scene = next.scene)
    (pool : next.pool = world.pool) : Leads admits world next := by
  subst shown
  exact ⟨move.single, pool ▸ resting.lent⟩

/-! ### Headroom -/

theorem affords_of_headroom {world : World ρ} {headroom amount : Int}
    (room : world.headroom = .ok headroom) (le : amount ≤ headroom) :
    world.scene.Affords amount := by
  obtain ⟨cap, capped, room⟩ := (bind_eq_ok_iff _ _ _).mp room
  obtain ⟨rest, first, room⟩ := (bind_eq_ok_iff _ _ _).mp room
  obtain ⟨rest', second, room⟩ := (bind_eq_ok_iff _ _ _).mp room
  rw [Amount.sub_eq_ok_iff] at first second room
  have tokens : world.scene.tokenEnergy = world.tokenEnergy := rfl
  have total : world.scene.totalEnergy = world.totalEnergy := rfl
  refine ⟨cap, capped, ?_⟩
  omega

theorem headroom_eq_ok {world : World ρ} {cap : Int} (capped : world.config.maxEnergy = .ok cap)
    (total : 0 ≤ world.totalEnergy) (tokens : 0 ≤ world.tokenEnergy)
    (least : minAmount ≤ cap - world.totalEnergy - world.tokenEnergy - 1) :
    world.headroom = .ok (cap - world.totalEnergy - world.tokenEnergy - 1) := by
  have most := Config.maxEnergy_le capped
  have inside : ∀ value, cap - world.totalEnergy - world.tokenEnergy - 1 ≤ value → value ≤ cap →
      isAmount value = true := by
    intro value large small
    rw [isAmount_iff]
    omega
  refine (bind_eq_ok_iff _ _ _).mpr ⟨cap, capped, ?_⟩
  refine (bind_eq_ok_iff _ _ _).mpr ⟨_, (Amount.sub_eq_ok_iff _ _ _).mpr ⟨inside _ ?_ ?_, rfl⟩, ?_⟩
  · omega
  · omega
  refine (bind_eq_ok_iff _ _ _).mpr ⟨_, (Amount.sub_eq_ok_iff _ _ _).mpr ⟨inside _ ?_ ?_, rfl⟩, ?_⟩
  · omega
  · omega
  exact (Amount.sub_eq_ok_iff _ _ _).mpr ⟨inside _ (Int.le_refl _) (by omega), rfl⟩

/-! ### Turns -/

/-- An organism that is lent executes. -/
theorem Resting.take {world : World ρ} {pool : Pool} {slot : Nat} {org : Organism}
    (resting : Resting world) (taken : world.pool.take slot = some (org, pool)) :
    Scene.Moves admits world.scene ({ world with pool }.during slot org.body) ∧
      Executing { world with pool } slot org.body := by
  obtain ⟨live, lent, map, capacity⟩ := Pool.take_eq_some resting.lent taken
  have resident := Pool.bodies_eq_some live
  -- Out of the pool it is still shown in its slot, so only the acting slot differs.
  have shown : { world.scene with acting := some slot } =
      { world with pool }.during slot org.body := by
    have bodies := Pool.bodies_update map
    simp only [scene, during, sceneWith, bodies, capacity, Function.update_idem]
    rw [← resident, Function.update_eq_self]
  have move : Scene.Move admits world.scene { world.scene with acting := some slot } :=
    .start slot org.body rfl resident
  rw [shown] at move
  have alive := resting.thriving slot org.body resident (by simp [scene, sceneWith])
  exact ⟨move.single, lent, resting.accepted, move.furnished resting.furnished,
    move.thriving resting.thriving, alive⟩

section Drawing

variable [DrawSource ρ]

/-- At the end of its turn an organism goes back to its slot, or it departs. -/
theorem settle_eq_ok {world next : World ρ} {slot : Nat} {org : Organism} {fate : Fate}
    (lent : world.pool.LentOnly (some slot)) (lives : fate = .alive → 0 < org.energy)
    (settled : world.settle slot org fate = .ok next) :
    Scene.Moves admits (world.during slot org.body) next.scene ∧ next.pool.LentOnly none := by
  cases fate with
  | alive =>
    cases settled
    obtain ⟨back, map, capacity⟩ := Pool.restore_of_lent lent org
    have move : Scene.Move admits (world.during slot org.body) _ :=
      .stop slot org.body rfl (world.resident_during slot org.body) (lives rfl)
    refine ⟨?_, back⟩
    have bodies := Pool.bodies_update map
    simp only [scene, sceneWith, bodies, capacity]
    exact move.single
  | dead =>
    -- The slot is given up only after the burial; the scene sees one departure.
    obtain ⟨buried, burying, settled⟩ := (bind_eq_ok_iff _ _ _).mp settled
    obtain ⟨pool, released, answer⟩ := (bind_eq_ok_iff _ _ _).mp settled
    cases answer
    obtain ⟨departure, samePool⟩ :=
      bury_eq_ok burying (Function.update world.pool.bodies slot (some org.body)) (some slot) slot
    rw [samePool] at released
    obtain ⟨freed, map, capacity⟩ := Pool.release_of_lent lent released
    have bodies := Pool.bodies_update map
    rw [if_pos rfl, Function.update_idem] at departure
    have move : Scene.Move admits (world.during slot org.body) _ :=
      .depart slot org.body _ (world.resident_during slot org.body) departure
    refine ⟨?_, freed⟩
    simp only [scene, sceneWith, bodies, capacity, Option.map_none]
    simpa only [sceneWith, samePool] using move.single

theorem runOrganism_leads {world next : World ρ} {slot lines : Nat} {fate : Option Fate}
    (resting : Resting world) (ran : world.runOrganism slot lines = .ok (fate, next)) :
    Leads admits world next := by
  rcases runOrganism_cases ran with
    ⟨-, -, rfl⟩ | ⟨org, pool, fate, after, executed, taken, execution, settling, -⟩
  · exact resting.still
  · obtain ⟨started, executing⟩ : Scene.Moves admits world.scene _ ∧ _ := resting.take taken
    obtain ⟨slice, lives⟩ := executeLines_reaches executing execution
    obtain ⟨ended, lent⟩ := settle_eq_ok slice.lent lives settling
    exact ⟨started.trans (slice.moves.trans ended), lent⟩

/-! ### Growing old -/

theorem mutateByAge_eq_ok {world next : World ρ} {org after : Organism}
    (mutated : world.mutateByAge org = .ok (after, next)) :
    after.body = org.body ∧ ∃ source, next = { world with source } := by
  obtain ⟨rfl, rfl⟩ | ⟨events, source, applied, rfl⟩ := mutateByAge_cases mutated
  · exact ⟨rfl, next.source, rfl⟩
  · exact ⟨Organism.body_mutate applied, source, rfl⟩

theorem body_growOlder {org after : Organism} (grown : growOlder org = .ok after) :
    after.body = org.body := by
  obtain ⟨age, -, answer⟩ := (bind_eq_ok_iff _ _ _).mp grown
  rw [pure_eq_ok_iff] at answer
  subst answer
  rfl

theorem ageOrganism_reaches {slot : Nat} {world next : World ρ} {org after : Organism}
    {fate : Fate} (executing : Executing world slot org.body)
    (aged : world.ageOrganism org = .ok (fate, after, next)) :
    Reaches admits slot world org.body next after.body ∧ (fate = .alive → 0 < after.energy) := by
  obtain ⟨⟨mutant, world'⟩, mutated, aged⟩ := (bind_eq_ok_iff _ _ _).mp aged
  obtain ⟨kept, source, rfl⟩ := mutateByAge_eq_ok mutated
  have drawn : Reaches admits slot world org.body { world with source } mutant.body :=
    executing.drawn source kept
  have alive : 0 < mutant.energy := by
    have same : mutant.energy = org.energy := congrArg Body.energy kept
    exact same ▸ executing.alive
  simp only at aged
  split at aged
  -- It dies of old age, with what energy it has.
  next =>
    cases aged
    exact ⟨drawn, fun lives => nomatch lives⟩
  next =>
    split at aged
    -- It loses energy at this age, and may die of that.
    next =>
      obtain ⟨⟨paid, world''⟩, charged, aged⟩ := (bind_eq_ok_iff _ _ _).mp aged
      have spent : Reaches admits slot { world with source } mutant.body world'' paid.body :=
        charge_reaches charged executing.lent (.inr (.inl rfl))
      split at aged
      next lives =>
        obtain ⟨grown, growing, answer⟩ := (bind_eq_ok_iff _ _ _).mp aged
        cases answer
        have same := body_growOlder growing
        have energy : after.energy = paid.energy := congrArg Body.energy same
        refine ⟨same ▸ drawn.trans spent, fun _ => ?_⟩
        simpa [energy, Organism.isAlive] using lives
      next =>
        cases aged
        exact ⟨drawn.trans spent, fun lives => nomatch lives⟩
    next =>
      obtain ⟨grown, growing, answer⟩ := (bind_eq_ok_iff _ _ _).mp aged
      cases answer
      have same := body_growOlder growing
      have energy : after.energy = mutant.energy := congrArg Body.energy same
      exact ⟨same ▸ drawn, fun _ => energy ▸ alive⟩

/-- A slice and the year after it are one turn outside of the pool. -/
theorem ageSurvivor_reaches {slot : Nat} {world sliced next : World ρ} {org moved after : Organism}
    {fate fate' : Fate} (executing : Executing world slot org.body)
    (slice : Reaches admits slot world org.body sliced moved.body)
    (lives : fate = .alive → 0 < moved.energy)
    (year : sliced.ageSurvivor moved fate = .ok (fate', after, next)) :
    Reaches admits slot world org.body next after.body ∧ (fate' = .alive → 0 < after.energy) := by
  cases fate with
  | alive =>
    obtain ⟨aging, survives⟩ := ageOrganism_reaches (executing.after slice (lives rfl)) year
    exact ⟨slice.trans aging, survives⟩
  | dead =>
    cases year
    exact ⟨slice, fun alive => nomatch alive⟩

/-! ### Surfaces -/

theorem furnish_same {scene : Scene} {kind : Nat} {surface : Surface}
    (own : scene.surfaces[kind]? = some surface) :
    scene.furnish kind surface scene.grid = scene := by
  rw [Scene.furnish, set_getElem?_self own]

theorem furnish_furnish (scene : Scene) (kind : Nat) (first second : Surface)
    (grid after : Grid) :
    (scene.furnish kind first grid).furnish kind second after =
      scene.furnish kind second after := by
  simp only [Scene.furnish, List.set_set]

theorem put_moves {scene : Scene} {kind : Nat} {surface next : Surface} {after : Grid}
    {source rest : ρ} {landed : Option Nat}
    (done : surface.put scene.grid source = .ok (landed, next, after, rest))
    (own : scene.surfaces[kind]? = some surface) (idle : scene.acting = none)
    (admitted : kind = energyKind → admits scene scene.config.energyValue) :
    Scene.Moves admits scene (scene.furnish kind next after) := by
  cases landed with
  | none =>
    obtain ⟨rfl, rfl⟩ := Surface.put_eq_none done
    rw [furnish_same own]
    exact Scene.Moves.refl
  | some offset =>
    obtain ⟨room, free, rfl, rfl⟩ := Surface.put_eq_some done
    exact (Scene.Move.drop offset kind 1 surface idle own room free (by decide) (by decide)
      (by simpa using admitted)).single

theorem move_moves {scene : Scene} {kind : Nat} {surface next : Surface} {after : Grid}
    {source rest : ρ} {moved : Bool}
    (done : surface.move scene.grid source = .ok (moved, next, after, rest))
    (own : scene.surfaces[kind]? = some surface) (idle : scene.acting = none) :
    Scene.Moves admits scene (scene.furnish kind next after) := by
  have changed := Surface.move_eq_ok done
  cases moved with
  | false =>
    obtain ⟨rfl, rfl⟩ := changed
    rw [furnish_same own]
    exact Scene.Moves.refl
  | true =>
    obtain ⟨origin, target, token, found, tokens, lying, isOwn, free, erased, rfl, rfl⟩ := changed
    exact (Scene.Move.shift kind surface origin target token found tokens idle own lying isOwn free
      erased).single

theorem tick_moves {scene : Scene} {kind : Nat} {surface next : Surface} {after : Grid}
    {source rest : ρ} {moved : Bool}
    (done : surface.tick scene.grid source = .ok (moved, next, after, rest))
    (own : scene.surfaces[kind]? = some surface) (idle : scene.acting = none) :
    Scene.Moves admits scene (scene.furnish kind next after) := by
  rcases Surface.tick_eq_ok done with ⟨rfl, rfl⟩ | ⟨went, moving⟩
  · exact (Scene.Move.wait kind surface (surface.waited + 1) own).single
  -- The delay is over: the count starts again before the token moves.
  · have waited : Scene.Moves admits scene
        (scene.furnish kind { surface with waited := 0 } scene.grid) :=
      (Scene.Move.wait kind surface 0 own).single
    have inside := (List.getElem?_eq_some_iff.mp own).1
    have shifted : Scene.Moves admits
        (scene.furnish kind { surface with waited := 0 } scene.grid) _ :=
      move_moves moving (List.getElem?_set_self inside) idle
    rw [furnish_furnish] at shifted
    exact waited.trans shifted

/-- What an operation on one surface preserves, any number of surfaces preserve, one
after the other. -/
theorem onSurfaces_preserve {σ α : Type} {operation : Surface → σ → Outcome (α × Surface × σ)}
    (holds : List Surface → σ → Prop)
    (step : ∀ {surfaces state kind surface value changed next}, holds surfaces state →
      surfaces[kind]? = some surface → operation surface state = .ok (value, changed, next) →
      holds (surfaces.set kind changed) next)
    {rest after : List Surface} {state next : σ}
    (all : onSurfaces operation rest state = .ok (after, next)) (done : List Surface)
    (start : holds (done ++ rest) state) : holds (done ++ after) next := by
  -- The surfaces that are done stand before the others, so places in the list stay.
  induction rest generalizing done after state with
  | nil =>
    cases all
    exact start
  | cons surface rest ih =>
    obtain ⟨⟨value, changed, state'⟩, operated, all⟩ := (bind_eq_ok_iff _ _ _).mp all
    obtain ⟨⟨others, last⟩, remaining, answer⟩ := (bind_eq_ok_iff _ _ _).mp all
    cases answer
    have own : (done ++ surface :: rest)[done.length]? = some surface := by simp
    have one := step start own operated
    rw [List.set_append_right _ _ (Nat.le_refl _), Nat.sub_self, List.set_cons_zero] at one
    have next := ih remaining (done ++ [changed]) (by simpa using one)
    simpa using next

theorem tickSurfaces_leads {world next : World ρ} (resting : Resting world)
    (ticked : world.tickSurfaces = .ok next) : Leads admits world next := by
  obtain ⟨⟨surfaces, grid, source⟩, all, answer⟩ := (bind_eq_ok_iff _ _ _).mp ticked
  cases answer
  refine onSurfaces_preserve (fun surfaces state =>
    Leads admits world { world with surfaces, grid := state.1, source := state.2 }) ?_ all []
    resting.still
  intro surfaces state kind surface value changed next leads own operated
  obtain ⟨grid, source⟩ := next
  have moves : Scene.Moves admits
      ({ world with surfaces, grid := state.1, source := state.2 } : World ρ).scene _ :=
    tick_moves operated own rfl
  exact ⟨leads.moves.trans moves, leads.lent⟩

/-! ### Turns of a slot -/

theorem replenish_leads {world next : World ρ} (resting : Resting world)
    (lenient : Scene.Lenient admits)
    (replenished : world.replenish = .ok next) : Leads admits world next := by
  obtain rfl | ⟨cap, surface, landed, changed, grid, source, capped, below, own, did, rfl⟩ :=
    replenish_cases replenished
  · exact resting.still
  · have affords : world.scene.Affords world.config.energyValue := ⟨cap, capped, below⟩
    have moves : Scene.Moves admits world.scene _ :=
      put_moves did own rfl fun _ => lenient _ _ affords
    exact ⟨moves, resting.lent⟩

theorem visit_leads {world next : World ρ} {slot : Nat} (resting : Resting world)
    (lenient : Scene.Lenient admits)
    (visited : world.visit slot = .ok next) : Leads admits world next := by
  rcases visit_cases visited with ⟨-, rfl⟩ | ⟨org, -, turn⟩
  · exact resting.still
  · obtain ⟨settled, linesGranted, taken, slice, year, settling, -, dropping, ticking⟩ := turn
    obtain ⟨started, executing⟩ : Scene.Moves admits world.scene _ ∧ _ := resting.take taken
    obtain ⟨executed, lives⟩ := executeLines_reaches executing slice
    obtain ⟨reached, survives⟩ := ageSurvivor_reaches executing executed lives year
    obtain ⟨ended, lent⟩ := settle_eq_ok reached.lent survives settling
    have played : Leads admits world { settled with linesGranted } :=
      ⟨started.trans (reached.moves.trans ended), lent⟩
    have dropped := played.trans (replenish_leads (resting.after played) lenient dropping)
    exact dropped.trans (tickSurfaces_leads (resting.after dropped) ticking)

theorem visitFrom_leads {remaining slot : Nat} {world next : World ρ} (resting : Resting world)
    (lenient : Scene.Lenient admits)
    (visited : visitFrom remaining slot world = .ok next) : Leads admits world next := by
  induction remaining generalizing slot world with
  | zero =>
    cases visited
    exact resting.still
  | succ remaining ih =>
    obtain ⟨after, first, rest⟩ := (bind_eq_ok_iff _ _ _).mp visited
    have turn : Leads admits world after := visit_leads resting lenient first
    exact turn.trans (ih (resting.after turn) rest)

/-! ### Births and deaths between turns -/

omit [DrawSource ρ] in
theorem spawnOrganism_leads {world next : World ρ} {offset : Nat} {code : Genome} {energy : Int}
    {slot : Option Nat} (resting : Resting world) (admitted : admits world.scene energy)
    (spawned : world.spawnOrganism offset code energy = .ok (slot, next)) :
    Leads admits world next := by
  rcases spawnOrganism_cases spawned with
    ⟨-, rfl, -⟩ | ⟨⟨fed, room, inside, vacant⟩, adopted⟩
  · exact resting.still
  · cases slot with
    | none =>
      -- Whether the pool is full was asked before.
      have full := adopt_eq_none adopted
      rw [room] at full
      cases full
    | some slot =>
      obtain ⟨lent, below, unused, -, shown, -⟩ := adopt_eq_some adopted resting.lent rfl
      refine ⟨?_, lent⟩
      rw [shown]
      exact (Scene.Move.spawn slot _ _ rfl
        ⟨⟨inside, vacant⟩, unused, below, fed, rfl, rfl⟩ rfl rfl admitted).single

omit [DrawSource ρ] in
theorem spawnToken_leads {world next : World ρ} {offset kind atoms : Nat} {added : Bool}
    (resting : Resting world) (light : atoms ≤ maxAtoms)
    (admitted : kind = energyKind →
      admits world.scene ((max atoms 1 : Nat) * world.config.energyValue))
    (spawned : world.spawnToken offset kind atoms = .ok (added, next)) :
    Leads admits world next := by
  obtain ⟨-, rfl⟩ | ⟨surface, changed, grid, -, own, inserted, rfl⟩ := spawnToken_cases spawned
  · exact resting.still
  · obtain ⟨room, free, rfl, rfl⟩ := Surface.insert_eq_ok inserted
    refine resting.of_move (.drop offset kind (max atoms 1) surface rfl own room free
      (Nat.le_max_right _ _) ?_ admitted) rfl rfl
    exact Nat.max_le.mpr ⟨light, by decide⟩

theorem kill_leads {world next : World ρ} {slot : Nat} {done : Bool} (resting : Resting world)
    (killed : world.kill slot = .ok (done, next)) : Leads admits world next := by
  rcases kill_eq_ok resting.lent killed with ⟨-, rfl⟩ | ⟨org, live, lent, departure, -⟩
  · exact resting.still
  · exact ⟨(Scene.Move.depart slot org.body _ (Pool.bodies_eq_some live) departure).single, lent⟩

/-- An organism with energy there is room for is admitted. -/
theorem seedMany_leads {wanted placed total : Nat} {world next : World ρ}
    (resting : Resting world)
    (lenient : Scene.Lenient admits)
    (seeded : seedMany wanted placed world = .ok (total, next)) : Leads admits world next := by
  induction wanted generalizing placed world with
  | zero =>
    cases seeded
    exact resting.still
  | succ wanted ih =>
    obtain ⟨headroom, room, seeded⟩ := (bind_eq_ok_iff _ _ _).mp seeded
    simp only at seeded
    split at seeded
    next =>
      cases seeded
      exact resting.still
    next =>
      obtain ⟨⟨found, source⟩, drawn, seeded⟩ := (bind_eq_ok_iff _ _ _).mp seeded
      have unseen : ∀ source, Leads admits world { world with source } := fun source =>
        resting.unseen rfl rfl
      simp only at seeded
      split at seeded
      -- No cell was found; the next one is tried all the same.
      next => exact (unseen source).trans (ih (resting.after (unseen source)) seeded)
      next offset =>
        obtain ⟨⟨code, coded⟩, coding, seeded⟩ := (bind_eq_ok_iff _ _ _).mp seeded
        obtain ⟨source, rfl⟩ := randomCode_eq_ok coding
        obtain ⟨⟨slot, spawned⟩, spawning, seeded⟩ := (bind_eq_ok_iff _ _ _).mp seeded
        have affords : admits world.scene (min world.config.orgEnergy headroom) :=
          lenient _ _ (affords_of_headroom room (Int.min_le_right _ _))
        have born : Leads admits { world with source } spawned :=
          spawnOrganism_leads (resting.after (unseen source)) affords spawning
        have grown := (unseen source).trans born
        exact grown.trans (ih (resting.after grown) seeded)

theorem seedPopulation_leads {world next : World ρ} {placed : Nat} (resting : Resting world)
    (lenient : Scene.Lenient admits)
    (seeded : world.seedPopulation = .ok (placed, next)) : Leads admits world next := by
  obtain ⟨⟨total, populated⟩, seeding, seeded⟩ := (bind_eq_ok_iff _ _ _).mp seeded
  obtain ⟨generation, -, answer⟩ := (bind_eq_ok_iff _ _ _).mp seeded
  cases answer
  have grown : Leads admits world populated := seedMany_leads resting lenient seeding
  exact ⟨grown.moves, grown.lent⟩

/-! ### Cataclysms -/

/-- Who departs leaves the room for its energy. -/
theorem affords_of_departure {scene next : Scene} {slot : Nat} {body : Body} {amount : Int}
    (departure : Scene.Departure scene slot body next) (value : 0 ≤ scene.config.energyValue)
    (affords : scene.Affords (amount - body.energy)) : next.Affords amount := by
  obtain ⟨cap, capped, below⟩ := affords
  have total := departure.totalEnergy
  have tokens := Scene.tokenEnergy_mono departure.config departure.atoms_le value
  refine ⟨cap, departure.config ▸ capped, ?_⟩
  omega

/-- The headroom is asked for before the victim dies. Its death frees its energy, and the
energy of its packet if that finds no cell. -/
theorem affords_of_kill {world left : World ρ} {slot : Nat} {victim : Organism} {killed : Bool}
    {amount : Int} (lent : world.pool.LentOnly none) (live : world.pool.get? slot = some victim)
    (killing : world.kill slot = .ok (killed, left)) (value : 0 ≤ world.config.energyValue)
    (affords : world.scene.Affords (amount - victim.energy)) : left.scene.Affords amount := by
  rcases kill_eq_ok lent killing with ⟨vacant, -⟩ | ⟨org, held, -, departure, -⟩
  · cases live.symm.trans vacant
  · cases live.symm.trans held
    exact affords_of_departure departure value affords

theorem replace_leads {world next : World ρ} {slot : Nat} {victim : Organism} {fresh : Bool}
    (resting : Resting world) (live : world.pool.get? slot = some victim)
    (lenient : Scene.Lenient admits)
    (replaced : world.replace slot victim = .ok (fresh, next)) : Leads admits world next := by
  obtain ⟨headroom, room, replaced⟩ := (bind_eq_ok_iff _ _ _).mp replaced
  obtain ⟨available, sum, replaced⟩ := (bind_eq_ok_iff _ _ _).mp replaced
  obtain ⟨⟨found, source⟩, drawn, replaced⟩ := (bind_eq_ok_iff _ _ _).mp replaced
  rw [Amount.add_eq_ok_iff] at sum
  have unseen : Leads admits world { world with source } := resting.unseen rfl rfl
  simp only at replaced
  split at replaced
  next =>
    cases replaced
    exact unseen
  next offset =>
    split at replaced
    next =>
      cases replaced
      exact unseen
    next =>
      obtain ⟨⟨killed, left⟩, killing, replaced⟩ := (bind_eq_ok_iff _ _ _).mp replaced
      obtain ⟨⟨code, coded⟩, coding, replaced⟩ := (bind_eq_ok_iff _ _ _).mp replaced
      obtain ⟨⟨successor, spawned⟩, spawning, replaced⟩ := (bind_eq_ok_iff _ _ _).mp replaced
      cases replaced
      have died : Leads admits { world with source } left :=
        kill_leads (resting.after unseen) killing
      have gone := unseen.trans died
      have value := Int.le_of_lt resting.accepted.energyValue
      have affords : left.scene.Affords (min world.config.orgEnergy available) :=
        affords_of_kill (resting.after unseen).lent live killing value
          (affords_of_headroom room (by omega))
      obtain ⟨source', rfl⟩ := randomCode_eq_ok coding
      have drawnCode : Leads admits left { left with source := source' } :=
        (resting.after gone).unseen rfl rfl
      have ready := gone.trans drawnCode
      exact ready.trans (spawnOrganism_leads (resting.after ready) (lenient _ _ affords) spawning)

theorem cullFrom_leads {remaining slot bound replaced total : Nat} {world next : World ρ}
    (resting : Resting world)
    (lenient : Scene.Lenient admits)
    (culled : cullFrom remaining slot bound replaced world = .ok (total, next)) :
    Leads admits world next := by
  induction remaining generalizing slot bound replaced world with
  | zero =>
    cases culled
    exact resting.still
  | succ remaining ih =>
    unfold cullFrom at culled
    split at culled
    next =>
      split at culled
      -- An empty slot raises the bound.
      next =>
        obtain ⟨raised, -, culled⟩ := (bind_eq_ok_iff _ _ _).mp culled
        exact ih resting culled
      next victim live =>
        obtain ⟨⟨fresh, after⟩, replacing, culled⟩ := (bind_eq_ok_iff _ _ _).mp culled
        have first : Leads admits world after := replace_leads resting live lenient replacing
        exact first.trans (ih (resting.after first) culled)
    next =>
      cases culled
      exact resting.still

theorem compareTwo_leads {world next : World ρ} {compared : Bool} (resting : Resting world)
    (done : world.compareTwo = .ok (compared, next)) : Leads admits world next := by
  obtain ⟨⟨first, source⟩, -, done⟩ := (bind_eq_ok_iff _ _ _).mp done
  obtain ⟨⟨second, source'⟩, -, done⟩ := (bind_eq_ok_iff _ _ _).mp done
  simp only at done
  split at done
  next =>
    obtain ⟨probe, -, answer⟩ := (bind_eq_ok_iff _ _ _).mp done
    cases answer
    exact resting.unseen rfl rfl
  next =>
    cases done
    exact resting.unseen rfl rfl

theorem conclude_leads {world next : World ρ} {replaced : Nat} (resting : Resting world)
    (lenient : Scene.Lenient admits)
    (done : world.conclude = .ok (replaced, next)) : Leads admits world next := by
  have refreshed : Leads admits world { world with probe := world.probe.refresh } :=
    resting.unseen rfl rfl
  simp only [conclude] at done
  split at done
  -- The population is too uniform.
  next =>
    obtain ⟨⟨total, culled⟩, culling, answer⟩ := (bind_eq_ok_iff _ _ _).mp done
    cases answer
    have thinned := refreshed.trans (cullFrom_leads (resting.after refreshed) lenient culling)
    exact thinned.trans ((resting.after thinned).unseen rfl rfl)
  next =>
    cases done
    exact refreshed.trans ((resting.after refreshed).unseen rfl rfl)

theorem updateCataclysm_leads {world next : World ρ} {replaced : Option Nat}
    (resting : Resting world)
    (lenient : Scene.Lenient admits)
    (done : world.updateCataclysm = .ok (replaced, next)) : Leads admits world next := by
  obtain ⟨⟨compared, after⟩, comparing, done⟩ := (bind_eq_ok_iff _ _ _).mp done
  have sampled : Leads admits world after := compareTwo_leads resting comparing
  simp only at done
  split at done
  -- There are not enough samples yet.
  next =>
    cases done
    exact sampled
  next =>
    obtain ⟨⟨total, culled⟩, concluding, answer⟩ := (bind_eq_ok_iff _ _ _).mp done
    cases answer
    exact sampled.trans (conclude_leads (resting.after sampled) lenient concluding)

/-! ### Iterations and runs -/

theorem step_leads {world next : World ρ} {report : StepReport} (resting : Resting world)
    (lenient : Scene.Lenient admits)
    (stepped : world.step = .ok (report, next)) : Leads admits world next := by
  have opened : Leads admits world { world with births := 0, deaths := 0 } :=
    resting.of_move .opened rfl rfl
  obtain ⟨visited, turns, stepped⟩ := (bind_eq_ok_iff _ _ _).mp stepped
  obtain ⟨phase, -, stepped⟩ := (bind_eq_ok_iff _ _ _).mp stepped
  have played := opened.trans (visitFrom_leads (resting.after opened) lenient turns)
  -- With a cataclysm or without one, the iteration is closed in the same way.
  have closes : ∀ (last : World ρ) (iteration : Nat), Leads admits world last →
      Count.add limit64 last.iteration 1 = .ok iteration →
      Leads admits world { last with iteration } := fun last iteration leads counted => by
    rw [Count.add_eq_ok_iff] at counted
    rw [counted.2]
    exact leads.trans ((resting.after leads).of_move .closed rfl rfl)
  simp only at stepped
  split at stepped
  next =>
    obtain ⟨⟨replaced, last⟩, updating, stepped⟩ := (bind_eq_ok_iff _ _ _).mp stepped
    obtain ⟨iteration, counted, answer⟩ := (bind_eq_ok_iff _ _ _).mp stepped
    cases answer
    have updated := played.trans
      (updateCataclysm_leads (resting.after played) lenient updating)
    exact closes last iteration updated counted
  next =>
    obtain ⟨last, same, stepped⟩ := (bind_eq_ok_iff _ _ _).mp stepped
    cases same
    obtain ⟨iteration, counted, answer⟩ := (bind_eq_ok_iff _ _ _).mp stepped
    cases answer
    exact closes visited iteration played counted

theorem iterate_leads {iterations lines granted : Nat} {world next : World ρ}
    (resting : Resting world)
    (lenient : Scene.Lenient admits)
    (iterated : iterate iterations lines world = .ok (granted, next)) :
    Leads admits world next := by
  induction iterations generalizing lines world with
  | zero =>
    cases iterated
    exact resting.still
  | succ iterations ih =>
    obtain ⟨⟨report, after⟩, stepping, iterated⟩ := (bind_eq_ok_iff _ _ _).mp iterated
    obtain ⟨difference, -, iterated⟩ := (bind_eq_ok_iff _ _ _).mp iterated
    obtain ⟨sum, -, iterated⟩ := (bind_eq_ok_iff _ _ _).mp iterated
    have first : Leads admits world after := step_leads resting lenient stepping
    exact first.trans (ih (resting.after first) iterated)

theorem revive_leads {world next : World ρ} (resting : Resting world)
    (lenient : Scene.Lenient admits)
    (revived : world.revive = .ok next) : Leads admits world next := by
  unfold revive at revived
  split at revived
  next =>
    obtain ⟨⟨placed, populated⟩, seeding, answer⟩ := (bind_eq_ok_iff _ _ _).mp revived
    cases answer
    exact seedPopulation_leads resting lenient seeding
  next =>
    cases revived
    exact resting.still

omit [DrawSource ρ] in
theorem remember_eq (world : World ρ) (summary : RunSummary) :
    ∃ history, world.remember summary = { world with history } := by
  unfold remember
  split
  next => exact ⟨world.history, rfl⟩
  next =>
    split
    next => exact ⟨(world.history.extract 1).push summary, rfl⟩
    next => exact ⟨world.history.push summary, rfl⟩

theorem run_leads {world next : World ρ} {summary : RunSummary} (resting : Resting world)
    (lenient : Scene.Lenient admits)
    (ran : world.run = .ok (summary, next)) : Leads admits world next := by
  obtain ⟨⟨lines, iterated⟩, iterating, ran⟩ := (bind_eq_ok_iff _ _ _).mp ran
  obtain ⟨revived, reviving, answer⟩ := (bind_eq_ok_iff _ _ _).mp ran
  cases answer
  have lived : Leads admits world iterated := iterate_leads resting lenient iterating
  have seeded := lived.trans (revive_leads (resting.after lived) lenient reviving)
  obtain ⟨history, kept⟩ := remember_eq revived (revived.summarize lines)
  rw [kept]
  exact seeded.trans ((resting.after seeded).unseen rfl rfl)

end Drawing

end Vivarium.World
