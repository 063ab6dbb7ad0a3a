import Vivarium.Proofs.Exclusive
import Vivarium.Proofs.Residents
import Vivarium.Proofs.Terrain.Conservation

/-!
# Refused instructions

An instruction that cannot do what it is for costs its line and nothing more: the world is
what it was, and so is the body of the organism. A step is refused after the terrain has been
left with, so it costs what the terrain does and a draw or two, if there is radiation.

## Main result

`executeLine_refused`: in every world that its owner can have, at every line of every slice.

## Proof strategy

Two refusals rest on an invariant. A clone is charged and drawn for before it is taken in, so
the pool must not refuse it then; and nobody steps onto its own cell, since that shows its
slot. Both hold between turns (`Attended`) and hence at each line (`Passes.executing`).
-/
namespace Vivarium

namespace World

variable {ρ : Type} [DrawSource ρ]

/-! ### Worlds between turns -/

/-- A world between two turns of its organisms: created with an accepted configuration, then
called, observed, and changed in its organisms as long as they live and stay where they are. An
iteration opens by forgetting the births and deaths of the last one, and visits slots. -/
inductive Attended (config : Config) : World ρ → Prop where
  | created (source : ρ) (recording : Bool) (start : World ρ)
      (created : create config source recording = .ok (.ok start)) : Attended config start
  | called (world next : World ρ) (call : Call) (before : Attended config world)
      (performed : world.perform call = .ok next) : Attended config next
  | watched (world : World ρ) (before : Attended config world) : Attended config world.watch
  | recorded (world : World ρ) (before : Attended config world) : Attended config world.record
  | viewed (world : World ρ) (before : Attended config world) : Attended config world.drainView.2
  | traced (world : World ρ) (before : Attended config world) :
      Attended config world.drainLineage.2
  | edited (world : World ρ) (slot : Nat) (org after : Organism) (before : Attended config world)
      (live : world.pool.get? slot = some org) (stays : after.offset = org.offset)
      (lives : 0 < after.energy) (grounded : after.beneath.isOrganism = false) :
      Attended config { world with pool := world.pool.update slot after }
  | opened (world : World ρ) (before : Attended config world) :
      Attended config { world with births := 0, deaths := 0 }
  | visited (world next : World ρ) (slot : Nat) (before : Attended config world)
      (visited : world.visit slot = .ok next) : Attended config next

/-- Nobody executes, and cells and organisms refer to each other. -/
structure Orderly (world : World ρ) : Prop where
  resting : Resting world
  exclusive : Exclusive world.grid world.pool.bodies

namespace Orderly

variable {world next : World ρ}

omit [DrawSource ρ] in
theorem of_leads (orderly : Orderly world) (leads : Leads Scene.Unbounded world next) :
    Orderly next where
  resting := orderly.resting.after leads
  exclusive := leads.moves.exclusive orderly.exclusive

omit [DrawSource ρ] in
/-- Numbers that are forgotten, and what a view or a caller has been told, do not matter. -/
theorem retold (orderly : Orderly world) (events : Option (List ViewEvent))
    (lineage : Option (List BirthRecord)) (births deaths : Nat) :
    Orderly { world with grid := { world.grid with events }, lineage, births, deaths } where
  resting :=
    { lent := orderly.resting.lent
      accepted := orderly.resting.accepted
      furnished := ⟨orderly.resting.furnished.length, orderly.resting.furnished.own⟩
      thriving := orderly.resting.thriving }
  exclusive := ⟨orderly.exclusive.shown, orderly.exclusive.beneath⟩

omit [DrawSource ρ] in
theorem edit (orderly : Orderly world) {slot : Nat} {org after : Organism}
    (live : world.pool.get? slot = some org) (stays : after.offset = org.offset)
    (lives : 0 < after.energy) (grounded : after.beneath.isOrganism = false) :
    Orderly { world with pool := world.pool.update slot after } := by
  obtain ⟨lent, map, capacity⟩ := Pool.update_of_get? orderly.resting.lent live after
  have bodies : (world.pool.update slot after).bodies =
      Function.update world.pool.bodies slot (some after.body) := Pool.bodies_update map
  constructor
  · refine ⟨lent, orderly.resting.accepted,
      ⟨orderly.resting.furnished.length, orderly.resting.furnished.own⟩, ?_⟩
    intro other body resident idle
    simp only [scene, sceneWith, bodies, Function.update_apply] at resident
    split at resident
    next =>
      cases resident
      exact lives
    next => exact orderly.resting.thriving other body resident idle
  · simp only [bodies]
    exact orderly.exclusive.remain (Pool.bodies_eq_some live) after.body stays grounded

end Orderly

variable {config : Config} {world : World ρ}

theorem Attended.orderly (attended : world.Attended config) : Orderly world := by
  -- What is observed or forgotten is not what the invariant is about.
  induction attended with
  | created source recording start created =>
    have performed : performAll [] start = .ok start := rfl
    obtain ⟨resting, blank, empty, moves⟩ := reached_of_performAll created performed
    exact ⟨resting, moves.exclusive (.of_blank empty.cells empty.nobody)⟩
  | called world next call before performed orderly =>
    exact orderly.of_leads
      (perform_leads orderly.resting (fun _ _ _ => trivial) (fun _ _ _ => trivial) performed)
  | watched world before orderly => exact orderly.retold _ _ _ _
  | recorded world before orderly => exact orderly.retold _ _ _ _
  | viewed world before orderly =>
    simp only [drainView, Grid.drain]
    split
    next => exact orderly
    next => exact orderly.retold _ _ _ _
  | traced world before orderly =>
    unfold drainLineage
    split
    next => exact orderly
    next => exact orderly.retold _ _ _ _
  | edited world slot org after before live stays lives grounded orderly =>
    exact orderly.edit live stays lives grounded
  | opened world before orderly => exact orderly.retold _ _ _ _
  | visited world next slot before visited orderly =>
    exact orderly.of_leads (visit_leads orderly.resting (fun _ _ _ => trivial) visited)

/-! ### Lines of a slice -/

/-- The organism of a slot executes, and cells and organisms refer to each other. -/
structure Poised (world : World ρ) (slot : Nat) (org : Organism) : Prop where
  executing : Executing world slot org.body
  exclusive : Exclusive world.grid (world.during slot org.body).residents

namespace Poised

variable {next : World ρ} {org after : Organism} {slot : Nat}

omit [DrawSource ρ] in
theorem of_take {pool : Pool} (orderly : Orderly world)
    (taken : world.pool.take slot = some (org, pool)) :
    Poised { world with pool } slot org := by
  obtain ⟨moves, executing⟩ : Scene.Moves Scene.Unbounded world.scene _ ∧ _ :=
    orderly.resting.take taken
  exact ⟨executing, moves.exclusive orderly.exclusive⟩

theorem line (poised : Poised world slot org)
    (executed : world.executeLine slot org = .ok (.next, after, next)) :
    Poised next slot after := by
  have turn : Turn Scene.Unbounded slot world org.body .next next after.body :=
    executeLine_turn poised.executing executed
  exact ⟨poised.executing.after turn.toReaches (turn.lives (by decide)),
    turn.moves.exclusive poised.exclusive⟩

theorem of_passes {lines : Nat} (passes : Passes slot lines world org next after)
    (poised : Poised world slot org) : Poised next slot after := by
  induction passes with
  | refl => exact poised
  | line executed rest ih => exact ih (poised.line executed)

omit [DrawSource ρ] in
/-- The cell of an organism shows its slot, also while it executes. -/
theorem home (poised : Poised world slot org) : world.grid.get org.offset = .organism slot :=
  poised.exclusive.home (world.resident_during slot org.body)

end Poised

/-! ### Carried tokens -/

variable {next : World ρ} {org after : Organism} {slot : Nat} {flow : Flow}

omit [DrawSource ρ] in
/-- Hands that have got nothing have not changed anything. -/
theorem runGet_refused (ran : world.runGet org = .ok (after, next))
    (nothing : after.packet.isSome → org.packet.isSome) :
    after = { org.advance with b := 0.0 } ∧ next = world := by
  rcases runGet_cases ran with
    refused | ⟨target, kind, surface, token, changed, grid, free, -, -, rfl, -⟩
  · exact refused
  · have carried := nothing rfl
    rw [free] at carried
    cases carried

omit [DrawSource ρ] in
theorem putAt_refused {packet : Option Token} {target : Option Nat}
    (ran : world.putAt org packet target = .ok (after, next)) (carried : org.packet = packet)
    (nothing : org.packet.isSome → after.packet.isSome) : after = org ∧ next = world := by
  rcases putAt_cases ran with
    refused | ⟨offset, token, surface, changed, grid, rfl, -, -, -, rfl, -⟩
  · exact refused
  · have kept := nothing (by rw [carried]; rfl)
    cases kept

omit [DrawSource ρ] in
theorem runMix_refused (ran : world.runMix org = .ok (after, next))
    (nothing : org.packet.isSome → after.packet.isSome) :
    after = { org.advance with b := 0.0 } ∧ next = world := by
  rcases runMix_cases ran with
    refused | ⟨target, packet, surface, merged, changed, grid, ⟨carried, -⟩, -, -, rfl, -⟩
  · exact refused
  · have kept := nothing (by rw [carried]; rfl)
    cases kept

/-! ### Clones -/

/-- Once a clone is charged and drawn for, it is born. -/
theorem bear_takesIn {target : Nat} (lent : world.pool.LentOnly (some slot))
    (room : world.pool.isFull = false) (share : 0 < org.energy.tdiv 2)
    (ran : world.bear org target = .ok (flow, after, next)) :
    ∃ fresh, world.pool.get? fresh = none ∧ (next.pool.get? fresh).isSome := by
  obtain ⟨poor, -⟩ | ⟨-, -, bears⟩ := bear_cases ran
  · omega
  obtain ⟨child, placed, charged, mutated, crossing, adopted, -⟩ := bears
  obtain ⟨rfl, rfl⟩ := charge_eq_ok charged
  obtain ⟨-, source₁, rfl⟩ := mutateClone_eq_ok mutated
  obtain ⟨-, source₂, rfl⟩ := crossClone_eq_ok crossing
  -- Nothing on the way has touched the pool, so it still has the room asked for before.
  rcases adopt_cases adopted with ⟨-, -, full⟩ | ⟨fresh, pool, -, stored, rfl⟩
  · rw [room] at full
    cases full
  · obtain ⟨-, -, vacant, -, map, -⟩ := Pool.insert_eq_some lent stored
    refine ⟨fresh, vacant, ?_⟩
    rw [map, Function.update_self]
    rfl

/-- A clone without a child has changed nothing. -/
theorem runClone_refused (accepted : world.config.Accepted)
    (lent : world.pool.LentOnly (some slot))
    (ran : world.runClone org = .ok (flow, after, next))
    (childless : ∀ slot, (next.pool.get? slot).isSome → (world.pool.get? slot).isSome) :
    flow = .next ∧ after = { org.advance with b := 0.0 } ∧ next = world := by
  rcases runClone_cases ran with refused | ⟨target, room, rich, -, -, bearing⟩
  · exact refused
  · -- Energy enough for a clone is enough for a share.
    have share : 0 < ({ org.advance with b := 0.0 } : Organism).energy.tdiv 2 := by
      have two : 2 ≤ org.energy := Int.le_trans accepted.cloneEnergy rich
      change 0 < org.energy.tdiv 2
      rw [Int.tdiv_eq_ediv_of_nonneg (by omega)]
      omega
    obtain ⟨fresh, vacant, born⟩ := bear_takesIn lent room share bearing
    have before := childless fresh born
    rw [vacant] at before
    cases before

/-! ### Steps -/

/-- What an organism pays for the terrain beneath it. -/
def toll (world : World ρ) (org : Organism) : Int :=
  match org.beneath.token?.bind fun token => world.surfaces[token.kind]? with
  | none => 0
  | some surface => surface.config.energy

omit [DrawSource ρ] in
theorem walk_refused {delay : Nat} (home : world.grid.get org.offset = .organism slot)
    (walked : world.walk slot org delay = .ok (flow, after, next))
    (ready : after.steps ≠ org.steps + 1) (stays : after.offset = org.offset) :
    flow = .next ∧ after = { org with steps := 0 } ∧ next = world := by
  cases walk_cases walked with
  | waits early charged =>
    obtain ⟨rfl, rfl⟩ := charge_eq_ok charged
    exact absurd rfl ready
  | stays => exact ⟨rfl, rfl, rfl⟩
  | @goes target _ _ due pointed passable charged =>
    obtain ⟨rfl, rfl⟩ := charge_eq_ok charged
    -- To stay after such a step is to step onto one's own cell, which is a barrier.
    have own : target = org.offset := stays
    rw [own, home] at passable
    cases passable

/-- A dose changes neither where an organism stands nor how long it has waited. -/
theorem irradiate_eq_ok {radiation : Float}
    (done : world.irradiate org radiation = .ok (after, next)) :
    after.body = org.body ∧ after.steps = org.steps ∧
      ∃ source, next = { world with source } := by
  obtain ⟨rfl, rfl⟩ | ⟨events, source, mutated, rfl⟩ := irradiate_cases done
  · exact ⟨rfl, rfl, next.source, rfl⟩
  · obtain ⟨retuned, code, mutations, ⟨_, _, _, rfl, -⟩, rfl⟩ := Organism.mutate_eq_ok mutated
    exact ⟨rfl, rfl, source, rfl⟩

omit [DrawSource ρ] in
theorem toll_of_terrainOf_none (free : world.terrainOf org = none) : world.toll org = 0 := by
  unfold terrainOf at free
  simp only [toll, free]

omit [DrawSource ρ] in
theorem toll_of_terrainOf_some {surface : Surface} (beneath : world.terrainOf org = some surface) :
    world.toll org = surface.config.energy := by
  unfold terrainOf at beneath
  simp only [toll, beneath]

/-- A step that is refused costs what the terrain does. -/
theorem runStep_refused (home : world.grid.get org.offset = .organism slot)
    (ran : world.runStep slot org = .ok (flow, after, next)) (lives : flow ≠ .die)
    (ready : after.steps ≠ org.steps + 1) (stays : after.offset = org.offset) :
    flow = .next ∧ after.body = { org.body with energy := org.energy - world.toll org } ∧
      ∃ source, next =
        { world with source, totalEnergy := world.totalEnergy - world.toll org } := by
  cases runStep_cases ran with
  | bare free walked =>
    have here : world.grid.get org.advance.offset = .organism slot := home
    obtain ⟨rfl, rfl, rfl⟩ := walk_refused here walked ready stays
    rw [toll_of_terrainOf_none free, Int.sub_zero, Int.sub_zero]
    exact ⟨rfl, rfl, next.source, rfl⟩
  | dies => exact absurd rfl lives
  | @treads _ _ _ dosed _ _ _ _ beneath charging alive irradiated walked =>
    obtain ⟨rfl, rfl⟩ := charge_eq_ok charging
    obtain ⟨sameBody, sameSteps, source, rfl⟩ := irradiate_eq_ok irradiated
    have here : dosed.offset = org.offset := congrArg Body.offset sameBody
    obtain ⟨rfl, rfl, rfl⟩ :=
      walk_refused (here ▸ home) walked (sameSteps ▸ ready) (stays.trans here.symm)
    rw [toll_of_terrainOf_some beneath, Int.sub_eq_add_neg, Int.sub_eq_add_neg]
    exact ⟨rfl, sameBody, source, rfl⟩

/-! ### Instructions -/

/-- The instruction has not done what it is for: no free slot has been taken, no token has
changed hands, or the organism has neither died nor waited nor gone elsewhere. -/
inductive Refused (world : World ρ) (org : Organism) (flow : Flow) (after : Organism)
    (next : World ρ) : Opcode → Prop where
  | clone (childless : ∀ slot, (next.pool.get? slot).isSome → (world.pool.get? slot).isSome) :
    Refused world org flow after next .clone
  | get (nothing : after.packet.isSome → org.packet.isSome) : Refused world org flow after next .get
  | put (nothing : org.packet.isSome → after.packet.isSome) : Refused world org flow after next .put
  | mix (nothing : org.packet.isSome → after.packet.isSome) : Refused world org flow after next .mix
  | step (lives : flow ≠ .die) (ready : after.steps ≠ org.steps + 1)
      (stays : after.offset = org.offset) : Refused world org flow after next .step

/-- A refused instruction leaves the world as it was, and what the world deals with of the
organism; the slice goes on. A step that is refused costs what the terrain beneath does, and
uses up draws at most. -/
theorem executeLine_refused {config : Config} {start : World ρ} {lines : Nat} {pool : Pool}
    {first : Organism} {opcode : Opcode} (attended : start.Attended config)
    (taken : start.pool.take slot = some (first, pool))
    (passes : Passes slot lines { start with pool } first world org)
    (fetched : org.fetch = some (.op opcode))
    (executed : world.executeLine slot org = .ok (flow, after, next))
    (refused : world.Refused org flow after next opcode) :
    flow = .next ∧
    (opcode ≠ .step → after.body = org.body ∧ next = world) ∧
    (opcode = .step →
      after.body = { org.body with energy := org.energy - world.toll org } ∧
      ∃ source, next =
        { world with source, totalEnergy := world.totalEnergy - world.toll org }) := by
  -- What holds between turns holds at this line too; the rest is about the one instruction.
  have poised : Poised world slot org := (Poised.of_take attended.orderly taken).of_passes passes
  have ran : world.runOpcode slot org opcode = .ok (flow, after, next) := by
    simpa only [executeLine, fetched] using executed
  cases refused with
  | clone childless =>
    have cloned : world.runClone org = .ok (flow, after, next) := ran
    obtain ⟨goesOn, rfl, rfl⟩ :=
      runClone_refused poised.executing.accepted poised.executing.lent cloned childless
    exact ⟨goesOn, fun _ => ⟨rfl, rfl⟩, fun step => by cases step⟩
  | get nothing =>
    obtain ⟨rfl, got⟩ := goOn_eq_ok ran
    obtain ⟨rfl, rfl⟩ := runGet_refused got nothing
    exact ⟨rfl, fun _ => ⟨rfl, rfl⟩, fun step => by cases step⟩
  | put nothing =>
    obtain ⟨rfl, put⟩ := goOn_eq_ok ran
    obtain ⟨rfl, rfl⟩ := putAt_refused put rfl nothing
    exact ⟨rfl, fun _ => ⟨rfl, rfl⟩, fun step => by cases step⟩
  | mix nothing =>
    obtain ⟨rfl, mixed⟩ := goOn_eq_ok ran
    obtain ⟨rfl, rfl⟩ := runMix_refused mixed nothing
    exact ⟨rfl, fun _ => ⟨rfl, rfl⟩, fun step => by cases step⟩
  | step lives ready stays =>
    obtain ⟨goesOn, body, paid⟩ := runStep_refused poised.home ran lives ready stays
    exact ⟨goesOn, fun other => absurd rfl other, fun _ => ⟨body, paid⟩⟩

end World

/-! ### A swamp -/

/-- A row of three cells, two of which are hard to leave. -/
def Config.swamp : Config :=
  { Config.strait with
    surfaces :=
      [.energyPackets, { SurfaceConfig.sand with capacity := 2, initial := 2, energy := 3 }] }

namespace World

set_option maxRecDepth 20000 in
/-- An organism steps into the swamp at the end of the row, and with its next slice it steps on
from there, which leads off the grid. -/
theorem executeLine_swamp :
    ∃ (start placed moved world next : World Generator) (pool : Pool)
      (first org after : Organism),
      create .swamp (.ofSeed 7) true = .ok (.ok start) ∧
      start.watch.perform (.spawnOrganism 1 [6, Opcode.step.word] 50) = .ok placed ∧
      placed.perform (.runOrganism 0 3) = .ok moved ∧ moved.pool.take 0 = some (first, pool) ∧
      { moved with pool }.executeLine 0 first = .ok (.next, org, world) ∧
      org.fetch = some (.op .step) ∧ world.executeLine 0 org = .ok (.next, after, next) ∧
      after.steps ≠ org.steps + 1 ∧ after.offset = org.offset ∧ world.toll org = 3 :=
  ⟨_, _, _, _, _, _, _, _, _, rfl, rfl, rfl, rfl, rfl, rfl, rfl, by decide +kernel,
    by decide +kernel, rfl⟩

/-- The step costs the three units of the swamp, and the view hears nothing of it. -/
theorem executeLine_refused_swamp :
    ∃ (start world next : World Generator) (pool : Pool) (first org after : Organism),
      start.Attended .swamp ∧ start.pool.take 0 = some (first, pool) ∧
      Passes 0 1 { start with pool } first world org ∧ org.fetch = some (.op .step) ∧
      world.executeLine 0 org = .ok (.next, after, next) ∧
      world.Refused org .next after next .step ∧
      after.energy = org.energy - 3 ∧ next.totalEnergy = world.totalEnergy - 3 ∧
      next.grid = world.grid := by
  obtain ⟨start, placed, moved, world, next, pool, first, org, after, created, spawned, stepped,
    taken, pointed, fetched, executed, ready, stays, cost⟩ := executeLine_swamp
  have attended : moved.Attended .swamp :=
    .called _ _ _ (.called _ _ _ (.watched _ (.created _ true start created)) spawned) stepped
  have passes : Passes 0 1 { moved with pool } first world org := .line pointed (.refl _ _)
  have refused : world.Refused org .next after next .step := .step (by decide) ready stays
  obtain ⟨-, -, steps⟩ := executeLine_refused attended taken passes fetched executed refused
  obtain ⟨body, source, rfl⟩ := steps rfl
  rw [cost] at body
  refine ⟨moved, world, _, pool, first, org, after, attended, taken, passes, fetched, executed,
    refused, congrArg Body.energy body, ?_, rfl⟩
  simp only [cost]

end World

end Vivarium
