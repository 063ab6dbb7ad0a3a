import Vivarium.Draw.Generator
import Vivarium.Proofs.Scene.Creation

/-!
# Calls

What the owner of a world can ask of it, as data, so that any sequence of calls is
a list. A created world that answers all calls of a list is reached by moves from
a blank scene. Calls that place nothing on demand reach it within the headroom.
-/
namespace Vivarium

/-- An operation that the owner of a world can ask for. -/
inductive Call where
  | spawnOrganism (offset : Nat) (code : Genome) (energy : Int)
  | spawnToken (offset : Nat) (kind : UInt8) (atoms : UInt16)
  | kill (slot : Nat)
  | runOrganism (slot lines : Nat)
  | step
  | run
  | seedPopulation
  | updateCataclysm
  deriving DecidableEq, Repr

/-- Whether a call brings in energy without asking for the headroom. -/
def Call.spawns : Call → Bool
  | spawnOrganism .. | spawnToken .. => true
  | _ => false

namespace World

open Scene (Blank Unbounded)

variable {ρ : Type} [DrawSource ρ]

/-- Carry out a call; what it returns beside the world is left out. -/
def perform (world : World ρ) : Call → Outcome (World ρ)
  | .spawnOrganism offset code energy => return (← world.spawnOrganism offset code energy).2
  | .spawnToken offset kind atoms => return (← world.spawnToken offset kind.toNat atoms.toNat).2
  | .kill slot => return (← world.kill slot).2
  | .runOrganism slot lines => return (← world.runOrganism slot lines).2
  | .step => return (← world.step).2
  | .run => return (← world.run).2
  | .seedPopulation => return (← world.seedPopulation).2
  | .updateCataclysm => return (← world.updateCataclysm).2

/-- Carry out one call after the other. -/
def performAll : List Call → World ρ → Outcome (World ρ)
  | [], world => .ok world
  | call :: rest, world => do
    let world ← world.perform call
    performAll rest world

/-- An operation has an answer, and the call that asks for it leaves the world which that leaves. -/
inductive Performs (world : World ρ) : Call → World ρ → Prop where
  | spawnOrganism (offset : Nat) (code : Genome) (energy : Int) {placed : Option Nat}
      {next : World ρ} (spawned : world.spawnOrganism offset code energy = .ok (placed, next)) :
    Performs world (.spawnOrganism offset code energy) next
  | spawnToken (offset : Nat) (kind : UInt8) (atoms : UInt16) {added : Bool} {next : World ρ}
      (spawned : world.spawnToken offset kind.toNat atoms.toNat = .ok (added, next)) :
    Performs world (.spawnToken offset kind atoms) next
  | kill (slot : Nat) {done : Bool} {next : World ρ}
      (killed : world.kill slot = .ok (done, next)) : Performs world (.kill slot) next
  | runOrganism (slot lines : Nat) {fate : Option Fate} {next : World ρ}
      (ran : world.runOrganism slot lines = .ok (fate, next)) :
    Performs world (.runOrganism slot lines) next
  | step {report : StepReport} {next : World ρ} (stepped : world.step = .ok (report, next)) :
    Performs world .step next
  | run {summary : RunSummary} {next : World ρ} (ran : world.run = .ok (summary, next)) :
    Performs world .run next
  | seedPopulation {placed : Nat} {next : World ρ}
      (seeded : world.seedPopulation = .ok (placed, next)) : Performs world .seedPopulation next
  | updateCataclysm {replaced : Option Nat} {next : World ρ}
      (updated : world.updateCataclysm = .ok (replaced, next)) :
    Performs world .updateCataclysm next

theorem perform_cases {world next : World ρ} {call : Call}
    (performed : world.perform call = .ok next) : world.Performs call next := by
  cases call with
  | spawnOrganism offset code energy =>
    obtain ⟨⟨placed, after⟩, spawned, answer⟩ := (bind_eq_ok_iff _ _ _).mp performed
    cases answer
    exact .spawnOrganism offset code energy spawned
  | spawnToken offset kind atoms =>
    obtain ⟨⟨added, after⟩, spawned, answer⟩ := (bind_eq_ok_iff _ _ _).mp performed
    cases answer
    exact .spawnToken offset kind atoms spawned
  | kill slot =>
    obtain ⟨⟨done, after⟩, killed, answer⟩ := (bind_eq_ok_iff _ _ _).mp performed
    cases answer
    exact .kill slot killed
  | runOrganism slot lines =>
    obtain ⟨⟨fate, after⟩, ran, answer⟩ := (bind_eq_ok_iff _ _ _).mp performed
    cases answer
    exact .runOrganism slot lines ran
  | step =>
    obtain ⟨⟨report, after⟩, stepped, answer⟩ := (bind_eq_ok_iff _ _ _).mp performed
    cases answer
    exact .step stepped
  | run =>
    obtain ⟨⟨summary, after⟩, ran, answer⟩ := (bind_eq_ok_iff _ _ _).mp performed
    cases answer
    exact .run ran
  | seedPopulation =>
    obtain ⟨⟨placed, after⟩, seeded, answer⟩ := (bind_eq_ok_iff _ _ _).mp performed
    cases answer
    exact .seedPopulation seeded
  | updateCataclysm =>
    obtain ⟨⟨replaced, after⟩, updated, answer⟩ := (bind_eq_ok_iff _ _ _).mp performed
    cases answer
    exact .updateCataclysm updated

/-- What is admitted of a call: all energy if it spawns, else what the headroom allows. -/
theorem perform_leads {admits : Scene → Int → Prop} {world next : World ρ} {call : Call}
    (resting : Resting world)
    (lenient : Scene.Lenient admits)
    (unbounded : call.spawns → ∀ scene amount, admits scene amount)
    (performed : world.perform call = .ok next) : Leads admits world next := by
  cases perform_cases performed with
  | spawnOrganism offset code energy spawned =>
    exact spawnOrganism_leads resting (unbounded rfl _ _) spawned
  | spawnToken offset kind atoms spawned =>
    -- The width of the argument is what keeps the token from being too heavy.
    have light : atoms.toNat ≤ maxAtoms := Nat.le_of_lt_succ atoms.toNat_lt
    exact spawnToken_leads resting light (fun _ => unbounded rfl _ _) spawned
  | kill slot killed => exact kill_leads resting killed
  | runOrganism slot lines ran => exact runOrganism_leads resting ran
  | step stepped => exact step_leads resting lenient stepped
  | run ran => exact run_leads resting lenient ran
  | seedPopulation seeded => exact seedPopulation_leads resting lenient seeded
  | updateCataclysm updated => exact updateCataclysm_leads resting lenient updated

theorem performAll_leads {admits : Scene → Int → Prop} {world next : World ρ} {calls : List Call}
    (resting : Resting world)
    (lenient : Scene.Lenient admits)
    (unbounded : ∀ call ∈ calls, call.spawns → ∀ scene amount, admits scene amount)
    (performed : performAll calls world = .ok next) : Leads admits world next := by
  -- Each call starts from a world at rest and leaves one, so the runs join.
  induction calls generalizing world with
  | nil =>
    cases performed
    exact resting.still
  | cons call rest ih =>
    obtain ⟨after, first, performed⟩ := (bind_eq_ok_iff _ _ _).mp performed
    rw [List.forall_mem_cons] at unbounded
    have leads := perform_leads resting lenient unbounded.1 first
    exact leads.trans (ih (resting.after leads) unbounded.2 performed)

/-- A created world that answers all calls is founded, populated and led by them. -/
theorem founded_of_performAll {admits : Scene → Int → Prop} {config : Config} {source : ρ}
    {recording : Bool} {start world : World ρ} {calls : List Call}
    (lenient : Scene.Lenient admits)
    (unbounded : ∀ call ∈ calls, call.spawns → ∀ scene amount, admits scene amount)
    (created : create config source recording = .ok (.ok start))
    (performed : performAll calls start = .ok world) :
    ∃ (blank : Scene) (terrain : World ρ), Founded config blank terrain ∧
      Leads admits terrain world := by
  obtain ⟨blank, terrain, placed, founded, seeded⟩ := create_eq_ok created
  have populated : Leads admits terrain start :=
    seedPopulation_leads founded.resting lenient seeded
  have called := performAll_leads (founded.resting.after populated) lenient unbounded performed
  exact ⟨blank, terrain, founded, populated.trans called⟩

/-- Whatever is called, the world is reached by moves from a blank scene. -/
theorem reached_of_performAll {config : Config} {source : ρ} {recording : Bool}
    {start world : World ρ} {calls : List Call}
    (created : create config source recording = .ok (.ok start))
    (performed : performAll calls start = .ok world) :
    Resting world ∧ ∃ blank : Scene, blank.Blank ∧ Scene.Moves Unbounded blank world.scene := by
  have lenient : Scene.Lenient Unbounded := fun _ _ _ => trivial
  obtain ⟨blank, terrain, founded, leads⟩ :=
    founded_of_performAll lenient (fun _ _ _ _ _ => trivial) created performed
  exact ⟨founded.resting.after leads, blank, founded.empty, founded.laid.trans leads.moves⟩

end World

/-! ### A small world -/

/-- A world of six cells, small enough to be followed by hand. -/
def Config.small : Config :=
  { Config.standard with
    worldWidth := 3
    worldHeight := 2
    iterationsPerRun := 2
    orgAmount := 4
    orgInitialPercent := 0.5
    orgInitialCodeSize := 2
    orgEnergy := 50
    orgMemSize := 1
    codeStackSize := 1
    surfaces := [{ SurfaceConfig.energyPackets with capacity := 2, initial := 1 }] }

/-- The calls of a life in the small world. -/
def Call.shortLife : List Call := [.spawnOrganism 1 [] 10, .spawnToken 2 0 3, .step, .kill 0, .run]

/-- The calls of a life in which an organism bears a child: it is placed with a share for
both and a genome that points down and clones itself. -/
def Call.familyLife : List Call :=
  [.spawnOrganism 5 [1, Opcode.clone.word] 3000, .runOrganism 2 2, .step]

set_option maxRecDepth 20000 in
theorem World.performAll_small :
    ∃ start world : World Generator, create .small (.ofSeed 7) false = .ok (.ok start) ∧
      performAll Call.shortLife start = .ok world := ⟨_, _, rfl, rfl⟩

set_option maxRecDepth 20000 in
/-- The child is in the last slot, and a mutation has given it a word of its own. -/
theorem World.performAll_family :
    ∃ start world : World Generator, create .small (.ofSeed 7) true = .ok (.ok start) ∧
      performAll Call.familyLife start = .ok world ∧
      (world.pool.get? 3).map Organism.code = some [Opcode.loop.word, 1, Opcode.clone.word] ∧
      world.lineage.map List.length = some 4 := ⟨_, _, rfl, rfl, rfl, rfl⟩

end Vivarium
