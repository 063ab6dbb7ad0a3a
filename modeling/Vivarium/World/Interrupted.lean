import Vivarium.World.Population

/-!
# Interrupted runs

A fault ends a run somewhere in the middle, and the world of that moment is lost
with it. Births are written down when they happen, so those before the fault are
still to be told. A run is a function of the world it starts from: it is followed
again from there, piece by piece, into the piece that faults, and the births are
those of the last world before the fault. A piece without a fault tells its own
births, as `birthsInSlice_of_executeLines` says of a slice.
-/
namespace Vivarium

/-- Births kept by a world, newest first. -/
abbrev KeptBirths := Option (List BirthRecord)

namespace World

variable {ρ : Type} [DrawSource ρ]

/-- The births up to the end or the fault of a slice. A line bears its child last of
all, so a line that faults has borne none. -/
def birthsInSlice (slot : Nat) : (lines : Nat) → Organism → World ρ → KeptBirths
  | 0, _, world => world.lineage
  | lines + 1, org, world =>
    match world.executeLine slot org with
    | .ok (.next, org, world) => birthsInSlice slot lines org world
    | .ok (_, _, world) => world.lineage
    | .error _ => world.lineage

/-- The births up to the end or the fault of the turn of a slot: only its slice has
any. -/
def birthsInVisit (world : World ρ) (slot : Nat) : KeptBirths :=
  match world.pool.take slot with
  | none => world.lineage
  | some (org, pool) =>
    birthsInSlice slot world.config.linesPerIteration org { world with pool }

def birthsInVisits : (remaining slot : Nat) → World ρ → KeptBirths
  | 0, _, world => world.lineage
  | remaining + 1, slot, world =>
    match world.visit slot with
    | .ok world => birthsInVisits remaining (slot + 1) world
    | .error _ => world.birthsInVisit slot

def birthsInCull : (remaining slot bound : Nat) → World ρ → KeptBirths
  | 0, _, _, world => world.lineage
  | remaining + 1, slot, bound, world =>
    if slot < bound then
      match world.pool.get? slot with
      | none => birthsInCull remaining (slot + 1) (bound + 1) world
      | some victim =>
        match world.replace slot victim with
        | .ok (_, world) => birthsInCull remaining (slot + 1) bound world
        | .error _ => world.lineage
    else world.lineage

/-- The births up to the end or the fault of a cataclysm: only a cull has any. -/
def birthsInCataclysm (world : World ρ) : KeptBirths :=
  match world.compareTwo with
  | .error _ => world.lineage
  | .ok (compared, world) =>
    if compared && !isUndecided world.config world.probe
        && isUniform world.config world.probe.refresh then
      birthsInCull world.pool.capacity 0 world.cullBound world
    else world.lineage

def birthsInStep (world : World ρ) : KeptBirths :=
  let world := { world with births := 0, deaths := 0 }
  match visitFrom world.pool.capacity 0 world with
  | .error _ => birthsInVisits world.pool.capacity 0 world
  | .ok world =>
    match Count.rem world.iteration world.config.cataclysmEvery with
    | .ok 0 => world.birthsInCataclysm
    | _ => world.lineage

def birthsInIterations : (iterations : Nat) → World ρ → KeptBirths
  | 0, world => world.lineage
  | iterations + 1, world =>
    match world.step with
    | .ok (_, world) => birthsInIterations iterations world
    | .error _ => world.birthsInStep

def birthsInSeeding : (wanted : Nat) → World ρ → KeptBirths
  | 0, world => world.lineage
  | wanted + 1, world =>
    match seedMany 1 0 world with
    | .ok (_, world) => birthsInSeeding wanted world
    | .error _ => world.lineage

def birthsInRun (world : World ρ) : KeptBirths :=
  match iterate world.config.iterationsPerRun 0 world with
  | .error _ => birthsInIterations world.config.iterationsPerRun world
  | .ok (_, world) =>
    if world.pool.isEmpty then birthsInSeeding world.config.initialPopulation world
    else world.lineage

theorem birthsInSlice_of_executeLines (slot lines : Nat) (org : Organism) (world : World ρ)
    (fate : Fate) (last : Organism) (after : World ρ)
    (run : executeLines slot lines org world = .ok (fate, last, after)) :
    birthsInSlice slot lines org world = after.lineage := by
  induction lines generalizing org world with
  | zero =>
    simp only [executeLines, Except.ok.injEq, Prod.mk.injEq] at run
    simp only [birthsInSlice, run.2.2]
  | succ lines ih =>
    simp only [executeLines, bind, Except.bind] at run
    cases line : world.executeLine slot org with
    | error fault => simp only [line, reduceCtorEq] at run
    | ok done =>
      obtain ⟨flow, next, moved⟩ := done
      simp only [line] at run
      cases flow with
      | next => simpa only [birthsInSlice, line] using ih next moved run
      | stop | die =>
        simp only [pure, Except.pure, Except.ok.injEq, Prod.mk.injEq] at run
        simp only [birthsInSlice, line, run.2.2]

end World

end Vivarium
