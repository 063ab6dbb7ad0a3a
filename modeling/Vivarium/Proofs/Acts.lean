import Vivarium.Proofs.Calls
import Vivarium.Proofs.Census.Execution

/-!
# Acts

Whatever a world does is a sequence of acts. An organism enters, which takes it out of the
pool; it executes lines and lives through a year; it returns to its slot, or it leaves and
is buried. Between two such turns organisms are killed and spawned, and tokens drop, move
or are placed on demand. A trail is a sequence of acts with the burials on its way, in their
order. Each operation leaves a trail, so what every act preserves holds after any run, and
what a burial costs can be counted over a run.
-/
namespace Vivarium

/-- The organism that executes outside of the pool, and what became of it so far. -/
structure Player where
  slot : Nat
  org : Organism
  fate : Fate

/-- A world, with the organism that executes outside of its pool, if there is one. -/
structure Stage (ρ : Type) where
  world : World ρ
  player : Option Player

/-- An organism that is buried, and the world in which it is. -/
structure Burial (ρ : Type) where
  world : World ρ
  org : Organism

/-- What becomes of an organism by a line with this flow. -/
def Flow.fate : Flow → Fate
  | .next | .stop => .alive
  | .die => .dead

section Acts

variable {ρ : Type} [DrawSource ρ]

/-- An organism that is eaten up is put back with the energy it has left, taken out of the pool
and buried. -/
def World.LosesPrey (world : World ρ) (prey : Organism) (pool : Pool) (next : World ρ) : Prop :=
  ∃ victim energy, world.pool.get? victim = some { prey with energy } ∧
    (world.pool.update victim prey).remove victim = .ok (some prey, pool) ∧
    { world with pool }.bury prey = .ok next

/-- What is done in one go, and who is buried then. Tokens are placed on demand only where
that is allowed. -/
inductive Act (placing : Prop) : Stage ρ → Option (Burial ρ) → Stage ρ → Prop where
  /-- Draws, and what is only counted or remembered. -/
  | notes (world : World ρ) (player : Option Player) (source : ρ)
      (iteration generation births deaths linesGranted : Nat) (probe : Probe)
      (history : Array RunSummary) :
      Act placing ⟨world, player⟩ none
        ⟨{ world with
            source, iteration, generation, births, deaths, linesGranted, probe, history }, player⟩
  | enters {world : World ρ} {slot : Nat} {org : Organism} {pool : Pool}
      (taken : world.pool.take slot = some (org, pool)) :
      Act placing ⟨world, none⟩ none ⟨{ world with pool }, some ⟨slot, org, .alive⟩⟩
  /-- It executes a line after which nobody is buried. -/
  | line {world next : World ρ} {slot : Nat} {org after : Organism} {flow : Flow}
      (ran : world.executeLine slot org = .ok (flow, after, next)) (goesOn : flow ≠ .stop) :
      Act placing ⟨world, some ⟨slot, org, .alive⟩⟩ none ⟨next, some ⟨slot, after, flow.fate⟩⟩
  /-- It executes a line with which it eats the last energy of another one. -/
  | devours {world next : World ρ} {slot : Nat} {org after prey : Organism} {pool : Pool}
      (ran : world.executeLine slot org = .ok (.stop, after, next))
      (lost : world.LosesPrey prey pool next) :
      Act placing ⟨world, some ⟨slot, org, .alive⟩⟩ (some ⟨{ world with pool }, prey⟩)
        ⟨next, some ⟨slot, after, .alive⟩⟩
  | year {world next : World ρ} {slot : Nat} {org after : Organism} {fate : Fate}
      (aged : world.ageOrganism org = .ok (fate, after, next)) :
      Act placing ⟨world, some ⟨slot, org, .alive⟩⟩ none ⟨next, some ⟨slot, after, fate⟩⟩
  | returns (world : World ρ) (slot : Nat) (org : Organism) :
      Act placing ⟨world, some ⟨slot, org, .alive⟩⟩ none
        ⟨{ world with pool := world.pool.restore slot org }, none⟩
  | leaves {world left : World ρ} {slot : Nat} {org : Organism} {pool : Pool}
      (buried : world.bury org = .ok left) (released : left.pool.release slot = .ok pool) :
      Act placing ⟨world, some ⟨slot, org, .dead⟩⟩ (some ⟨world, org⟩) ⟨{ left with pool }, none⟩
  | killed {world next : World ρ} {slot : Nat} {org : Organism} {pool : Pool}
      (removed : world.pool.remove slot = .ok (some org, pool))
      (buried : { world with pool }.bury org = .ok next) :
      Act placing ⟨world, none⟩ (some ⟨{ world with pool }, org⟩) ⟨next, none⟩
  | spawns {world next : World ρ} {offset : Nat} {code : Genome} {energy : Int}
      {placed : Option Nat}
      (spawned : world.spawnOrganism offset code energy = .ok (placed, next)) :
      Act placing ⟨world, none⟩ none ⟨next, none⟩
  | places {world next : World ρ} {offset kind atoms : Nat} {added : Bool} (allowed : placing)
      (light : atoms ≤ maxAtoms)
      (spawned : world.spawnToken offset kind atoms = .ok (added, next)) :
      Act placing ⟨world, none⟩ none ⟨next, none⟩
  | replenishes {world next : World ρ} (replenished : world.replenish = .ok next) :
      Act placing ⟨world, none⟩ none ⟨next, none⟩
  | ticks {world next : World ρ} (ticked : world.tickSurfaces = .ok next) :
      Act placing ⟨world, none⟩ none ⟨next, none⟩

/-- Any number of acts, and the burials on the way. -/
inductive Trail (placing : Prop) : Stage ρ → List (Burial ρ) → Stage ρ → Prop where
  | refl (stage : Stage ρ) : Trail placing stage [] stage
  | act {stage between last : Stage ρ} {burial : Option (Burial ρ)} {burials : List (Burial ρ)}
      (first : Act placing stage burial between) (rest : Trail placing between burials last) :
      Trail placing stage (burial.toList ++ burials) last

/-- A trail leads from one stage to another. -/
def Unfolds (placing : Prop) (stage last : Stage ρ) : Prop :=
  ∃ burials, Trail placing stage burials last

variable {placing : Prop} {stage between last : Stage ρ}

theorem Trail.trans {early late : List (Burial ρ)} (first : Trail placing stage early between)
    (rest : Trail placing between late last) : Trail placing stage (early ++ late) last := by
  induction first with
  | refl => exact rest
  | act first _ ih =>
    rw [List.append_assoc]
    exact .act first (ih rest)

/-- What each act preserves holds after any number of them. -/
theorem Trail.preserve {burials : List (Burial ρ)} (holds : Stage ρ → Prop)
    (trail : Trail placing stage burials last)
    (step : ∀ {before after burial}, Act placing before burial after → holds before → holds after)
    (start : holds stage) : holds last := by
  induction trail with
  | refl => exact start
  | act first _ ih => exact ih (step first start)

theorem Unfolds.refl (stage : Stage ρ) : Unfolds placing stage stage := ⟨[], .refl stage⟩

theorem Act.unfolds {burial : Option (Burial ρ)} (act : Act placing stage burial last) :
    Unfolds placing stage last := ⟨_, .act act (.refl last)⟩

theorem Unfolds.trans (first : Unfolds placing stage between)
    (rest : Unfolds placing between last) : Unfolds placing stage last := by
  obtain ⟨early, first⟩ := first
  obtain ⟨late, rest⟩ := rest
  exact ⟨early ++ late, first.trans rest⟩

end Acts

/-- Whoever is removed was in its slot. -/
theorem Pool.get?_of_remove {pool next : Pool} {slot : Nat} {org : Organism}
    (removed : pool.remove slot = .ok (some org, next)) : pool.get? slot = some org := by
  unfold remove at removed
  cases live : pool.get? slot with
  | none => simp [live] at removed
  | some resident =>
    simp only [live] at removed
    obtain ⟨freed, -, answer⟩ := (bind_eq_ok_iff _ _ _).mp removed
    cases answer
    rfl

namespace World

variable {ρ : Type} [DrawSource ρ] {placing : Prop} {world next : World ρ}

theorem drawn_unfolds (world : World ρ) (source : ρ) :
    Unfolds placing ⟨world, none⟩ ⟨{ world with source }, none⟩ :=
  (Act.notes world none source _ _ _ _ _ _ _).unfolds

/-! ### Lines -/

section Turns

variable {slot : Nat} {org after : Organism} {flow : Flow}

/-- A meal ends the slice if the one that is eaten has nothing left; then it is buried. -/
theorem eatOrganism_stop {victim : Nat} {amount : Int}
    (ran : world.eatOrganism org victim amount = .ok (.stop, after, next)) :
    ∃ prey pool, world.LosesPrey prey pool next := by
  cases eatOrganism_cases ran with
  | @drains prey done _ caught all killing =>
    -- The prey has just been put back with nothing left, so it is the one removed.
    have updated : (world.pool.update victim { prey with energy := 0 }).get? victim =
        some { prey with energy := 0 } := by
      have held := (Pool.get?_eq_some_iff _ _ _).mp caught
      rw [Pool.get?_update _ _ _ _ (Pool.lt_capacity_of_getElem? held), if_pos rfl]
    rcases kill_cases killing with ⟨-, -, vacant⟩ | ⟨dead, pool, -, removing, burying⟩
    · cases updated.symm.trans vacant
    · cases updated.symm.trans (Pool.get?_of_remove removing)
      exact ⟨{ prey with energy := 0 }, pool, victim, prey.energy, caught, removing, burying⟩

theorem eatAt_stop {target : Option Nat}
    (ran : world.eatAt org target = .ok (.stop, after, next)) :
    ∃ prey pool, world.LosesPrey prey pool next := by
  cases eatAt_cases ran with
  | organism pointed shown bitten => exact eatOrganism_stop bitten
  | token pointed shown energy eaten => cases (eatToken_leavesOthers eaten).1

/-- A slice never ends with a clone. -/
theorem runClone_ne_stop (ran : world.runClone org = .ok (flow, after, next)) : flow ≠ .stop := by
  rcases runClone_cases ran with ⟨rfl, -, -⟩ | ⟨target, -, -, -, -, bearing⟩
  · decide
  · rcases bear_cases bearing with ⟨-, rfl, -, -⟩ | ⟨-, rfl, -⟩
    · decide
    · decide

/-- Only a meal can end a slice early. -/
theorem executeLine_stop (ran : world.executeLine slot org = .ok (.stop, after, next)) :
    ∃ prey pool, world.LosesPrey prey pool next := by
  rcases executeLine_concerns ran with ⟨goesOn, -⟩ | ⟨-, fed⟩ | ⟨-, cloned⟩
  · exact absurd rfl goesOn
  · exact eatAt_stop fed
  · exact absurd rfl (runClone_ne_stop cloned)

theorem executeLine_unfolds (ran : world.executeLine slot org = .ok (flow, after, next)) :
    Unfolds placing ⟨world, some ⟨slot, org, .alive⟩⟩ ⟨next, some ⟨slot, after, flow.fate⟩⟩ := by
  -- The flow tells a line with which somebody is eaten up from any other one.
  by_cases stops : flow = .stop
  · subst stops
    obtain ⟨prey, pool, lost⟩ := executeLine_stop ran
    exact (Act.devours ran lost).unfolds
  · exact (Act.line ran stops).unfolds

theorem executeLines_unfolds {lines : Nat} {fate : Fate}
    (ran : executeLines slot lines org world = .ok (fate, after, next)) :
    Unfolds placing ⟨world, some ⟨slot, org, .alive⟩⟩ ⟨next, some ⟨slot, after, fate⟩⟩ := by
  induction lines generalizing org world with
  | zero =>
    cases ran
    exact .refl _
  | succ lines ih =>
    simp only [executeLines] at ran
    obtain ⟨⟨flow, moved, between⟩, line, ran⟩ := (bind_eq_ok_iff _ _ _).mp ran
    have first : Unfolds placing _ _ := executeLine_unfolds line
    -- Only a line after which the slice goes on leaves more lines to the induction.
    cases flow with
    | next => exact first.trans (ih ran)
    | stop =>
      cases ran
      exact first
    | die =>
      cases ran
      exact first

/-! ### Turns -/

/-- Only who survives its slice lives through a year. -/
theorem ageSurvivor_unfolds {fate later : Fate}
    (aged : world.ageSurvivor org fate = .ok (later, after, next)) :
    Unfolds placing ⟨world, some ⟨slot, org, fate⟩⟩ ⟨next, some ⟨slot, after, later⟩⟩ := by
  cases fate with
  | alive => exact (Act.year aged).unfolds
  | dead =>
    cases aged
    exact .refl _

theorem settle_unfolds {fate : Fate} (settled : world.settle slot org fate = .ok next) :
    Unfolds placing ⟨world, some ⟨slot, org, fate⟩⟩ ⟨next, none⟩ := by
  cases fate with
  | alive =>
    cases settled
    exact (Act.returns world slot org).unfolds
  | dead =>
    obtain ⟨left, buried, settled⟩ := (bind_eq_ok_iff _ _ _).mp settled
    obtain ⟨pool, released, answer⟩ := (bind_eq_ok_iff _ _ _).mp settled
    cases answer
    exact (Act.leaves buried released).unfolds

theorem runOrganism_unfolds {lines : Nat} {fate : Option Fate}
    (ran : world.runOrganism slot lines = .ok (fate, next)) :
    Unfolds placing ⟨world, none⟩ ⟨next, none⟩ := by
  rcases runOrganism_cases ran with
    ⟨-, -, rfl⟩ | ⟨org, pool, fate, after, executed, taken, execution, settling, -⟩
  · exact .refl _
  · have entered : Unfolds placing ⟨world, none⟩ _ := (Act.enters taken).unfolds
    exact entered.trans ((executeLines_unfolds execution).trans (settle_unfolds settling))

theorem visit_unfolds (visited : world.visit slot = .ok next) :
    Unfolds placing ⟨world, none⟩ ⟨next, none⟩ := by
  rcases visit_cases visited with ⟨-, rfl⟩ | ⟨org, -, turn⟩
  · exact .refl _
  · obtain ⟨settled, linesGranted, taken, slice, year, settling, -, dropping, ticking⟩ := turn
    have entered : Unfolds placing ⟨world, none⟩ _ := (Act.enters taken).unfolds
    have lived := (entered.trans (executeLines_unfolds slice)).trans (ageSurvivor_unfolds year)
    have granted : Unfolds placing ⟨settled, none⟩ ⟨{ settled with linesGranted }, none⟩ :=
      (Act.notes settled none _ _ _ _ _ linesGranted _ _).unfolds
    have played := (lived.trans (settle_unfolds settling)).trans granted
    exact (played.trans (Act.replenishes dropping).unfolds).trans (Act.ticks ticking).unfolds

theorem visitFrom_unfolds {remaining : Nat} (visited : visitFrom remaining slot world = .ok next) :
    Unfolds placing ⟨world, none⟩ ⟨next, none⟩ := by
  induction remaining generalizing slot world with
  | zero =>
    cases visited
    exact .refl _
  | succ remaining ih =>
    obtain ⟨between, first, rest⟩ := (bind_eq_ok_iff _ _ _).mp visited
    exact (visit_unfolds first).trans (ih rest)

/-! ### Births and deaths between turns -/

theorem kill_unfolds {done : Bool} (killed : world.kill slot = .ok (done, next)) :
    Unfolds placing ⟨world, none⟩ ⟨next, none⟩ := by
  rcases kill_cases killed with ⟨-, rfl, -⟩ | ⟨org, pool, -, removing, burying⟩
  · exact .refl _
  · exact (Act.killed removing burying).unfolds

theorem seedMany_unfolds {wanted placed total : Nat}
    (seeded : seedMany wanted placed world = .ok (total, next)) :
    Unfolds placing ⟨world, none⟩ ⟨next, none⟩ := by
  induction wanted generalizing placed world with
  | zero =>
    cases seeded
    exact .refl _
  | succ wanted ih =>
    obtain ⟨headroom, -, seeded⟩ := (bind_eq_ok_iff _ _ _).mp seeded
    simp only at seeded
    split at seeded
    next =>
      cases seeded
      exact .refl _
    next =>
      obtain ⟨⟨found, source⟩, -, seeded⟩ := (bind_eq_ok_iff _ _ _).mp seeded
      simp only at seeded
      split at seeded
      next => exact (world.drawn_unfolds source).trans (ih seeded)
      next offset =>
        obtain ⟨⟨code, coded⟩, coding, seeded⟩ := (bind_eq_ok_iff _ _ _).mp seeded
        obtain ⟨source', rfl⟩ := randomCode_eq_ok coding
        obtain ⟨⟨slot, spawned⟩, spawning, seeded⟩ := (bind_eq_ok_iff _ _ _).mp seeded
        have drawn : Unfolds placing _ _ := world.drawn_unfolds source'
        exact (drawn.trans (Act.spawns spawning).unfolds).trans (ih seeded)

theorem seedPopulation_unfolds {placed : Nat}
    (seeded : world.seedPopulation = .ok (placed, next)) :
    Unfolds placing ⟨world, none⟩ ⟨next, none⟩ := by
  obtain ⟨⟨total, populated⟩, seeding, seeded⟩ := (bind_eq_ok_iff _ _ _).mp seeded
  obtain ⟨generation, -, answer⟩ := (bind_eq_ok_iff _ _ _).mp seeded
  cases answer
  have counted : Unfolds placing ⟨populated, none⟩ ⟨{ populated with generation }, none⟩ :=
    (Act.notes populated none _ _ generation _ _ _ _ _).unfolds
  exact (seedMany_unfolds seeding).trans counted

theorem replace_unfolds {victim : Organism} {fresh : Bool}
    (replaced : world.replace slot victim = .ok (fresh, next)) :
    Unfolds placing ⟨world, none⟩ ⟨next, none⟩ := by
  obtain ⟨headroom, -, replaced⟩ := (bind_eq_ok_iff _ _ _).mp replaced
  obtain ⟨available, -, replaced⟩ := (bind_eq_ok_iff _ _ _).mp replaced
  obtain ⟨⟨found, source⟩, -, replaced⟩ := (bind_eq_ok_iff _ _ _).mp replaced
  have looked : Unfolds placing _ _ := world.drawn_unfolds source
  simp only at replaced
  split at replaced
  next =>
    cases replaced
    exact looked
  next offset =>
    split at replaced
    next =>
      cases replaced
      exact looked
    next =>
      obtain ⟨⟨killed, left⟩, killing, replaced⟩ := (bind_eq_ok_iff _ _ _).mp replaced
      obtain ⟨⟨code, coded⟩, coding, replaced⟩ := (bind_eq_ok_iff _ _ _).mp replaced
      obtain ⟨⟨successor, spawned⟩, spawning, replaced⟩ := (bind_eq_ok_iff _ _ _).mp replaced
      cases replaced
      obtain ⟨source', rfl⟩ := randomCode_eq_ok coding
      have gone := (looked.trans (kill_unfolds killing)).trans (left.drawn_unfolds source')
      exact gone.trans (Act.spawns spawning).unfolds

/-! ### Cataclysms -/

theorem cullFrom_unfolds {remaining bound replaced total : Nat}
    (culled : cullFrom remaining slot bound replaced world = .ok (total, next)) :
    Unfolds placing ⟨world, none⟩ ⟨next, none⟩ := by
  induction remaining generalizing slot bound replaced world with
  | zero =>
    cases culled
    exact .refl _
  | succ remaining ih =>
    unfold cullFrom at culled
    split at culled
    next =>
      split at culled
      next =>
        obtain ⟨raised, -, culled⟩ := (bind_eq_ok_iff _ _ _).mp culled
        exact ih culled
      next victim live =>
        obtain ⟨⟨fresh, between⟩, replacing, culled⟩ := (bind_eq_ok_iff _ _ _).mp culled
        exact (replace_unfolds replacing).trans (ih culled)
    next =>
      cases culled
      exact .refl _

end Turns

theorem compareTwo_unfolds {compared : Bool} (done : world.compareTwo = .ok (compared, next)) :
    Unfolds placing ⟨world, none⟩ ⟨next, none⟩ := by
  obtain ⟨⟨first, source⟩, -, done⟩ := (bind_eq_ok_iff _ _ _).mp done
  obtain ⟨⟨second, source'⟩, -, done⟩ := (bind_eq_ok_iff _ _ _).mp done
  simp only at done
  split at done
  next =>
    obtain ⟨probe, -, answer⟩ := (bind_eq_ok_iff _ _ _).mp done
    cases answer
    exact (Act.notes world none source' _ _ _ _ _ probe _).unfolds
  next =>
    cases done
    exact world.drawn_unfolds source'

theorem conclude_unfolds {replaced : Nat} (done : world.conclude = .ok (replaced, next)) :
    Unfolds placing ⟨world, none⟩ ⟨next, none⟩ := by
  have probed : ∀ (world : World ρ) (probe : Probe),
      Unfolds placing ⟨world, none⟩ ⟨{ world with probe }, none⟩ := fun world probe =>
    (Act.notes world none _ _ _ _ _ _ probe _).unfolds
  simp only [conclude] at done
  split at done
  next =>
    obtain ⟨⟨total, culled⟩, culling, answer⟩ := (bind_eq_ok_iff _ _ _).mp done
    cases answer
    exact ((probed world _).trans (cullFrom_unfolds culling)).trans (probed culled _)
  next =>
    cases done
    exact probed world _

theorem updateCataclysm_unfolds {replaced : Option Nat}
    (done : world.updateCataclysm = .ok (replaced, next)) :
    Unfolds placing ⟨world, none⟩ ⟨next, none⟩ := by
  obtain ⟨⟨compared, sampled⟩, comparing, done⟩ := (bind_eq_ok_iff _ _ _).mp done
  have first : Unfolds placing ⟨world, none⟩ ⟨sampled, none⟩ := compareTwo_unfolds comparing
  simp only at done
  split at done
  next =>
    cases done
    exact first
  next =>
    obtain ⟨⟨total, culled⟩, concluding, answer⟩ := (bind_eq_ok_iff _ _ _).mp done
    cases answer
    exact first.trans (conclude_unfolds concluding)

/-! ### Iterations and runs -/

theorem step_unfolds {report : StepReport} (stepped : world.step = .ok (report, next)) :
    Unfolds placing ⟨world, none⟩ ⟨next, none⟩ := by
  obtain ⟨visited, turns, stepped⟩ := (bind_eq_ok_iff _ _ _).mp stepped
  obtain ⟨phase, -, stepped⟩ := (bind_eq_ok_iff _ _ _).mp stepped
  have opened : Unfolds placing ⟨world, none⟩ ⟨{ world with births := 0, deaths := 0 }, none⟩ :=
    (Act.notes world none _ _ _ 0 0 _ _ _).unfolds
  have played := opened.trans (visitFrom_unfolds turns)
  have closed : ∀ (last : World ρ) (iteration : Nat),
      Unfolds placing ⟨last, none⟩ ⟨{ last with iteration }, none⟩ := fun last iteration =>
    (Act.notes last none _ iteration _ _ _ _ _ _).unfolds
  simp only at stepped
  split at stepped
  next =>
    obtain ⟨⟨replaced, last⟩, updating, stepped⟩ := (bind_eq_ok_iff _ _ _).mp stepped
    obtain ⟨iteration, -, answer⟩ := (bind_eq_ok_iff _ _ _).mp stepped
    cases answer
    exact (played.trans (updateCataclysm_unfolds updating)).trans (closed last iteration)
  next =>
    obtain ⟨last, same, stepped⟩ := (bind_eq_ok_iff _ _ _).mp stepped
    cases same
    obtain ⟨iteration, -, answer⟩ := (bind_eq_ok_iff _ _ _).mp stepped
    cases answer
    exact played.trans (closed visited iteration)

theorem iterate_unfolds {iterations lines granted : Nat}
    (iterated : iterate iterations lines world = .ok (granted, next)) :
    Unfolds placing ⟨world, none⟩ ⟨next, none⟩ := by
  induction iterations generalizing lines world with
  | zero =>
    cases iterated
    exact .refl _
  | succ iterations ih =>
    obtain ⟨⟨report, between⟩, stepping, iterated⟩ := (bind_eq_ok_iff _ _ _).mp iterated
    obtain ⟨difference, -, iterated⟩ := (bind_eq_ok_iff _ _ _).mp iterated
    obtain ⟨sum, -, iterated⟩ := (bind_eq_ok_iff _ _ _).mp iterated
    exact (step_unfolds stepping).trans (ih iterated)

theorem revive_unfolds (revived : world.revive = .ok next) :
    Unfolds placing ⟨world, none⟩ ⟨next, none⟩ := by
  unfold revive at revived
  split at revived
  next =>
    obtain ⟨⟨placed, populated⟩, seeding, answer⟩ := (bind_eq_ok_iff _ _ _).mp revived
    cases answer
    exact seedPopulation_unfolds seeding
  next =>
    cases revived
    exact .refl _

theorem run_unfolds {summary : RunSummary} (ran : world.run = .ok (summary, next)) :
    Unfolds placing ⟨world, none⟩ ⟨next, none⟩ := by
  obtain ⟨⟨lines, iterated⟩, iterating, ran⟩ := (bind_eq_ok_iff _ _ _).mp ran
  obtain ⟨revived, reviving, answer⟩ := (bind_eq_ok_iff _ _ _).mp ran
  cases answer
  have lived : Unfolds placing ⟨world, none⟩ ⟨revived, none⟩ :=
    (iterate_unfolds iterating).trans (revive_unfolds reviving)
  obtain ⟨history, kept⟩ := remember_eq revived (revived.summarize lines)
  rw [kept]
  exact lived.trans (Act.notes revived none _ _ _ _ _ _ _ history).unfolds

end World

/-! ### Calls -/

/-- Whether a call places a token on demand. -/
def Call.placesToken : Call → Bool
  | spawnToken .. => true
  | _ => false

namespace World

variable {ρ : Type} [DrawSource ρ] {placing : Prop} {world next : World ρ}

theorem perform_unfolds {call : Call} (allowed : call.placesToken → placing)
    (performed : world.perform call = .ok next) :
    Unfolds placing ⟨world, none⟩ ⟨next, none⟩ := by
  cases perform_cases performed with
  | spawnOrganism offset code energy spawned => exact (Act.spawns spawned).unfolds
  | spawnToken offset kind atoms spawned =>
    have light : atoms.toNat ≤ maxAtoms := Nat.le_of_lt_succ atoms.toNat_lt
    exact (Act.places (allowed rfl) light spawned).unfolds
  | kill slot killed => exact kill_unfolds killed
  | runOrganism slot lines ran => exact runOrganism_unfolds ran
  | step stepped => exact step_unfolds stepped
  | run ran => exact run_unfolds ran
  | seedPopulation seeded => exact seedPopulation_unfolds seeded
  | updateCataclysm updated => exact updateCataclysm_unfolds updated

/-- Whatever is called leaves a trail. -/
theorem performAll_unfolds {calls : List Call}
    (allowed : ∀ call ∈ calls, call.placesToken → placing)
    (performed : performAll calls world = .ok next) :
    Unfolds placing ⟨world, none⟩ ⟨next, none⟩ := by
  induction calls generalizing world with
  | nil =>
    cases performed
    exact .refl _
  | cons call rest ih =>
    obtain ⟨between, first, performed⟩ := (bind_eq_ok_iff _ _ _).mp performed
    rw [List.forall_mem_cons] at allowed
    exact (perform_unfolds allowed.1 first).trans (ih allowed.2 performed)

end World

end Vivarium
