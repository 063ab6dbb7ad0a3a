import Vivarium.Proofs.Acts.Soundness
import Vivarium.Proofs.Census.Population

/-!
# What holds of organisms for life

What an organism has from its birth, and no line, no mutation and no change of its energy takes
away, is found in each organism of a world at any time: in those of the pool, and in the one
that executes. A line may touch one other organism, which loses energy, and may put a child
into the pool; every other act moves organisms around or lets them in as they are created.
-/
namespace Vivarium

namespace Organism

/-- One chance event: a mutation of the organism, or a crossover with a donor. -/
inductive Varies : Organism → Organism → Prop where
  | mutates {ρ : Type} [DrawSource ρ] {org after : Organism} {config : Config} {source next : ρ}
      {events : Nat} (mutated : org.mutate config source = .ok (events, after, next)) :
      Varies org after
  | crosses {ρ : Type} [DrawSource ρ] {org after : Organism} {donor : Genome} {config : Config}
      {source next : ρ} {found : Bool}
      (crossed : org.crossover donor config source = .ok (found, after, next)) : Varies org after

/-- Chance has had its way with a newborn clone of the first organism. -/
def Begets (org child : Organism) : Prop :=
  ∃ id offset energy config,
    Relation.ReflTransGen Varies (org.endow (.fresh id offset energy config)) child

/-- A property with which organisms come into a world and which they keep. -/
structure Lifelong (holds : Organism → Prop) : Prop where
  placed : ∀ id offset energy config code,
    holds ((fresh id offset energy config).setCode code config.codeMaxSize)
  endowed : ∀ {org}, holds org → ∀ id offset energy config,
    holds (org.endow (.fresh id offset energy config))
  executes : ∀ {org after}, holds org → org.Executes after → holds after
  varies : ∀ {org after}, holds org → org.Varies after → holds after
  /-- Neither energy nor age makes a difference. -/
  lives : ∀ {org}, holds org → ∀ energy age, holds { org with energy, age }

/-- A property with which organisms come into a world of this configuration and which they keep
there, whatever energy they have. What a year does to them may depend on the configuration. -/
structure Lasting (config : Config) (holds : Organism → Prop) : Prop where
  placed : ∀ id offset energy config code,
    holds ((fresh id offset energy config).setCode code config.codeMaxSize)
  endowed : ∀ {org}, holds org → ∀ id offset energy config,
    holds (org.endow (.fresh id offset energy config))
  executes : ∀ {org after}, holds org → org.Executes after → holds after
  varies : ∀ {org after}, holds org → org.Varies after → holds after
  fed : ∀ {org}, holds org → ∀ energy, holds { org with energy }
  ages : ∀ {ρ : Type} [DrawSource ρ] {world next : World ρ} {org after : Organism} {fate : Fate},
    world.config = config → holds org → world.ageOrganism org = .ok (fate, after, next) →
      holds after

theorem Lasting.begets {config : Config} {holds : Organism → Prop} {org child : Organism}
    (lasting : Lasting config holds) (bearer : holds org) (begets : org.Begets child) :
    holds child := by
  obtain ⟨id, offset, energy, config, varies⟩ := begets
  induction varies with
  | refl => exact lasting.endowed bearer id offset energy config
  | tail _ event ih => exact lasting.varies ih event

end Organism

/-- Something holds of each organism of a pool. -/
def Pool.All (pool : Pool) (holds : Organism → Prop) : Prop :=
  ∀ slot org, pool.get? slot = some org → holds org

namespace Pool

variable {pool next : Pool} {holds : Organism → Prop} {slot : Nat}

/-- One slot is emptied or filled, and whoever is there then is as all others are. -/
theorem All.update (all : pool.All holds) {occupant : Option Organism}
    (map : next.get? = Function.update pool.get? slot occupant)
    (good : ∀ org ∈ occupant, holds org) : next.All holds := by
  intro other org live
  rw [map, Function.update_apply] at live
  split at live
  · exact good org live
  · exact all other org live

theorem All.vacate (all : pool.All holds) (map : next.get? = Function.update pool.get? slot none) :
    next.All holds := all.update map nofun

theorem All.seat (all : pool.All holds) {org : Organism} (good : holds org)
    (map : next.get? = Function.update pool.get? slot (some org)) : next.All holds := by
  refine all.update map ?_
  rintro _ ⟨⟩
  exact good

end Pool

namespace World

variable {ρ : Type} [DrawSource ρ] {world next : World ρ} {org after : Organism} {flow : Flow}
  {slot : Nat}

open Organism (Begets Varies Lifelong Lasting)

/-! ### What a line does to the others -/

/-- An organism comes into a free slot of the pool. If births are recorded, its own is, and the
record tells what it comes in with. -/
structure Adopts (world : World ρ) (child : Organism) (fresh : Nat) (next : World ρ) : Prop where
  inserted : world.pool.insert child = .ok (some fresh, next.pool)
  recorded : next.lineage = world.lineage.map (world.recordOf child :: ·)

/-- A line lets the pool be as it is, takes energy of one of its organisms, or puts a child of
the organism that executes into it. Only the birth of a child is recorded. -/
inductive Touches (world : World ρ) (org : Organism) (next : World ρ) : Prop where
  | spares (same : next.pool = world.pool) (silent : next.lineage = world.lineage)
  | bites (victim : Nat) (prey : Organism) (energy : Int)
      (caught : world.pool.get? victim = some prey)
      (bitten : next.pool = world.pool.update victim { prey with energy })
      (silent : next.lineage = world.lineage)
  | bears (child : Organism) (fresh : Nat) (begets : org.Begets child)
      (adopts : world.Adopts child fresh next)

omit [DrawSource ρ] in
/-- A child is endowed with nothing that a line changes before it bears. -/
theorem Touches.of_begets {before : Organism} (touches : world.Touches before next)
    (same : ∀ child, before.Begets child → org.Begets child) : world.Touches org next := by
  cases touches with
  | spares same silent => exact .spares same silent
  | bites victim prey energy caught bitten silent =>
    exact .bites victim prey energy caught bitten silent
  | bears child fresh begets adopts => exact .bears child fresh (same child begets) adopts

theorem LeavesOthers.touches {before : Organism} (leaves : world.LeavesOthers before next after) :
    world.Touches org next :=
  .spares leaves.pool leaves.lineage

theorem varies_of_mutateClone (done : world.mutateClone org = .ok (after, next)) :
    Relation.ReflTransGen Varies org after ∧ ∃ source, next = { world with source } := by
  obtain ⟨drawn, rfl | ⟨events, source, rest, mutated⟩⟩ := mutateClone_cases done
  · exact ⟨.refl, drawn⟩
  · exact ⟨.single (.mutates mutated), drawn⟩

theorem varies_of_crossClone (done : world.crossClone org = .ok (after, next)) :
    Relation.ReflTransGen Varies org after ∧ ∃ source, next = { world with source } := by
  obtain ⟨drawn, rfl | ⟨slot, donor, found, source, rest, -, crossed⟩⟩ := crossClone_cases done
  · exact ⟨.refl, drawn⟩
  · exact ⟨.single (.crosses crossed), drawn⟩

theorem bear_touches {target : Nat} (ran : world.bear org target = .ok (flow, after, next)) :
    world.Touches org next := by
  rcases bear_cases ran with ⟨-, -, -, rfl⟩ | ⟨-, -, bears⟩
  · exact .spares rfl rfl
  · obtain ⟨child, placed, charged, mutated, crossing, adopted, -⟩ := bears
    obtain ⟨rfl, rfl⟩ := charge_eq_ok charged
    obtain ⟨mutation, source₁, rfl⟩ := varies_of_mutateClone mutated
    obtain ⟨crossover, source₂, rfl⟩ := varies_of_crossClone crossing
    rcases adopt_cases adopted with ⟨-, rfl, -⟩ | ⟨fresh, pool, -, stored, rfl⟩
    · exact .spares rfl rfl
    · exact .bears child fresh ⟨_, _, _, _, mutation.trans crossover⟩ ⟨stored, rfl⟩

theorem runClone_touches (ran : world.runClone org = .ok (flow, after, next)) :
    world.Touches org next := by
  rcases runClone_cases ran with ⟨-, -, rfl⟩ | ⟨target, -, -, -, -, bearing⟩
  · exact .spares rfl rfl
  · exact (bear_touches bearing).of_begets fun _ begets => begets

theorem eatOrganism_touches {victim : Nat} {amount : Int}
    (ran : world.eatOrganism org victim amount = .ok (flow, after, next)) (goesOn : flow ≠ .stop) :
    world.Touches org next := by
  cases eatOrganism_cases ran with
  | misses nobody => exact .spares rfl rfl
  | bites caught less => exact .bites victim _ _ caught rfl rfl
  | drains caught all killing => exact absurd rfl goesOn

theorem eatAt_touches {target : Option Nat}
    (ran : world.eatAt org target = .ok (flow, after, next)) (goesOn : flow ≠ .stop) :
    world.Touches org next := by
  cases eatAt_cases ran with
  | nothing | terrain => exact .spares rfl rfl
  | organism pointed shown bitten => exact eatOrganism_touches bitten goesOn
  | token pointed shown energy eaten => exact (eatToken_leavesOthers eaten).2.touches

/-- A line that nobody is eaten up with touches one other organism at most. -/
theorem executeLine_touches (ran : world.executeLine slot org = .ok (flow, after, next))
    (goesOn : flow ≠ .stop) : world.Touches org next := by
  rcases executeLine_concerns ran with ⟨-, leaves⟩ | ⟨-, fed⟩ | ⟨-, cloned⟩
  · exact leaves.touches
  · exact (eatAt_touches fed goesOn).of_begets fun _ begets => begets
  · exact runClone_touches cloned

omit [DrawSource ρ] in
theorem Touches.all {config : Config} {holds : Organism → Prop} {out : Option Nat}
    (touches : world.Touches org next) (lent : world.pool.LentOnly out)
    (lasting : Lasting config holds) (good : holds org) (all : world.pool.All holds) :
    next.pool.All holds := by
  cases touches with
  | spares same => exact same ▸ all
  | bites victim prey energy caught bitten =>
    obtain ⟨-, map, -⟩ := Pool.update_of_get? lent caught { prey with energy }
    rw [bitten]
    exact all.seat (lasting.fed (all _ _ caught) energy) map
  | bears child fresh begets adopts =>
    obtain ⟨-, -, -, -, map, -⟩ := Pool.insert_eq_some lent adopts.inserted
    exact all.seat (lasting.begets good begets) map

/-! ### Aging -/

theorem holds_of_ageOrganism {holds : Organism → Prop} (lifelong : Lifelong holds)
    (before : holds org) {fate : Fate} (aged : world.ageOrganism org = .ok (fate, after, next)) :
    holds after := by
  obtain ⟨mutant, between, energy, totalEnergy, age, mutated, rfl, -⟩ := ageOrganism_eq_ok aged
  obtain ⟨rfl, -⟩ | ⟨events, source, changes, -⟩ := mutateByAge_cases mutated
  · exact lifelong.lives before energy age
  · exact lifelong.lives (lifelong.varies before (.mutates changes)) energy age

/-! ### All organisms -/

/-- Whoever is eaten up is put back before it is taken out, but in the end it is gone. -/
theorem LosesPrey.vacates {prey : Organism} {pool : Pool} {out : Option Nat}
    (lost : world.LosesPrey prey pool next) (lent : world.pool.LentOnly out) :
    next.lineage = world.lineage ∧
      ∃ victim, next.pool.get? = Function.update world.pool.get? victim none := by
  obtain ⟨victim, energy, caught, removed, buried⟩ := lost
  obtain ⟨ready, map, -⟩ := Pool.update_of_get? lent caught prey
  obtain ⟨-, -, gone, -⟩ := Pool.remove_eq_some ready removed
  rw [map, Function.update_idem] at gone
  obtain ⟨totalEnergy, grid, surfaces, source, rfl⟩ := counts_of_bury buried
  exact ⟨rfl, victim, gone⟩

theorem pool_of_bury (buried : world.bury org = .ok next) : next.pool = world.pool := by
  obtain ⟨totalEnergy, grid, surfaces, source, rfl⟩ := counts_of_bury buried
  rfl

omit [DrawSource ρ] in
/-- Whoever is placed on demand is fresh but for the genome given. -/
theorem adopts_of_spawnOrganism {offset : Nat} {code : Genome} {energy : Int} {placed : Option Nat}
    (spawned : world.spawnOrganism offset code energy = .ok (placed, next)) :
    (next.pool = world.pool ∧ next.lineage = world.lineage) ∨ ∃ id config fresh,
      world.Adopts ((Organism.fresh id offset energy config).setCode code config.codeMaxSize)
        fresh next := by
  rcases spawnOrganism_cases spawned with ⟨-, rfl, -⟩ | ⟨-, adopted⟩
  · exact .inl ⟨rfl, rfl⟩
  · rcases adopt_cases adopted with ⟨-, rfl, -⟩ | ⟨fresh, pool, -, stored, rfl⟩
    · exact .inl ⟨rfl, rfl⟩
    · exact .inr ⟨world.nextId, world.config, fresh, stored, rfl⟩

end World

/-- What is kept for life is kept in a world of any configuration. -/
theorem Organism.Lifelong.lasting {holds : Organism → Prop} (lifelong : Lifelong holds)
    (config : Config) : Lasting config holds where
  placed := lifelong.placed
  endowed := lifelong.endowed
  executes := lifelong.executes
  varies := lifelong.varies
  fed := fun {org} good energy => lifelong.lives good energy org.age
  ages := fun _ good aged => World.holds_of_ageOrganism lifelong good aged

/-- Something holds of each organism, wherever it is. -/
structure Stage.All {ρ : Type} (holds : Organism → Prop) (stage : Stage ρ) : Prop where
  pool : stage.world.pool.All holds
  player : ∀ player ∈ stage.player, holds player.org

section Acts

open Organism (Lifelong Lasting)

variable {ρ : Type} [DrawSource ρ] {placing : Prop} {config : Config} {stage last : Stage ρ}
  {burial : Option (Burial ρ)} {holds : Organism → Prop}

theorem Act.all (act : Act placing stage burial last) (sound : stage.Sound config)
    (lasting : Lasting config holds) (all : stage.All holds) : last.All holds := by
  have nobody : ∀ player ∈ (none : Option Player), holds player.org := nofun
  have alone : ∀ {slot : Nat} {org : Organism} {fate : Fate}, holds org →
      ∀ player ∈ some (Player.mk slot org fate), holds player.org := by
    rintro slot org fate good player ⟨⟩
    exact good
  obtain ⟨pool, player⟩ := all
  -- Which slots are lent says what an operation on the pool does to it: it changes one slot.
  have lent := sound.lent
  cases act with
  | notes => exact ⟨pool, player⟩
  | enters taken =>
    obtain ⟨live, -, map, -⟩ := Pool.take_eq_some lent taken
    exact ⟨pool.vacate map, alone (pool _ _ live)⟩
  | @line world next slot org after flow ran goesOn =>
    have good : holds org := player _ rfl
    refine ⟨?_, alone (lasting.executes good (.of_ok ran))⟩
    exact (World.executeLine_touches ran goesOn).all lent lasting good pool
  | @devours world next slot org after prey pool' ran lost =>
    have good : holds org := player _ rfl
    obtain ⟨-, victim, gone⟩ := lost.vacates lent
    exact ⟨pool.vacate gone, alone (lasting.executes good (.of_ok ran))⟩
  | year aged =>
    have same := (World.ageOrganism_leavesOthers aged).pool
    exact ⟨same ▸ pool, alone (lasting.ages sound.configured (player _ rfl) aged)⟩
  | returns world slot org =>
    obtain ⟨-, map, -⟩ := Pool.restore_of_lent lent org
    exact ⟨pool.seat (player _ rfl) map, nobody⟩
  | leaves buried released =>
    have same := World.pool_of_bury buried
    rw [same] at released
    obtain ⟨-, map, -⟩ := Pool.release_of_lent lent released
    exact ⟨pool.vacate map, nobody⟩
  | killed removed buried =>
    obtain ⟨-, -, map, -⟩ := Pool.remove_eq_some lent removed
    have same := World.pool_of_bury buried
    exact ⟨same ▸ pool.vacate map, nobody⟩
  | @spawns world next offset code energy placed spawned =>
    refine ⟨?_, nobody⟩
    rcases World.adopts_of_spawnOrganism spawned with ⟨same, -⟩ | ⟨id, config, fresh, adopts⟩
    · exact same ▸ pool
    · obtain ⟨-, -, -, -, map, -⟩ := Pool.insert_eq_some lent adopts.inserted
      exact pool.seat (lasting.placed id offset energy config code) map
  | places allowed light spawned =>
    obtain ⟨surfaces, grid, rfl⟩ := World.spawnToken_eq_ok spawned
    exact ⟨pool, nobody⟩
  | replenishes replenished =>
    obtain ⟨surfaces, grid, source, rfl⟩ := World.replenish_eq_ok replenished
    exact ⟨pool, nobody⟩
  | ticks ticked =>
    obtain ⟨surfaces, grid, source, rfl⟩ := World.tickSurfaces_eq_ok ticked
    exact ⟨pool, nobody⟩

theorem Trail.all {burials : List (Burial ρ)} (trail : Trail placing stage burials last)
    (sound : stage.Sound config) (lasting : Lasting config holds) (all : stage.All holds) :
    last.All holds := by
  have both := trail.preserve (fun stage => stage.Sound config ∧ stage.All holds)
    (fun act before => ⟨act.sound before.1, act.all before.1 lasting before.2⟩) ⟨sound, all⟩
  exact both.2

/-- Whatever is called, what lasts in a world of its configuration holds of each organism in the
pool. -/
theorem World.all_of_lasting {source : ρ} {recording : Bool} {start world : World ρ}
    {calls : List Call} (lasting : Lasting config holds)
    (created : create config source recording = .ok (.ok start))
    (performed : performAll calls start = .ok world) : world.pool.All holds := by
  obtain ⟨blank, terrain, placed, founded, seeded⟩ := create_eq_ok created
  have populated : Unfolds True ⟨terrain, none⟩ ⟨start, none⟩ := seedPopulation_unfolds seeded
  obtain ⟨burials, trail⟩ := populated.trans (performAll_unfolds (fun _ _ _ => trivial) performed)
  -- The trail starts before the first population is seeded, when there is nobody at all.
  have nobody : (⟨terrain, none⟩ : Stage ρ).All holds := by
    refine ⟨fun slot org live => ?_, nofun⟩
    rw [founded.nobody] at live
    cases live
  exact (trail.all founded.sound lasting nobody).pool

/-- Whatever is called, what holds for life holds of each organism in the pool. -/
theorem World.all_of_performAll {source : ρ} {recording : Bool} {start world : World ρ}
    {calls : List Call} (lifelong : Lifelong holds)
    (created : create config source recording = .ok (.ok start))
    (performed : performAll calls start = .ok world) : world.pool.All holds :=
  all_of_lasting (lifelong.lasting config) created performed

end Acts

end Vivarium
