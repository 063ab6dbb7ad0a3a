import Vivarium.Proofs.Calls
import Vivarium.Proofs.Safety.Population

/-!
# What can go wrong

A world of an accepted configuration never looks beside a sequence, draws from
nothing, divides by zero or subtracts more than there is, whatever is asked of it. Of
all faults it can meet only those of a result that does not fit its width, and, when
the configuration asks for more than storage holds, of room.
-/
namespace Vivarium

variable {config : Config} {ρ : Type}

namespace World

theorem ofConfig_endsWell (accepted : config.Accepted) :
    EndsWell config (Grid.ofConfig config)
      (fun made => ∃ grid : Grid, made = .ok grid ∧ grid.Wide) := by
  have created : EndsWell config (Grid.create config.worldWidth config.worldHeight)
      (fun made => ∃ grid : Grid, made = .ok grid ∧ grid.Wide) := by
    unfold Grid.create
    rw [if_neg (not_or.mpr accepted.dimensions)]
    refine (reserve_endsWell Config.Roomy.grid).bind fun _ _ _ => .pure ⟨_, rfl, ?_, ?_⟩
    · simpa [Grid.size, Grid.empty] using Nat.mul_pos (Nat.pos_of_ne_zero accepted.dimensions.1)
        (Nat.pos_of_ne_zero accepted.dimensions.2)
    · exact accepted.dimensions.1
  refine created.bind fun made _ wide => ?_
  obtain ⟨grid, rfl, wide⟩ := wide
  exact .pure ⟨_, rfl, { wide with }⟩

theorem consistent_surfacesFrom (kind : Nat) (configs : List SurfaceConfig) :
    ∀ surface ∈ surfacesFrom kind configs, surface.tokens.Consistent := by
  induction configs generalizing kind with
  | nil => exact fun surface member => nomatch member
  | cons config rest ih =>
    exact List.forall_mem_cons.mpr ⟨TokenSet.consistent_empty, ih (kind + 1)⟩

theorem createPool_endsWell (accepted : config.Accepted) :
    EndsWell config (Pool.create config.orgAmount) (fun pool => pool.Sound config none) := by
  refine (reserve_endsWell Config.Roomy.pool).bind fun _ _ _ => .pure ?_
  have organisms := accepted.organisms
  refine ⟨Pool.lentOnly_empty _, ?_, fun slot org live => ?_⟩
  · simp only [Pool.capacity, Pool.empty, Array.size_replicate]
    omega
  · rw [Pool.get?_empty] at live
    cases live

variable [DrawSource ρ] [LawfulDrawSource ρ]

theorem create_world_endsWell (valid : config.validate = .ok none) (source : ρ)
    (recording : Bool) :
    EndsWell config (create config source recording)
      (fun made => ∀ world, made = .ok world → world.Sound config none 0) := by
  have accepted := Config.accepted_of_validate valid
  unfold create
  rw [valid]
  refine EndsWell.bind (.ok rfl : EndsWell config (.ok none) (· = none)) fun _ _ passed => ?_
  subst passed
  refine (ofConfig_endsWell accepted).bind fun made _ wide => ?_
  obtain ⟨grid, rfl, wide⟩ := wide
  have ready : KeptAll WideState (surfacesFrom 0 config.surfaces) (grid, source) :=
    ⟨consistent_surfacesFrom 0 _, wide⟩
  refine (onSurfaces_endsWell (fun surface state consistent wide =>
    Surface.seed_endsWell ⟨consistent, wide⟩ state.2) ready).bind
      fun ⟨surfaces, grid, source⟩ _ done => ?_
  refine (createPool_endsWell accepted).bind fun pool _ sound => ?_
  refine (reserve_endsWell Config.Roomy.history).bind fun _ _ _ => ?_
  have some : surfaces ≠ [] := by
    obtain ⟨first, others, configs⟩ := accepted.surfaces_eq
    have length := done.2.trans (Scene.surfacesFrom_length config.surfaces 0)
    rw [configs] at length
    exact List.ne_nil_of_length_eq_add_one length
  -- The world that is to be populated has no organisms, and its surfaces are seeded.
  refine (seedPopulation_endsWell accepted
    ⟨rfl, sound, some, ⟨done.1.1, done.1.2⟩, Nat.zero_le _⟩).bind
      fun ⟨_, _⟩ _ seeded => .pure ?_
  rintro _ ⟨⟩
  exact seeded

/-! ### Calls -/

variable {world : World ρ}

theorem perform_endsWell (accepted : config.Accepted) (sound : world.Sound config none 0)
    (call : Call) :
    EndsWell config (world.perform call) (fun next => next.Sound config none 0) := by
  cases call with
  | spawnOrganism offset code energy =>
    exact (spawnOrganism_endsWell accepted sound _ _ _).bind fun _ _ done => .pure done
  | spawnToken offset kind atoms =>
    exact (spawnToken_endsWell sound _ _ _).bind fun _ _ done => .pure done
  | kill slot => exact (kill_endsWell sound _).bind fun _ _ done => .pure done
  | runOrganism slot lines =>
    exact (runOrganism_endsWell accepted sound _ _).bind fun _ _ done => .pure done
  | step => exact (step_endsWell accepted sound).bind fun _ _ done => .pure done
  | run => exact (run_endsWell accepted sound).bind fun _ _ done => .pure done
  | seedPopulation =>
    exact (seedPopulation_endsWell accepted sound).bind fun _ _ done => .pure done
  | updateCataclysm =>
    exact (updateCataclysm_endsWell accepted sound).bind fun _ _ done => .pure done

theorem performAll_endsWell (accepted : config.Accepted) (calls : List Call)
    (sound : world.Sound config none 0) :
    EndsWell config (performAll calls world) (fun next => next.Sound config none 0) := by
  induction calls generalizing world with
  | nil => exact .ok sound
  | cons call rest ih =>
    exact (perform_endsWell accepted sound call).bind fun _ _ sound => ih sound

/-- Whatever is asked of a world, its creation and each call have an answer or meet a
tolerated fault. In every world that is reached offsets can be divided by the number of
columns and ages by the period of each organism. Whatever a genome says, the openers that
its ends meet lie within its block table; and whatever two genomes say, the rows that are
filled to compare them have an entry for each position that is read. -/
theorem faults_tolerated (valid : config.validate = .ok none) (source : ρ) (recording : Bool)
    (calls : List Call) :
    (∀ fault, create config source recording = .error fault → config.Tolerates fault) ∧
      (∀ start, create config source recording = .ok (.ok start) →
        (∀ fault, performAll calls start = .error fault → config.Tolerates fault) ∧
          ∀ world, performAll calls start = .ok world →
            world.grid.width ≠ 0 ∧
              ∀ slot org, world.pool.get? slot = some org → 1 ≤ org.period) ∧
      (∀ (code : Genome) (line opener : Nat), opener ∈ BlockTable.waiting code line →
        opener < (BlockTable.ofGenome code).size) ∧
      ∀ (first second : Genome) (word : Int) (left : Nat),
        (EditDistance.lastRow first second).length = second.length + 1 ∧
          (EditDistance.fillRow word second (EditDistance.lastRow first second) left).length =
            second.length := by
  have accepted := Config.accepted_of_validate valid
  have creation := create_world_endsWell valid source recording
  refine ⟨creation.fault, fun start created => ?_, fun code line opener waits => ?_,
    fun first second word left => ?_⟩
  · have performed := performAll_endsWell accepted calls (creation.answer _ created start rfl)
    refine ⟨performed.fault, fun world reached => ?_⟩
    have sound := performed.answer world reached
    refine ⟨sound.kept.2.width, fun slot org live => ?_⟩
    exact (sound.pool.residents slot org live).sound.period
  · rw [BlockTable.size_ofGenome]
    exact (BlockTable.of_mem_waiting waits).2.lt_length
  · have long := EditDistance.length_lastRow first second
    exact ⟨long, EditDistance.length_fillRow word second _ left long⟩

set_option maxRecDepth 20000 in
/-- In the small world a call that brings in too much energy meets a fault, and it is
one of those. -/
theorem faults_tolerated_small :
    ∃ start : World Generator, create .small (.ofSeed 7) false = .ok (.ok start) ∧
      (performAll [.spawnOrganism 2 [] maxAmount] start = .error .addOverflow ∧
        Config.small.Tolerates .addOverflow) ∧
      ∃ world, performAll Call.shortLife start = .ok world ∧ world.grid.width ≠ 0 := by
  obtain ⟨start, -, created, -⟩ := performAll_small
  have valid := ((create_eq_ok_iff _ _ _ _).mp created).1.valid
  refine ⟨_, rfl, ⟨rfl, ?_⟩, _, rfl, ?_⟩
  · have tolerated := faults_tolerated valid (Generator.ofSeed 7) false
      [.spawnOrganism 2 [] maxAmount]
    exact (tolerated.2.1 _ rfl).1 _ rfl
  · have tolerated := faults_tolerated valid (Generator.ofSeed 7) false Call.shortLife
    exact ((tolerated.2.1 _ rfl).2 _ rfl).1

end World

end Vivarium
