import Vivarium.Proofs.Census
import Vivarium.Proofs.Outcomes.Turns
import Vivarium.Proofs.Scene.OfWorld

/-!
# What an organism that executes does to the others

Most instructions concern nobody but the organism that executes them. There are two
exceptions: `eat` may take energy of another organism, and `clone` may bear one. Only an
organism whose last energy is eaten leaves, and this ends the slice. Nothing is assumed
of the world but that its pool has lent the one slot.
-/
namespace Vivarium

open Mutation (Drawn)

namespace World

variable {ρ : Type}

theorem resident_censusDuring (world : World ρ) (slot : Nat) (org : Organism) :
    (world.censusDuring slot org).residents slot = some org := by
  simp [censusDuring, censusWith]

/-- Who is in the pool is a resident as well. -/
theorem resident_of_get? {world : World ρ} {slot other : Nat} {resident : Organism}
    (lent : world.pool.LentOnly (some slot)) (live : world.pool.get? other = some resident)
    (org : Organism) :
    other ≠ slot ∧ (world.censusDuring slot org).residents other = some resident := by
  have elsewhere : other ≠ slot := by
    rintro rfl
    rw [Pool.get?_eq_some_iff, (lent.lent other).mpr rfl] at live
    cases live
  refine ⟨elsewhere, ?_⟩
  simp only [censusDuring, censusWith, Function.update_of_ne elsewhere]
  exact live

theorem seat_censusDuring (world : World ρ) (slot : Nat) (before after : Organism) :
    (world.censusDuring slot before).seat slot after = world.censusDuring slot after := by
  simp [censusDuring, censusWith, Census.seat]

/-- A change to another organism is made in the pool. -/
theorem seat_censusDuring_pool {world : World ρ} {pool : Pool} {slot other : Nat}
    {resident : Organism} (elsewhere : other ≠ slot)
    (map : pool.get? = Function.update world.pool.get? other (some resident))
    (size : pool.size = world.pool.size) (before after : Organism) :
    ((world.censusDuring slot before).seat other resident).seat slot after =
      { world with pool }.censusDuring slot after := by
  simp only [censusDuring, censusWith, Census.seat, map, size]
  rw [Function.update_comm elsewhere, Function.update_idem, Function.update_comm elsewhere.symm]

/-! ### What nobody else notices -/

variable [DrawSource ρ]

/-- An organism evolves while all others stay as they are, and so does what is kept about
them. -/
structure LeavesOthers (world : World ρ) (org : Organism) (next : World ρ) (after : Organism) :
    Prop where
  evolves : org.Evolves (Drawn ρ) world.config after
  pool : next.pool = world.pool
  kept : ∀ residents, next.censusWith residents = world.censusWith residents

namespace LeavesOthers

variable {world between next : World ρ} {org middle after : Organism}

theorem refl (world : World ρ) (org : Organism) : world.LeavesOthers org world org :=
  ⟨.refl org, rfl, fun _ => rfl⟩

theorem config (leaves : world.LeavesOthers org next after) : next.config = world.config :=
  congrArg Census.config (leaves.kept world.pool.get?)

theorem lineage (leaves : world.LeavesOthers org next after) : next.lineage = world.lineage :=
  congrArg Census.lineage (leaves.kept world.pool.get?)

theorem trans (first : world.LeavesOthers org between middle)
    (second : between.LeavesOthers middle next after) : world.LeavesOthers org next after where
  evolves := first.evolves.trans (first.config ▸ second.evolves)
  pool := second.pool.trans first.pool
  kept := fun residents => (second.kept residents).trans (first.kept residents)

/-- The change of the organism itself is all that the census shows. -/
theorem censusDuring (leaves : world.LeavesOthers org next after) (slot : Nat) :
    next.censusDuring slot after = (world.censusDuring slot org).seat slot after := by
  rw [seat_censusDuring]
  simp only [World.censusDuring, leaves.kept, leaves.pool]

theorem deeds (leaves : world.LeavesOthers org next after) (slot : Nat) :
    (world.censusDuring slot org).Deeds (Drawn ρ) slot (next.censusDuring slot after) := by
  rw [leaves.censusDuring slot]
  exact .single (.alone org after (world.resident_censusDuring slot org) leaves.evolves)

end LeavesOthers

section Alone

variable {world next : World ρ} {org after : Organism}

theorem charge_leavesOthers {amount : Int} (charged : world.charge org amount = .ok (after, next)) :
    world.LeavesOthers org next after := by
  obtain ⟨rfl, rfl⟩ := charge_eq_ok charged
  exact ⟨{ Organism.Evolves.refl org with }, rfl, fun _ => rfl⟩

theorem irradiate_leavesOthers {radiation : Float}
    (done : world.irradiate org radiation = .ok (after, next)) :
    world.LeavesOthers org next after := by
  obtain ⟨rfl, rfl⟩ | ⟨events, source, mutated, rfl⟩ := irradiate_cases done
  · exact ⟨{ Organism.Evolves.refl org with }, rfl, fun _ => rfl⟩
  · have evolves := Organism.evolves_mutate mutated
    exact ⟨{ evolves with }, rfl, fun _ => rfl⟩

omit [DrawSource ρ] in
theorem flowOf_ne_stop (org : Organism) : flowOf org ≠ .stop := by
  unfold flowOf
  split <;> exact nofun

theorem walk_leavesOthers {slot delay : Nat} {flow : Flow}
    (walked : world.walk slot org delay = .ok (flow, after, next)) :
    flow ≠ .stop ∧ world.LeavesOthers org next after := by
  cases walk_cases walked with
  | waits early charged =>
    have leaves := charge_leavesOthers charged
    exact ⟨flowOf_ne_stop _, { leaves.evolves with }, leaves.pool, leaves.kept⟩
  | stays due barred => exact ⟨nofun, { Organism.Evolves.refl org with }, rfl, fun _ => rfl⟩
  | goes due pointed passable charged =>
    have leaves := charge_leavesOthers charged
    exact ⟨flowOf_ne_stop _, { leaves.evolves with }, leaves.pool, leaves.kept⟩

theorem runStep_leavesOthers {slot : Nat} {flow : Flow}
    (ran : world.runStep slot org = .ok (flow, after, next)) :
    flow ≠ .stop ∧ world.LeavesOthers org.advance next after := by
  cases runStep_cases ran with
  | bare free walked => exact walk_leavesOthers walked
  | dies beneath charging dead => exact ⟨by decide, charge_leavesOthers charging⟩
  | treads beneath charging alive irradiated walked =>
    obtain ⟨goesOn, walks⟩ := walk_leavesOthers walked
    have dosed := (charge_leavesOthers charging).trans (irradiate_leavesOthers irradiated)
    exact ⟨goesOn, dosed.trans walks⟩

theorem eatToken_leavesOthers {target : Nat} {token : Token} {flow : Flow}
    (ran : world.eatToken org target token = .ok (flow, after, next)) :
    flow = .next ∧ world.LeavesOthers org next after := by
  obtain ⟨surface, eaten, changed, grid, -, -, rfl, rfl, rfl⟩ := eatToken_eq_ok ran
  exact ⟨rfl, { Organism.Evolves.refl org with }, rfl, fun _ => rfl⟩

theorem runGet_leavesOthers (ran : world.runGet org = .ok (after, next)) :
    world.LeavesOthers org.advance next after := by
  obtain ⟨rfl, rfl⟩ | ⟨target, kind, surface, token, changed, grid, -, -, -, rfl, rfl⟩ :=
    runGet_cases ran
  · exact ⟨{ Organism.Evolves.refl org.advance with }, rfl, fun _ => rfl⟩
  · exact ⟨{ Organism.Evolves.refl org.advance with }, rfl, fun _ => rfl⟩

theorem putAt_leavesOthers {packet : Option Token} {target : Option Nat}
    (ran : world.putAt org packet target = .ok (after, next)) :
    world.LeavesOthers org next after := by
  obtain ⟨rfl, rfl⟩ | ⟨offset, token, surface, changed, grid, -, -, -, -, rfl, rfl⟩ :=
    putAt_cases ran
  · exact .refl next after
  · exact ⟨{ Organism.Evolves.refl org with }, rfl, fun _ => rfl⟩

theorem runMix_leavesOthers (ran : world.runMix org = .ok (after, next)) :
    world.LeavesOthers org.advance next after := by
  obtain ⟨rfl, rfl⟩ | ⟨target, packet, surface, merged, changed, grid, -, -, -, rfl, rfl⟩ :=
    runMix_cases ran
  · exact ⟨{ Organism.Evolves.refl org.advance with }, rfl, fun _ => rfl⟩
  · exact ⟨{ Organism.Evolves.refl org.advance with }, rfl, fun _ => rfl⟩

end Alone

/-! ### Meals -/

/-- The organism of a slot eats all that another one has, and this one is gone. -/
structure Drains (slot victim : Nat) (world : World ρ) (org : Organism) (next : World ρ)
    (after : Organism) : Prop where
  other : victim ≠ slot
  taken : ∃ prey, world.pool.get? victim = some prey ∧ after.energy = org.energy + prey.energy
  evolves : org.Evolves (Drawn ρ) world.config after
  counted : 1 ≤ world.pool.size
  gone : next.censusDuring slot after =
    ((world.censusDuring slot org).dismiss victim).seat slot after

/-- What a line of the organism of a slot comes to for the others. -/
inductive Plays (slot : Nat) (world : World ρ) (org : Organism) (flow : Flow) (next : World ρ)
    (after : Organism) : Prop where
  | spares (goesOn : flow ≠ .stop)
      (deeds : (world.censusDuring slot org).Deeds (Drawn ρ) slot (next.censusDuring slot after))
  | drains (stops : flow = .stop) (victim : Nat) (drains : Drains slot victim world org next after)

variable {world next : World ρ} {org after : Organism} {slot : Nat} {flow : Flow}

theorem LeavesOthers.plays (leaves : world.LeavesOthers org next after) (goesOn : flow ≠ .stop) :
    Plays slot world org flow next after := .spares goesOn (leaves.deeds slot)

theorem LeavesOthers.lent (leaves : world.LeavesOthers org next after) {out : Option Nat}
    (lent : world.pool.LentOnly out) : next.pool.LentOnly out := leaves.pool ▸ lent

/-- Of all that the census shows, a burial changes the number of deaths alone. -/
theorem counts_of_bury (buried : world.bury org = .ok next) :
    ∃ totalEnergy grid surfaces source,
      next = { world with totalEnergy, grid, surfaces, source, deaths := world.deaths + 1 } := by
  cases bury_cases buried with
  | emptyHanded | homeless => exact ⟨_, _, world.surfaces, world.source, rfl⟩
  | carrying => exact ⟨_, _, _, _, rfl⟩

/-- Whoever is killed leaves, at rest or while another organism executes. -/
theorem dismiss_of_kill {victim : Nat} {done : Bool} {out : Option Nat}
    (lent : world.pool.LentOnly out) (killed : world.kill victim = .ok (done, next)) :
    (world.pool.get? victim = none ∧ next = world) ∨
      ∃ org, world.pool.get? victim = some org ∧ next.pool.LentOnly out ∧ 1 ≤ world.pool.size ∧
        next.census = world.census.dismiss victim ∧
        ∀ other resident, other ≠ victim →
          next.censusDuring other resident =
            (world.censusDuring other resident).dismiss victim := by
  rcases kill_cases killed with ⟨-, rfl, vacant⟩ | ⟨org, pool, -, removing, burying⟩
  · exact .inl ⟨vacant, rfl⟩
  · obtain ⟨live, ready, map, -⟩ := Pool.remove_eq_some lent removing
    obtain ⟨counted, size⟩ := Pool.size_of_remove removing
    obtain ⟨totalEnergy, grid, surfaces, source, rfl⟩ := counts_of_bury burying
    refine .inr ⟨org, live, ready, counted, ?_, fun other resident elsewhere => ?_⟩
    · simp only [census, censusWith, Census.dismiss, map, size]
    · simp only [censusDuring, censusWith, Census.dismiss, map, size]
      rw [Function.update_comm elsewhere]

/-- Energy moves from another organism to the one that eats; drained, the other one is
killed. -/
theorem eatOrganism_plays {victim : Nat} {amount : Int} (lent : world.pool.LentOnly (some slot))
    (nonneg : 0 ≤ amount) (ran : world.eatOrganism org victim amount = .ok (flow, after, next)) :
    Plays slot world org flow next after ∧ next.pool.LentOnly (some slot) := by
  cases eatOrganism_cases ran with
  | misses nobody =>
    have leaves : world.LeavesOthers org world { org with b := 0.0 } :=
      ⟨{ Organism.Evolves.refl org with }, rfl, fun _ => rfl⟩
    exact ⟨leaves.plays nofun, lent⟩
  | @bites prey caught less =>
    obtain ⟨elsewhere, resident⟩ := resident_of_get? lent caught org
    obtain ⟨ready, map, -⟩ :=
      Pool.update_of_get? lent caught { prey with energy := prey.energy - amount }
    refine ⟨.spares nofun ?_, ready⟩
    rw [← seat_censusDuring_pool elsewhere map rfl org]
    exact .single (.bite org _ prey victim amount (world.resident_censusDuring slot org)
      { Organism.Evolves.refl org with } elsewhere resident nonneg less)
  | @drains prey done _ caught all killing =>
    obtain ⟨elsewhere, -⟩ := resident_of_get? lent caught org
    obtain ⟨ready, map, -⟩ := Pool.update_of_get? lent caught { prey with energy := 0 }
    rcases dismiss_of_kill ready killing with ⟨vacant, -⟩ | ⟨dead, -, ready', counted, -, gone⟩
    · simp [map] at vacant
    refine ⟨.drains rfl victim ?_, ready'⟩
    refine
      { other := elsewhere
        taken := ⟨prey, caught, rfl⟩
        evolves := { Organism.Evolves.refl org with }
        counted
        gone := ?_ }
    -- What the victim had left when it was killed makes no difference.
    rw [gone slot _ elsewhere.symm, ← seat_censusDuring_pool elsewhere map rfl org,
      Census.dismiss_seat_of_ne _ elsewhere, Census.dismiss_seat]

/-- Only a meal of an organism concerns anybody else. -/
theorem eatAt_plays {target : Option Nat} (lent : world.pool.LentOnly (some slot))
    (ran : world.eatAt org target = .ok (flow, after, next)) :
    Plays slot world org flow next after ∧ next.pool.LentOnly (some slot) := by
  cases eatAt_cases ran with
  | nothing =>
    have leaves : world.LeavesOthers org world { org with b := 0.0 } :=
      ⟨{ Organism.Evolves.refl org with }, rfl, fun _ => rfl⟩
    exact ⟨leaves.plays nofun, lent⟩
  | terrain => exact ⟨(LeavesOthers.refl world org).plays nofun, lent⟩
  | organism pointed shown bitten =>
    exact eatOrganism_plays lent (Amount.magnitude_mem _).1 bitten
  | token pointed shown energy eaten =>
    obtain ⟨rfl, leaves⟩ := eatToken_leavesOthers eaten
    exact ⟨leaves.plays nofun, leaves.lent lent⟩

/-! ### Offspring -/

omit [DrawSource ρ] in
/-- Whoever is adopted is received, at rest or while another organism executes. Its
identity has been allocated before. -/
theorem receive_of_adopt {child : Organism} {fresh id : Nat} {out : Option Nat}
    (adopted : world.adopt child = .ok (some fresh, next)) (lent : world.pool.LentOnly out)
    (allocated : world.nextId = id + 1) :
    world.pool.get? fresh = none ∧ out ≠ some fresh ∧ next.pool.LentOnly out ∧
      next.census = { world with nextId := id }.census.receive fresh child ∧
      ∀ other resident, other ≠ fresh →
        next.censusDuring other resident =
          ({ world with nextId := id }.censusDuring other resident).receive fresh child := by
  obtain ⟨refused, -⟩ | ⟨taken, pool, answer, stored, rfl⟩ := adopt_cases adopted
  · cases refused
  · cases answer
    obtain ⟨ready, -, vacant, notOut, map, -⟩ := Pool.insert_eq_some lent stored
    have size := Pool.size_of_insert stored
    refine ⟨vacant, notOut, ready, ?_, fun other resident elsewhere => ?_⟩
    · simp only [census, censusWith, Census.receive, Census.seat, map, size, allocated]
      rfl
    · simp only [censusDuring, censusWith, Census.receive, Census.seat, map, size, allocated]
      rw [Function.update_comm elsewhere]
      rfl

theorem evolves_mutateClone (done : world.mutateClone org = .ok (after, next)) :
    org.Evolves (Drawn ρ) world.config after ∧ ∃ source, next = { world with source } := by
  obtain ⟨drawn, rfl | ⟨events, source, rest, mutated⟩⟩ := mutateClone_cases done
  · exact ⟨.refl after, drawn⟩
  · exact ⟨Organism.evolves_mutate mutated, drawn⟩

/-- A clone is crossed with an organism of the pool. -/
theorem evolves_crossClone (done : world.crossClone org = .ok (after, next)) :
    org.Evolves (fun word => ∃ slot donor, world.pool.get? slot = some donor ∧ word ∈ donor.code)
        world.config after ∧
      ∃ source, next = { world with source } := by
  obtain ⟨drawn, rfl | ⟨slot, donor, found, source, rest, live, crossed⟩⟩ := crossClone_cases done
  · exact ⟨.refl after, drawn⟩
  · refine ⟨(Organism.evolves_crossover crossed).mono ?_, drawn⟩
    intro word member
    exact ⟨slot, donor, live, member⟩

theorem bear_deeds {target : Nat} (lent : world.pool.LentOnly (some slot))
    (room : world.pool.isFull = false)
    (ran : world.bear org target = .ok (flow, after, next)) :
    flow ≠ .stop ∧
      (world.censusDuring slot org).Deeds (Drawn ρ) slot (next.censusDuring slot after) ∧
      next.pool.LentOnly (some slot) := by
  rcases bear_cases ran with ⟨-, rfl, rfl, rfl⟩ | ⟨-, rfl, bears⟩
  · exact ⟨by decide, .refl, lent⟩
  · obtain ⟨child, inserted, charged, mutated, crossing, adopted, rfl⟩ := bears
    obtain ⟨rfl, rfl⟩ := charge_eq_ok charged
    obtain ⟨mutation, source₁, rfl⟩ := evolves_mutateClone mutated
    obtain ⟨crossover, source₂, rfl⟩ := evolves_crossClone crossing
    cases inserted with
    | none =>
      -- With no room an identity would be lost.
      have full := adopt_eq_none adopted
      rw [room] at full
      cases full
    | some fresh =>
      dsimp only at adopted crossover
      obtain ⟨vacant, notOut, ready, -, shown⟩ := receive_of_adopt adopted lent rfl
      have elsewhere : slot ≠ fresh := fun same => notOut (congrArg some same)
      -- The donor of the crossover is in the pool, so it is a resident.
      have newborn : (world.censusDuring slot org).Newborn (Drawn ρ) (some org) child := by
        have endowed := Census.newborn_endow (Drawn ρ) (world.resident_censusDuring slot org)
          target (org.energy.tdiv 2)
        have mutated := endowed.evolve (mutation.mono fun word drawn => .inl drawn)
        refine mutated.evolve (crossover.mono ?_)
        rintro word ⟨other, donor, live, member⟩
        exact .inr ⟨other, donor, (resident_of_get? lent live org).2, member⟩
      refine ⟨by decide, ?_, ready⟩
      simp only [Option.isSome_some, if_true]
      rw [shown slot _ elsewhere]
      have bears : (world.censusDuring slot org).Deed (Drawn ρ) slot _ :=
        .bear org { org with energy := org.energy + -org.energy.tdiv 2, b := 1.0 } child fresh
          (world.resident_censusDuring slot org) { Organism.Evolves.refl org with }
          (by simpa [censusDuring, censusWith, elsewhere.symm] using vacant) newborn
      rw [← Census.receive_seat _ elsewhere, seat_censusDuring] at bears
      exact .single bears

/-- A clone is only born where there is room for it in the pool. -/
theorem runClone_deeds (lent : world.pool.LentOnly (some slot))
    (ran : world.runClone org = .ok (flow, after, next)) :
    flow ≠ .stop ∧
      (world.censusDuring slot { org.advance with b := 0.0 }).Deeds (Drawn ρ) slot
        (next.censusDuring slot after) ∧
      next.pool.LentOnly (some slot) := by
  rcases runClone_cases ran with ⟨rfl, rfl, rfl⟩ | ⟨target, room, -, -, -, bearing⟩
  · exact ⟨by decide, .refl, lent⟩
  · exact bear_deeds lent room bearing

/-! ### Lines -/

/-- The organism may have evolved before, on its way to the next line. -/
theorem Plays.of_evolves {before : Organism} (plays : Plays slot world before flow next after)
    (evolves : org.Evolves (Drawn ρ) world.config before) (energy : before.energy = org.energy) :
    Plays slot world org flow next after := by
  have first : world.LeavesOthers org world before := ⟨evolves, rfl, fun _ => rfl⟩
  cases plays with
  | spares goesOn deeds => exact .spares goesOn ((first.deeds slot).trans deeds)
  | drains stops victim drains =>
    refine .drains stops victim
      { drains with
        taken := energy ▸ drains.taken
        evolves := evolves.trans drains.evolves
        gone := ?_ }
    rw [drains.gone, first.censusDuring slot, Census.dismiss_seat_of_ne _ drains.other,
      Census.seat_seat]

theorem runSee_leavesOthers (world : World ρ) (org : Organism) :
    world.LeavesOthers org.advance world (world.runSee org) := by
  unfold runSee
  exact ⟨org.advance.evolves_setD _, rfl, fun _ => rfl⟩

theorem advance_leavesOthers (world : World ρ) (org : Organism) :
    world.LeavesOthers org world org.advance :=
  ⟨{ Organism.Evolves.refl org with }, rfl, fun _ => rfl⟩

/-- A line concerns nobody else, or it is a meal or a clone. -/
theorem executeLine_concerns (executed : world.executeLine slot org = .ok (flow, after, next)) :
    (flow ≠ .stop ∧ world.LeavesOthers org next after) ∨
      (org.fetch = some (.op .eat) ∧
        world.eatAt org.advance (world.targetOf org.advance) = .ok (flow, after, next)) ∨
      (org.fetch = some (.op .clone) ∧ world.runClone org = .ok (flow, after, next)) := by
  have advanced := world.advance_leavesOthers org
  cases executeLine_cases executed with
  | leaves behind => exact .inl ⟨by decide, org.evolves_leaveCode, rfl, fun _ => rfl⟩
  | loads value fetched =>
    exact .inl ⟨by decide, { Organism.Evolves.refl org with }, rfl, fun _ => rfl⟩
  | passes word fetched => exact .inl ⟨by decide, advanced⟩
  | steps fetched ran =>
    obtain ⟨goesOn, leaves⟩ := runStep_leavesOthers ran
    exact .inl ⟨goesOn, advanced.trans leaves⟩
  | eats fetched ran => exact .inr (.inl ⟨fetched, ran⟩)
  | clones fetched ran => exact .inr (.inr ⟨fetched, ran⟩)
  | sees fetched => exact .inl ⟨by decide, advanced.trans (world.runSee_leavesOthers org)⟩
  | draws number source fetched =>
    exact .inl ⟨by decide, { Organism.Evolves.refl org with }, rfl, fun _ => rfl⟩
  | gets fetched ran => exact .inl ⟨by decide, advanced.trans (runGet_leavesOthers ran)⟩
  | puts fetched ran => exact .inl ⟨by decide, advanced.trans (putAt_leavesOthers ran)⟩
  | mixes fetched ran => exact .inl ⟨by decide, advanced.trans (runMix_leavesOthers ran)⟩
  | computes opcode fetched ran =>
    exact .inl ⟨by decide, Organism.evolves_execute fetched ran, rfl, fun _ => rfl⟩

theorem executeLine_plays (lent : world.pool.LentOnly (some slot))
    (executed : world.executeLine slot org = .ok (flow, after, next)) :
    Plays slot world org flow next after ∧ next.pool.LentOnly (some slot) := by
  rcases executeLine_concerns executed with ⟨goesOn, leaves⟩ | ⟨-, fed⟩ | ⟨-, cloned⟩
  · exact ⟨leaves.plays goesOn, leaves.lent lent⟩
  · obtain ⟨plays, ready⟩ := eatAt_plays lent fed
    exact ⟨plays.of_evolves { Organism.Evolves.refl org with } rfl, ready⟩
  · obtain ⟨goesOn, deeds, ready⟩ := runClone_deeds lent cloned
    exact ⟨(Plays.spares goesOn deeds).of_evolves { Organism.Evolves.refl org with } rfl, ready⟩

/-- Only a meal ends a slice. -/
theorem eats_of_stop (lent : world.pool.LentOnly (some slot))
    (executed : world.executeLine slot org = .ok (.stop, after, next)) :
    org.fetch = some (.op .eat) := by
  rcases executeLine_concerns executed with ⟨goesOn, -⟩ | ⟨fetched, -⟩ | ⟨-, cloned⟩
  · exact absurd rfl goesOn
  · exact fetched
  · exact absurd rfl (runClone_deeds lent cloned).1

/-! ### Slices -/

/-- So many lines, after each of which the slice goes on. -/
inductive Passes (slot : Nat) : (lines : Nat) → World ρ → Organism → World ρ → Organism → Prop where
  | refl (world : World ρ) (org : Organism) : Passes slot 0 world org world org
  | line {lines : Nat} {world between next : World ρ} {org middle after : Organism}
      (executed : world.executeLine slot org = .ok (.next, middle, between))
      (rest : Passes slot lines between middle next after) :
      Passes slot (lines + 1) world org next after

/-- A slice passes all of its lines, or its last line ends it before. -/
theorem executeLines_cases {lines : Nat} {fate : Fate}
    (ran : executeLines slot lines org world = .ok (fate, after, next)) :
    (fate = .alive ∧ Passes slot lines world org next after) ∨
      ∃ (passed : Nat) (between : World ρ) (middle : Organism) (flow : Flow),
        passed < lines ∧ Passes slot passed world org between middle ∧
        between.executeLine slot middle = .ok (flow, after, next) ∧
        (flow = .stop ∧ fate = .alive ∨ flow = .die ∧ fate = .dead) := by
  induction lines generalizing org world with
  | zero =>
    cases ran
    exact .inl ⟨rfl, .refl _ _⟩
  | succ lines ih =>
    simp only [executeLines] at ran
    obtain ⟨⟨flow, moved, world'⟩, line, ran⟩ := (bind_eq_ok_iff _ _ _).mp ran
    cases flow with
    | next =>
      rcases ih ran with ⟨lives, passes⟩ | ⟨passed, between, middle, flow, few, passes, last⟩
      · exact .inl ⟨lives, .line line passes⟩
      · exact .inr ⟨passed + 1, between, middle, flow, by omega, .line line passes, last⟩
    | stop =>
      cases ran
      exact .inr ⟨0, world, org, .stop, by omega, .refl world org, line, .inl ⟨rfl, rfl⟩⟩
    | die =>
      cases ran
      exact .inr ⟨0, world, org, .die, by omega, .refl world org, line, .inr ⟨rfl, rfl⟩⟩

/-- Lines after which the slice goes on drain nobody. -/
theorem Passes.deeds {lines : Nat} (passes : Passes slot lines world org next after)
    (lent : world.pool.LentOnly (some slot)) :
    (world.censusDuring slot org).Deeds (Drawn ρ) slot (next.censusDuring slot after) ∧
      next.pool.LentOnly (some slot) := by
  induction passes with
  | refl => exact ⟨.refl, lent⟩
  | line executed rest ih =>
    obtain ⟨plays, ready⟩ := executeLine_plays lent executed
    obtain ⟨later, lent'⟩ := ih ready
    cases plays with
    | spares goesOn deeds => exact ⟨deeds.trans later, lent'⟩
    | drains stops => cases stops

/-- A slice does nothing but deeds, and one that ends early for a meal has drained one
organism with its last line. -/
theorem executeLines_plays {lines : Nat} {fate : Fate} (lent : world.pool.LentOnly (some slot))
    (ran : executeLines slot lines org world = .ok (fate, after, next)) :
    next.pool.LentOnly (some slot) ∧
      ((world.censusDuring slot org).Deeds (Drawn ρ) slot (next.censusDuring slot after) ∨
        fate = .alive ∧ ∃ (passed : Nat) (between : World ρ) (eater : Organism) (victim : Nat),
          passed < lines ∧ Passes slot passed world org between eater ∧
          eater.fetch = some (.op .eat) ∧
          between.executeLine slot eater = .ok (.stop, after, next) ∧
          Drains slot victim between eater next after) := by
  rcases executeLines_cases ran with
    ⟨-, passes⟩ | ⟨passed, between, middle, flow, few, passes, line, ends⟩
  · obtain ⟨deeds, ready⟩ := passes.deeds lent
    exact ⟨ready, .inl deeds⟩
  · obtain ⟨early, ready⟩ := passes.deeds lent
    obtain ⟨plays, lent'⟩ := executeLine_plays ready line
    refine ⟨lent', ?_⟩
    cases plays with
    | spares goesOn deeds => exact .inl (early.trans deeds)
    | drains stops victim drains =>
      subst stops
      have lives : fate = .alive := by
        rcases ends with ⟨-, lives⟩ | ⟨dies, -⟩
        · exact lives
        · cases dies
      exact .inr ⟨lives, passed, between, middle, victim, few, passes, eats_of_stop ready line,
        line, drains⟩

end World

end Vivarium
