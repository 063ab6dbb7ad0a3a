import Vivarium.Proofs.Cataclysm
import Vivarium.Proofs.Genealogy
import Vivarium.Proofs.Persistence

/-!
# One slice and one year per iteration

An iteration gives each slot one turn, in the order of the slots, and the organism found there
executes one slice and lives through one year. Organisms never change slots and identities are
given out once, so nobody has a second turn, although slots before and behind the one visited
are emptied and filled meanwhile: whoever comes is new, and has its first turn if its slot comes
later, or none.

How many years go by is counted slot by slot. Over a turn it is one for the slot visited and none
for the others, and over successive turns these counts add up.

## Main result

- `World.step_ages`: over an iteration everybody who stays ages by one year and nobody executes
  two slices; where organisms die of age, none is older than that.
-/
namespace Vivarium

namespace Census

variable {words : Int → Prop} {census between next : Census} {slot : Nat}
  {org after : Organism}

/-! ### Identities -/

/-- Whoever is there now was in its slot before, or has an identity given out since. -/
structure Follows (census next : Census) : Prop where
  nextId : census.nextId ≤ next.nextId
  residents : ∀ slot after, next.residents slot = some after →
    (∃ org, census.residents slot = some org ∧ after.id = org.id) ∨ census.nextId ≤ after.id

namespace Follows

theorem refl (census : Census) : census.Follows census :=
  ⟨Nat.le_refl _, fun _ after lives => .inl ⟨after, lives, rfl⟩⟩

theorem trans (first : census.Follows between) (rest : between.Follows next) :
    census.Follows next where
  nextId := Nat.le_trans first.nextId rest.nextId
  residents := by
    intro slot after lives
    rcases rest.residents slot after lives with ⟨middle, lived, same⟩ | new
    · rw [same]
      exact first.residents slot middle lived
    · exact .inr (Nat.le_trans first.nextId new)

end Follows

theorem Quiet.follows (quiet : census.Quiet next) : census.Follows next where
  nextId := Nat.le_of_eq quiet.nextId.symm
  residents := by
    intro slot after stays
    obtain ⟨org, lived, id, -⟩ := quiet.stayed slot after stays
    exact .inl ⟨org, lived, id⟩

theorem Newborn.follows {bearer : Option Organism}
    (newborn : census.Newborn words bearer org) (slot : Nat) :
    census.Follows (census.receive slot org) where
  nextId := Nat.le_succ _
  residents := by
    intro other after
    simp only [receive, seat, Function.update_apply]
    split
    · rintro ⟨⟩
      exact .inr (Nat.le_of_eq newborn.identity.symm)
    · exact fun lives => .inl ⟨after, lives, rfl⟩

theorem Moves.follows (moves : census.Moves words next) : census.Follows next := by
  refine moves.preserve census.Follows (fun move follows => follows.trans ?_) (.refl census)
  rcases move.quiet_or_birth with quiet | ⟨slot, org, birth⟩
  · exact quiet.follows
  · obtain ⟨bearer, newborn, -⟩ := birth.newborn
    exact (newborn.follows slot).trans birth.quiet.follows

/-- All identities have been given out, each to one resident at most. -/
structure Numbered (census : Census) : Prop where
  below : ∀ slot org, census.residents slot = some org → org.id < census.nextId
  apart : ∀ slot other org twin, census.residents slot = some org →
    census.residents other = some twin → org.id = twin.id → slot = other

namespace Numbered

theorem vacant (config : Config) (recording : Bool) :
    (Census.vacant config recording).Numbered where
  below := fun _ _ nobody => nomatch nobody
  apart := fun _ _ _ _ nobody => nomatch nobody

/-- Whoever stays keeps its identity. -/
theorem stay (numbered : census.Numbered) (nextId : census.nextId ≤ next.nextId)
    (stayed : ∀ slot after, next.residents slot = some after →
      ∃ org, census.residents slot = some org ∧ after.id = org.id) : next.Numbered where
  below := by
    intro slot after stays
    obtain ⟨org, lived, id⟩ := stayed slot after stays
    rw [id]
    exact Nat.lt_of_lt_of_le (numbered.below slot org lived) nextId
  apart := by
    intro slot other after twin stays stays' same
    obtain ⟨org, lived, id⟩ := stayed slot after stays
    obtain ⟨org', lived', id'⟩ := stayed other twin stays'
    rw [id, id'] at same
    exact numbered.apart slot other org org' lived lived' same

theorem quiet (numbered : census.Numbered) (quiet : census.Quiet next) : next.Numbered := by
  refine numbered.stay (Nat.le_of_eq quiet.nextId.symm) fun slot after stays => ?_
  obtain ⟨org, lived, id, -⟩ := quiet.stayed slot after stays
  exact ⟨org, lived, id⟩

theorem receive {bearer : Option Organism} (numbered : census.Numbered)
    (newborn : census.Newborn words bearer org) (slot : Nat) :
    (census.receive slot org).Numbered := by
  have unused : ∀ other old, census.residents other = some old → old.id ≠ org.id := by
    intro other old lives
    have below := numbered.below other old lives
    have identity := newborn.identity
    omega
  constructor
  · intro other after
    simp only [Census.receive, seat, Function.update_apply]
    split
    · rintro ⟨⟩
      exact Nat.lt_succ_of_le (Nat.le_of_eq newborn.identity)
    · exact fun lives => Nat.lt_succ_of_lt (numbered.below other after lives)
  · intro other other' old twin
    simp only [Census.receive, seat, Function.update_apply]
    split <;> split
    next here here' => exact fun _ _ _ => here.trans here'.symm
    next =>
      rintro ⟨⟩ lives same
      exact absurd same.symm (unused other' twin lives)
    next =>
      rintro lives ⟨⟩ same
      exact absurd same (unused other old lives)
    next => exact numbered.apart other other' old twin

end Numbered

theorem Moves.numbered (moves : census.Moves words next) (numbered : census.Numbered) :
    next.Numbered := by
  refine moves.preserve Numbered (fun move before => ?_) numbered
  rcases move.quiet_or_birth with quiet | ⟨slot, org, birth⟩
  · exact before.quiet quiet
  · obtain ⟨bearer, newborn, -⟩ := birth.newborn
    exact (before.receive newborn slot).quiet birth.quiet

/-! ### Years -/

/-- Whoever was in its slot before is so many years older now, and nobody else there is older
than that. -/
structure Elapses (years : Nat → Nat) (census next : Census) : Prop where
  nextId : census.nextId ≤ next.nextId
  residents : ∀ slot after, next.residents slot = some after →
    (∃ org, census.residents slot = some org ∧ after.id = org.id ∧
      after.age = org.age + years slot) ∨
    census.nextId ≤ after.id ∧ after.age ≤ years slot

namespace Elapses

variable {years more : Nat → Nat}

/-- The same organisms are there, or some of them. -/
theorem of_same (nextId : census.nextId ≤ next.nextId)
    (residents : ∀ slot after, next.residents slot = some after →
      census.residents slot = some after) :
    census.Elapses 0 next :=
  ⟨nextId, fun slot after lives => .inl ⟨after, residents slot after lives, rfl, rfl⟩⟩

theorem refl (census : Census) : census.Elapses 0 census :=
  of_same (Nat.le_refl _) fun _ _ lives => lives

theorem trans (first : census.Elapses years between) (rest : between.Elapses more next) :
    census.Elapses (years + more) next where
  nextId := Nat.le_trans first.nextId rest.nextId
  residents := by
    intro slot after lives
    simp only [Pi.add_apply]
    rcases rest.residents slot after lives with ⟨middle, lived, same, age⟩ | ⟨new, age⟩
    · rcases first.residents slot middle lived with ⟨org, was, same', age'⟩ | ⟨new, age'⟩
      · exact .inl ⟨org, was, same.trans same', by omega⟩
      · exact .inr ⟨same ▸ new, by omega⟩
    · exact .inr ⟨Nat.le_trans first.nextId new, by omega⟩

/-- Nobody grows older while no year goes by. -/
theorem still (first : census.Elapses years between) (rest : between.Elapses 0 next) :
    census.Elapses years next := first.trans rest

theorem dismiss (census : Census) (slot : Nat) : census.Elapses 0 (census.dismiss slot) := by
  refine of_same (Nat.le_refl _) fun other after => ?_
  simp only [Census.dismiss, Function.update_apply]
  split
  next => rintro ⟨⟩
  next => exact fun lives => lives

/-- A year goes by for the organism of a slot, or it does not. -/
theorem seat {year : Nat} (resident : census.residents slot = some org) (id : after.id = org.id)
    (age : after.age = org.age + year) :
    census.Elapses (Function.update 0 slot year) (census.seat slot after) where
  nextId := Nat.le_refl _
  residents := by
    intro other seated
    simp only [Census.seat, Function.update_apply]
    split
    next here =>
      rintro ⟨⟩
      exact .inl ⟨org, here ▸ resident, id, age⟩
    next => exact fun lives => .inl ⟨seated, lives, rfl, rfl⟩

/-- Of a slot where nobody is there is nothing to say. -/
theorem vacant (elapses : census.Elapses years next) (vacant : next.residents slot = none)
    (year : Nat) : census.Elapses (Function.update years slot year) next where
  nextId := elapses.nextId
  residents := by
    intro other after lives
    have elsewhere : other ≠ slot := by
      rintro rfl
      rw [vacant] at lives
      cases lives
    simp only [Function.update_of_ne elsewhere]
    exact elapses.residents other after lives

end Elapses

end Census

namespace World

open Mutation (Drawn)

variable {ρ : Type} [DrawSource ρ] {world next : World ρ} {org after : Organism} {slot : Nat}

/-! ### Slices -/

/-- A line makes nobody older, and whoever it brings in has not lived yet. -/
theorem executeLine_elapses {flow : Flow} (lent : world.pool.LentOnly (some slot))
    (ran : world.executeLine slot org = .ok (flow, after, next)) :
    (world.censusDuring slot org).Elapses 0 (next.censusDuring slot after) ∧
      next.pool.LentOnly (some slot) := by
  have persists := executeLine_persists ran
  have acting := world.resident_censusDuring slot org
  obtain ⟨plays, ready⟩ := executeLine_plays lent ran
  refine ⟨?_, ready⟩
  cases plays with
  -- The prey is gone, and who has eaten it is as old as before.
  | drains stops victim drains =>
    rw [drains.gone]
    have eats : ((world.censusDuring slot org).dismiss victim).residents slot = some org := by
      simpa only [Census.dismiss, Function.update_of_ne drains.other.symm] using acting
    have fed : ((world.censusDuring slot org).dismiss victim).Elapses (Function.update 0 slot 0)
        (((world.censusDuring slot org).dismiss victim).seat slot after) :=
      .seat eats persists.id persists.age
    have meal := (Census.Elapses.dismiss (world.censusDuring slot org) victim).trans fed
    simpa using meal
  | spares goesOn deeds =>
    have follows := deeds.changes.moves.follows
    refine ⟨follows.nextId, fun other later lives => ?_⟩
    by_cases here : other = slot
    · subst here
      rw [resident_censusDuring] at lives
      cases lives
      exact .inl ⟨org, acting, persists.id, persists.age⟩
    -- Of the others, the line changes one at most.
    have stays : ∀ {resident}, world.pool.get? other = some resident →
        (world.censusDuring slot org).residents other = some resident := by
      intro resident live
      simpa only [censusDuring, censusWith, Function.update_of_ne here] using live
    have live : next.pool.get? other = some later := by
      simpa only [censusDuring, censusWith, Function.update_of_ne here] using lives
    cases executeLine_touches ran goesOn with
    | spares same =>
      rw [same] at live
      exact .inl ⟨later, stays live, rfl, rfl⟩
    | bites victim prey energy caught bitten =>
      obtain ⟨-, map, -⟩ := Pool.update_of_get? lent caught { prey with energy }
      rw [bitten, map, Function.update_apply] at live
      split at live
      next same =>
        subst same
        cases live
        exact .inl ⟨prey, stays caught, rfl, rfl⟩
      next => exact .inl ⟨later, stays live, rfl, rfl⟩
    | bears child fresh begets adopts =>
      obtain ⟨-, -, free, -, map, -⟩ := Pool.insert_eq_some lent adopts.inserted
      rw [map, Function.update_apply] at live
      split at live
      next same =>
        subst same
        cases live
        -- The slot was free, so whoever is in it now has a new identity.
        rcases follows.residents other later lives with ⟨old, lived, -⟩ | new
        · simp only [censusDuring, censusWith, Function.update_of_ne here] at lived
          rw [free] at lived
          cases lived
        · exact .inr ⟨new, Nat.le_of_eq begets.age⟩
      next => exact .inl ⟨later, stays live, rfl, rfl⟩

theorem Passes.elapses {lines : Nat} (passes : Passes slot lines world org next after)
    (lent : world.pool.LentOnly (some slot)) :
    (world.censusDuring slot org).Elapses 0 (next.censusDuring slot after) ∧
      next.pool.LentOnly (some slot) := by
  induction passes with
  | refl world org => exact ⟨.refl _, lent⟩
  | line executed rest ih =>
    obtain ⟨first, ready⟩ := executeLine_elapses lent executed
    obtain ⟨later, lent'⟩ := ih ready
    exact ⟨first.still later, lent'⟩

theorem executeLines_elapses {lines : Nat} {fate : Fate} (lent : world.pool.LentOnly (some slot))
    (ran : executeLines slot lines org world = .ok (fate, after, next)) :
    (world.censusDuring slot org).Elapses 0 (next.censusDuring slot after) ∧
      next.pool.LentOnly (some slot) := by
  rcases executeLines_cases ran with
    ⟨-, passes⟩ | ⟨passed, between, middle, flow, -, passes, last, -⟩
  · exact passes.elapses lent
  · obtain ⟨early, ready⟩ := passes.elapses lent
    obtain ⟨late, lent'⟩ := executeLine_elapses ready last
    exact ⟨early.still late, lent'⟩

/-! ### Turns -/

/-- Whoever dies is not in its slot any more. -/
theorem vacant_of_settle (lent : world.pool.LentOnly (some slot))
    (settled : world.settle slot org .dead = .ok next) : next.pool.get? slot = none := by
  obtain ⟨buried, burying, settled⟩ := (bind_eq_ok_iff _ _ _).mp settled
  obtain ⟨pool, released, answer⟩ := (bind_eq_ok_iff _ _ _).mp settled
  cases answer
  rw [← pool_of_bury burying] at lent
  obtain ⟨-, map, -⟩ := Pool.release_of_lent lent released
  simp only [map, Function.update_self]

theorem elapses_of_settle {first : Census} {years : Nat → Nat} {fate : Fate}
    (elapses : first.Elapses years (world.censusDuring slot org))
    (lent : world.pool.LentOnly (some slot)) (settled : world.settle slot org fate = .ok next) :
    first.Elapses years next.census := by
  obtain ⟨-, stays | ⟨-, leaves⟩⟩ := census_of_settle lent settled
  · exact stays ▸ elapses
  · rw [leaves]
    exact elapses.still (.dismiss _ slot)

/-- The year after a slice: the organism is back in its slot and a year older, or it is gone. -/
theorem year_elapses {fate fate' : Fate} {between settled : World ρ} {aged : Organism}
    (lent : world.pool.LentOnly (some slot))
    (year : world.ageSurvivor org fate = .ok (fate', aged, between))
    (settling : between.settle slot aged fate' = .ok settled) :
    (world.censusDuring slot org).Elapses (Function.update 0 slot 1) settled.census ∧
      settled.pool.LentOnly none := by
  have acting := world.resident_censusDuring slot org
  have leaves := ageSurvivor_leavesOthers year
  have ready : between.pool.LentOnly (some slot) := leaves.lent lent
  refine ⟨?_, (census_of_settle ready settling).1⟩
  cases fate' with
  | alive =>
    have survives : aged.id = org.id ∧ aged.age = org.age + 1 := by
      cases fate with
      | alive =>
        obtain ⟨id, ⟨-, -, age⟩ | ⟨dies, -⟩⟩ := ageOrganism_ages year
        · exact ⟨id, age⟩
        · cases dies
      | dead => cases year
    refine elapses_of_settle ?_ ready settling
    rw [leaves.censusDuring slot]
    exact .seat acting survives.1 survives.2
  | dead =>
    -- What the dead one has become does not matter, since it leaves.
    have gone : settled.census.residents slot = none := vacant_of_settle ready settling
    obtain ⟨-, stays | ⟨-, left⟩⟩ := census_of_settle ready settling
    · rw [stays, resident_censusDuring] at gone
      cases gone
    · rw [left, leaves.censusDuring slot, Census.dismiss_seat] at gone ⊢
      exact (Census.Elapses.dismiss _ slot).vacant gone 1

/-- A turn takes a year in the slot visited. -/
theorem visit_elapses (lent : world.pool.LentOnly none) (visited : world.visit slot = .ok next) :
    world.census.Elapses (Function.update 0 slot 1) next.census := by
  rcases visit_cases visited with ⟨nobody, rfl⟩ | ⟨org, -, turn⟩
  · exact (Census.Elapses.refl _).vacant nobody 1
  · obtain ⟨settled, linesGranted, taken, slice, year, settling, -, dropping, ticking⟩ := turn
    obtain ⟨-, out, started⟩ := census_of_take lent taken
    obtain ⟨executed, out'⟩ := executeLines_elapses out slice
    obtain ⟨year, back⟩ := year_elapses out' year settling
    have lived := executed.trans year
    rw [started, zero_add] at lived
    -- Nobody notices what the world drops and moves afterwards.
    obtain ⟨surfaces, grid, source, rfl⟩ := replenish_eq_ok dropping
    obtain ⟨surfaces', grid', source', rfl⟩ := tickSurfaces_eq_ok ticking
    exact lived

/-- Each slot visited has one turn, and none comes back to a slot. -/
theorem visitFrom_elapses {remaining : Nat} (lent : world.pool.LentOnly none)
    (visited : visitFrom remaining slot world = .ok next) :
    world.census.Elapses (fun other => if slot ≤ other ∧ other < slot + remaining then 1 else 0)
      next.census := by
  induction remaining generalizing slot world with
  | zero =>
    cases visited
    have nowhere : (fun other => if slot ≤ other ∧ other < slot + 0 then 1 else 0) = 0 := by
      funext other
      exact if_neg (by omega)
    rw [nowhere]
    exact .refl _
  | succ remaining ih =>
    -- A year in this slot, and then one in each of those behind it.
    obtain ⟨between, first, rest⟩ := (bind_eq_ok_iff _ _ _).mp visited
    have turn := visit_elapses lent first
    have turns := turn.trans (ih (visit_alters lent first).lent rest)
    have years : (Function.update (0 : Nat → Nat) slot 1 +
        fun other => if slot + 1 ≤ other ∧ other < slot + 1 + remaining then 1 else 0) =
        fun other => if slot ≤ other ∧ other < slot + (remaining + 1) then 1 else 0 := by
      funext other
      simp only [Pi.add_apply, Function.update_apply, Pi.zero_apply]
      split_ifs <;> omega
    rwa [years] at turns

/-! ### Iterations -/

omit [DrawSource ρ] in
/-- A cataclysm takes no time. -/
theorem Turnover.elapses {first last : Nat} {replaced lost : Finset Nat}
    (turnover : Turnover first last replaced lost world next) :
    world.census.Elapses 0 next.census where
  nextId := turnover.nextId
  residents := by
    intro slot after lives
    have live : next.pool.get? slot = some after := lives
    by_cases renewed : slot ∈ replaced
    · obtain ⟨-, fresh, new, id, offset, energy, code, later, rfl⟩ := turnover.renewed slot renewed
      rw [new] at live
      cases live
      exact .inr ⟨later, Nat.le_refl _⟩
    · by_cases gone : slot ∈ lost
      · rw [(turnover.vacated slot gone).2] at live
        cases live
      · rw [turnover.others slot renewed gone] at live
        exact .inl ⟨after, live, rfl, rfl⟩

/-- An iteration takes a year in each slot. -/
theorem step_elapses {report : StepReport} (lent : world.pool.LentOnly none)
    (stepped : world.step = .ok (report, next)) :
    world.census.Elapses (fun slot => if slot < world.pool.capacity then 1 else 0)
      next.census := by
  obtain ⟨visited, turns, stepped⟩ := (bind_eq_ok_iff _ _ _).mp stepped
  obtain ⟨phase, -, stepped⟩ := (bind_eq_ok_iff _ _ _).mp stepped
  -- All years go by in the turns; what follows them only replaces organisms.
  have opened : ({ world with births := 0, deaths := 0 } : World ρ).pool.LentOnly none := lent
  have played := visitFrom_elapses opened turns
  simp only [Nat.zero_le, true_and, Nat.zero_add] at played
  have back := (visitFrom_alters opened turns).lent
  simp only at stepped
  split at stepped
  · obtain ⟨⟨replaced, last⟩, updating, stepped⟩ := (bind_eq_ok_iff _ _ _).mp stepped
    obtain ⟨iteration, -, answer⟩ := (bind_eq_ok_iff _ _ _).mp stepped
    cases answer
    obtain ⟨fresh, lost, turnover, -⟩ := turnover_of_updateCataclysm back updating
    have lived := played.still turnover.elapses
    exact ⟨lived.nextId, lived.residents⟩
  · obtain ⟨last, same, stepped⟩ := (bind_eq_ok_iff _ _ _).mp stepped
    cases same
    obtain ⟨iteration, -, answer⟩ := (bind_eq_ok_iff _ _ _).mp stepped
    cases answer
    exact ⟨played.nextId, played.residents⟩

/-! ### Who executes -/

/-- The organisms that execute their slice in so many turns from a slot on, in this order; a turn
that faults is the last one. -/
def executants : (remaining slot : Nat) → World ρ → List Organism
  | 0, _, _ => []
  | remaining + 1, slot, world =>
    (world.pool.get? slot).toList ++
      match world.visit slot with
      | .ok next => executants remaining (slot + 1) next
      | .error _ => []

/-- Whoever executes was in a slot that had still to be visited, or is new. -/
theorem id_of_executants {remaining : Nat} (lent : world.pool.LentOnly none)
    (executes : org ∈ executants remaining slot world) :
    (∃ other before, slot ≤ other ∧ world.pool.get? other = some before ∧ org.id = before.id) ∨
      world.nextId ≤ org.id := by
  induction remaining generalizing slot world with
  | zero => cases executes
  | succ remaining ih =>
    rcases List.mem_append.mp executes with now | later
    · exact .inl ⟨slot, org, Nat.le_refl _, Option.mem_toList.mp now, rfl⟩
    · -- Whoever executes later was behind this slot all the time, or has come with this turn.
      split at later
      next next visited =>
        have turn := visit_alters lent visited
        have follows := turn.changes.moves.follows
        rcases ih turn.lent later with ⟨other, before, behind, live, same⟩ | new
        · rw [same]
          rcases follows.residents other before live with ⟨old, lived, id⟩ | new
          · exact .inl ⟨other, old, by omega, lived, id⟩
          · exact .inr new
        · exact .inr (Nat.le_trans follows.nextId new)
      next => cases later

/-- Nobody has a second turn. -/
theorem nodup_executants {remaining : Nat} (lent : world.pool.LentOnly none)
    (numbered : world.census.Numbered) :
    ((executants remaining slot world).map Organism.id).Nodup := by
  induction remaining generalizing slot world with
  | zero => exact List.nodup_nil
  | succ remaining ih =>
    simp only [executants]
    cases visited : world.visit slot with
    | error => cases world.pool.get? slot <;> simp
    | ok next =>
      have turn := visit_alters lent visited
      have later : ((executants remaining (slot + 1) next).map Organism.id).Nodup :=
        ih turn.lent (turn.changes.moves.numbered numbered)
      cases live : world.pool.get? slot with
      | none => exact later
      | some org =>
        refine List.nodup_cons.mpr ⟨fun again => ?_, later⟩
        obtain ⟨twin, executes, same⟩ := List.mem_map.mp again
        have follows := turn.changes.moves.follows
        have below := numbered.below slot org live
        rcases id_of_executants turn.lent executes with ⟨other, before, behind, lives, id⟩ | new
        · -- Whoever is in a slot behind this one was there all the time, or has just come.
          rcases follows.residents other before lives with ⟨old, lived, id'⟩ | new
          · have here := numbered.apart slot other org old live lived (by omega)
            omega
          · omega
        · have grown := follows.nextId
          have nextId : world.census.nextId = world.nextId := rfl
          have nextId' : next.census.nextId = next.nextId := rfl
          omega

/-! ### Worlds with an owner -/

/-- A world whose owner leaves each organism its identity: created with an accepted configuration,
then called, observed, and changed at will in its organisms otherwise, in any order. -/
inductive Kept (config : Config) : World ρ → Prop where
  | created (source : ρ) (recording : Bool) (start : World ρ)
      (created : create config source recording = .ok (.ok start)) : Kept config start
  | called (world next : World ρ) (call : Call) (before : Kept config world)
      (performed : world.perform call = .ok next) : Kept config next
  | watched (world : World ρ) (before : Kept config world) : Kept config world.watch
  | recorded (world : World ρ) (before : Kept config world) : Kept config world.record
  | viewed (world : World ρ) (before : Kept config world) : Kept config world.drainView.2
  | traced (world : World ρ) (before : Kept config world) : Kept config world.drainLineage.2
  | edited (world : World ρ) (slot : Nat) (org after : Organism) (before : Kept config world)
      (live : world.pool.get? slot = some org) (same : after.id = org.id) :
      Kept config { world with pool := world.pool.update slot after }

theorem Kept.numbered {config : Config} (kept : world.Kept config) :
    world.pool.LentOnly none ∧ world.census.Numbered := by
  induction kept with
  | created source recording start created =>
    obtain ⟨moves, lent⟩ := create_proceeds created
    exact ⟨lent, moves.numbered (.vacant config recording)⟩
  | called world next call before performed ih =>
    have proceeds := perform_proceeds ih.1 performed
    exact ⟨proceeds.lent, proceeds.moves.numbered ih.2⟩
  | watched world before ih | recorded world before ih => exact ⟨ih.1, ih.2.below, ih.2.apart⟩
  | viewed world before ih => exact ⟨ih.1, ih.2.below, ih.2.apart⟩
  | traced world before ih =>
    unfold drainLineage
    split
    · exact ih
    · exact ⟨ih.1, ih.2.below, ih.2.apart⟩
  | edited world slot org after before live same ih =>
    obtain ⟨lent, map, -⟩ := Pool.update_of_get? ih.1 live after
    refine ⟨lent, ih.2.stay (Nat.le_refl _) fun other resident lives => ?_⟩
    simp only [census, censusWith, map, Function.update_apply] at lives
    split at lives
    next here =>
      cases lives
      exact ⟨org, here ▸ live, same⟩
    next => exact ⟨resident, lives, rfl⟩

theorem Kept.performAll {config : Config} {calls : List Call} (kept : world.Kept config)
    (performed : performAll calls world = .ok next) : next.Kept config := by
  induction calls generalizing world with
  | nil =>
    cases performed
    exact kept
  | cons call rest ih =>
    obtain ⟨between, first, performed⟩ := (bind_eq_ok_iff _ _ _).mp performed
    exact ih (.called world between call kept first) performed

/-! ### Death of age -/

/-- Where organisms die of age, none is older than that: at that age it does not survive another
year. -/
theorem lasting_age {config : Config} (mortal : 0 < config.orgMaxAge) :
    Organism.Lasting config fun org => org.age ≤ config.orgMaxAge where
  placed := fun _ _ _ _ _ => Nat.zero_le _
  endowed := fun _ _ _ _ _ => Nat.zero_le _
  executes := by
    rintro org after young ⟨ρ, _, world, next, slot, flow, ran⟩
    exact (executeLine_persists ran).age ▸ young
  varies := fun young varies => varies.persists.age ▸ young
  fed := fun young _ => young
  ages := by
    intro ρ _ world next org after fate configured young aged
    obtain ⟨-, ⟨-, survives, age⟩ | ⟨-, age⟩⟩ := ageOrganism_ages aged
    · rw [configured] at survives
      have notYet : org.age ≠ config.orgMaxAge := by
        intro reached
        simp [isTooOld, reached, mortal] at survives
      omega
    · exact age ▸ young

/-! ### Iterations of a population -/

/-- In a world whose owner leaves each organism its identity, no organism has two turns in an
iteration; whoever is there before and after it is in the same slot and a year older; and
whoever was born in between has not lived for longer than a year. A turn is one slice of the
organism found in the slot, of as many lines as the configuration grants. Where organisms die of
age, whatever is called, none in the pool is older than that. -/
theorem step_ages (config : Config) :
    (∀ world : World ρ, world.Kept config →
      ((executants world.pool.capacity 0 { world with births := 0, deaths := 0 }).map
        Organism.id).Nodup ∧
      ∀ report next, world.step = .ok (report, next) →
        (∀ slot other before after, world.pool.get? slot = some before →
          next.pool.get? other = some after → after.id = before.id →
          other = slot ∧ after.age = before.age + 1) ∧
        ∀ slot child, next.pool.get? slot = some child →
          (∀ other org, world.pool.get? other = some org → org.id ≠ child.id) →
          child.age = 0 ∨ child.age = 1) ∧
    (∀ (world next : World ρ) (slot : Nat), world.visit slot = .ok next →
      (world.pool.get? slot = none ∧ next = world) ∨
        ∃ org, world.pool.get? slot = some org ∧ world.Visits slot org next) ∧
    (0 < config.orgMaxAge →
      ∀ (source : ρ) (recording : Bool) (start : World ρ) (calls : List Call) (world : World ρ),
        create config source recording = .ok (.ok start) → performAll calls start = .ok world →
        ∀ slot org, world.pool.get? slot = some org → org.age ≤ config.orgMaxAge) := by
  refine ⟨?_, fun world next slot => visit_cases, ?_⟩
  · intro world kept
    obtain ⟨lent, numbered⟩ := kept.numbered
    refine ⟨nodup_executants lent ⟨numbered.below, numbered.apart⟩, fun report next stepped => ?_⟩
    have elapses := step_elapses lent stepped
    constructor
    · -- An identity is given once, so whoever has it is the same organism in the same slot.
      intro slot other before after lived lives same
      rcases elapses.residents other after lives with ⟨org, was, id, age⟩ | ⟨new, -⟩
      · have here : other = slot := numbered.apart other slot org before was lived (by omega)
        subst here
        have who : org = before := Option.some.inj (was.symm.trans lived)
        have inside : other < world.pool.capacity :=
          Pool.lt_capacity_of_getElem? ((Pool.get?_eq_some_iff _ _ _).mp lived)
        rw [if_pos inside, who] at age
        exact ⟨rfl, age⟩
      · have below := numbered.below slot before lived
        omega
    · -- Whoever has an unknown identity was born in this iteration, and may have had a turn since.
      intro slot child lives unknown
      rcases elapses.residents slot child lives with ⟨org, was, id, -⟩ | ⟨-, age⟩
      · exact absurd id.symm (unknown slot org was)
      · split at age <;> omega
  · intro mortal source recording start calls world created performed
    exact all_of_lasting (lasting_age mortal) created performed

set_option maxRecDepth 20000 in
/-- An organism that is placed bears a child, and then an iteration goes by. -/
theorem step_family :
    ∃ (start grown next : World Generator) (report : StepReport),
      create .small (.ofSeed 7) true = .ok (.ok start) ∧
      performAll (Call.familyLife.take 2) start = .ok grown ∧ grown.step = .ok (report, next) ∧
      (grown.pool.get? 3).map Organism.age = some 0 ∧
      (grown.pool.get? 3).map Organism.id = some 3 ∧ (next.pool.get? 3).map Organism.id = some 3 :=
  ⟨_, _, _, _, rfl, rfl, rfl, rfl, rfl, rfl⟩

/-- The child is a year old then, and far from the age of death. -/
theorem step_ages_family :
    ∃ (grown next : World Generator) (report : StepReport) (child after : Organism),
      grown.Kept .small ∧ grown.step = .ok (report, next) ∧
      ((executants grown.pool.capacity 0 { grown with births := 0, deaths := 0 }).map
        Organism.id).Nodup ∧
      grown.pool.get? 3 = some child ∧ next.pool.get? 3 = some after ∧ after.id = child.id ∧
      after.age = 1 ∧ 0 < Config.small.orgMaxAge ∧ child.age ≤ Config.small.orgMaxAge := by
  obtain ⟨start, grown, next, report, created, performed, stepped, newborn, before, later⟩ :=
    step_family
  have kept : grown.Kept .small := Kept.performAll (.created _ _ _ created) performed
  obtain ⟨child, born, age⟩ := Option.map_eq_some_iff.mp newborn
  obtain ⟨after, lives, id⟩ := Option.map_eq_some_iff.mp later
  rw [born] at before
  have same : after.id = child.id := id.trans (Option.some.inj before).symm
  have mortal : 0 < Config.small.orgMaxAge := by decide
  obtain ⟨once, years⟩ := (step_ages .small).1 grown kept
  obtain ⟨-, older⟩ := (years report next stepped).1 3 3 child after born lives same
  have young := (step_ages .small).2.2 mortal _ _ start _ grown created performed 3 child born
  rw [age] at older
  exact ⟨grown, next, report, child, after, kept, stepped, once, born, lives, same, older, mortal,
    young⟩

end World

end Vivarium
