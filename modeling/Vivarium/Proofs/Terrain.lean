import Vivarium.Proofs.Acts.Soundness
import Vivarium.Proofs.Inventory

/-!
# Terrain

The tokens that hold no energy are terrain. They are placed when the world is created, or on
demand; from then on they only change their places. Eating and fusing concern energy alone,
and what is picked up, put down, moved or trodden on is counted all the time. One token is
lost for good when its bearer is buried and no cell is found for it, and nothing else is.
-/
namespace Vivarium

/-! ### Counts -/

/-- How many tokens of a kind there are, and how many atoms are in them. -/
def tally (surfaces : List Surface) (kind : Nat) : Option (Nat × Nat) :=
  surfaces[kind]?.map fun surface => (surface.live, surface.atoms)

section Tally

variable {surfaces : List Surface} {kind place : Nat} {surface changed : Surface}

/-- A surface of another kind is not counted. -/
theorem tally_set_of_ne (other : kind ≠ place) (changed : Surface) :
    tally (surfaces.set place changed) kind = tally surfaces kind := by
  simp only [tally, List.getElem?_set_ne other.symm]

/-- A surface that counts as before makes no difference. -/
theorem tally_set_of_eq (own : surfaces[place]? = some surface)
    (live : changed.live = surface.live) (atoms : changed.atoms = surface.atoms) :
    tally (surfaces.set place changed) kind = tally surfaces kind := by
  by_cases same : kind = place
  · subst same
    have inside := (List.getElem?_eq_some_iff.mp own).1
    simp only [tally, List.getElem?_set_self inside, own, Option.map_some, live, atoms]
  · exact tally_set_of_ne same changed

end Tally

namespace World

variable {ρ : Type} [DrawSource ρ] {world next : World ρ} {org after : Organism} {flow : Flow}
  {slot kind : Nat}

/-! ### Lines that leave all surfaces alone -/

omit [DrawSource ρ] in
theorem surfaces_of_walk {delay : Nat}
    (walked : world.walk slot org delay = .ok (flow, after, next)) :
    next.surfaces = world.surfaces := by
  cases walk_cases walked with
  | waits early charged => rw [(charge_eq_ok charged).2]
  | stays => rfl
  | goes due pointed passable charged => rw [(charge_eq_ok charged).2]

theorem surfaces_of_irradiate {radiation : Float}
    (done : world.irradiate org radiation = .ok (after, next)) :
    next.surfaces = world.surfaces := by
  obtain ⟨-, rfl⟩ | ⟨events, source, -, rfl⟩ := irradiate_cases done
  · rfl
  · rfl

theorem surfaces_of_runStep (ran : world.runStep slot org = .ok (flow, after, next)) :
    next.surfaces = world.surfaces := by
  cases runStep_cases ran with
  | bare free walked => exact surfaces_of_walk walked
  | dies beneath charging dead => rw [(charge_eq_ok charging).2]
  | treads beneath charging alive irradiated walked =>
    rw [surfaces_of_walk walked, surfaces_of_irradiate irradiated, (charge_eq_ok charging).2]

omit [DrawSource ρ] in
theorem surfaces_of_adopt {placed : Option Nat} (adopted : world.adopt org = .ok (placed, next)) :
    next.surfaces = world.surfaces := by
  obtain ⟨-, rfl, -⟩ | ⟨fresh, pool, -, -, rfl⟩ := adopt_cases adopted
  · rfl
  · rfl

theorem surfaces_of_bear {target : Nat} (ran : world.bear org target = .ok (flow, after, next)) :
    next.surfaces = world.surfaces := by
  rcases bear_cases ran with ⟨-, -, -, rfl⟩ | ⟨-, -, bears⟩
  · rfl
  · obtain ⟨child, placed, charged, mutated, crossing, adopted, -⟩ := bears
    obtain ⟨rfl, rfl⟩ := charge_eq_ok charged
    obtain ⟨-, source₁, rfl⟩ := mutateClone_eq_ok mutated
    obtain ⟨-, source₂, rfl⟩ := crossClone_eq_ok crossing
    have kept := surfaces_of_adopt adopted
    exact kept

theorem surfaces_of_runClone (ran : world.runClone org = .ok (flow, after, next)) :
    next.surfaces = world.surfaces := by
  rcases runClone_cases ran with ⟨-, -, rfl⟩ | ⟨target, -, -, -, -, bearing⟩
  · rfl
  · exact surfaces_of_bear bearing

theorem surfaces_of_ageOrganism {fate : Fate}
    (aged : world.ageOrganism org = .ok (fate, after, next)) :
    next.surfaces = world.surfaces := by
  obtain ⟨mutant, between, energy, totalEnergy, age, mutated, -, rfl⟩ := ageOrganism_eq_ok aged
  obtain ⟨-, source, rfl⟩ := mutateByAge_eq_ok mutated
  rfl

omit [DrawSource ρ] in
theorem surfaces_of_spawnOrganism {offset : Nat} {code : Genome} {energy : Int}
    {placed : Option Nat} (spawned : world.spawnOrganism offset code energy = .ok (placed, next)) :
    next.surfaces = world.surfaces := by
  rcases spawnOrganism_cases spawned with ⟨-, rfl, -⟩ | ⟨-, adopted⟩
  · rfl
  · have kept := surfaces_of_adopt adopted
    exact kept

theorem surfaces_of_seedMany {wanted placed total : Nat}
    (seeded : seedMany wanted placed world = .ok (total, next)) :
    next.surfaces = world.surfaces := by
  induction wanted generalizing placed world with
  | zero =>
    cases seeded
    rfl
  | succ wanted ih =>
    obtain ⟨headroom, -, seeded⟩ := (bind_eq_ok_iff _ _ _).mp seeded
    simp only at seeded
    split at seeded
    · cases seeded
      rfl
    · obtain ⟨⟨found, source⟩, -, seeded⟩ := (bind_eq_ok_iff _ _ _).mp seeded
      simp only at seeded
      split at seeded
      · have kept := ih seeded
        exact kept
      · obtain ⟨⟨code, coded⟩, coding, seeded⟩ := (bind_eq_ok_iff _ _ _).mp seeded
        obtain ⟨source', rfl⟩ := randomCode_eq_ok coding
        obtain ⟨⟨slot, spawned⟩, spawning, seeded⟩ := (bind_eq_ok_iff _ _ _).mp seeded
        have kept := surfaces_of_spawnOrganism spawning
        exact (ih seeded).trans kept

theorem surfaces_of_seedPopulation {placed : Nat}
    (seeded : world.seedPopulation = .ok (placed, next)) : next.surfaces = world.surfaces := by
  obtain ⟨⟨total, populated⟩, seeding, seeded⟩ := (bind_eq_ok_iff _ _ _).mp seeded
  obtain ⟨generation, -, answer⟩ := (bind_eq_ok_iff _ _ _).mp seeded
  cases answer
  have kept := surfaces_of_seedMany seeding
  exact kept

/-! ### Meals and carried tokens -/

theorem surfaces_of_eatOrganism {victim : Nat} {amount : Int} (goesOn : flow ≠ .stop)
    (ran : world.eatOrganism org victim amount = .ok (flow, after, next)) :
    next.surfaces = world.surfaces := by
  cases eatOrganism_cases ran with
  | misses | bites => rfl
  | drains => exact absurd rfl goesOn

omit [DrawSource ρ] in
theorem tally_of_eatToken {target : Nat} {token : Token} (foreign : kind ≠ energyKind)
    (ran : world.eatToken org target token = .ok (flow, after, next)) :
    tally next.surfaces kind = tally world.surfaces kind := by
  obtain ⟨surface, eaten, changed, grid, -, -, -, -, rfl⟩ := eatToken_eq_ok ran
  exact tally_set_of_ne foreign changed

/-- A meal that does not end the slice changes the surface of energy at most. -/
theorem tally_of_eatAt {target : Option Nat} (foreign : kind ≠ energyKind) (goesOn : flow ≠ .stop)
    (ran : world.eatAt org target = .ok (flow, after, next)) :
    tally next.surfaces kind = tally world.surfaces kind := by
  cases eatAt_cases ran with
  | nothing | terrain => rfl
  | organism pointed shown bitten => rw [surfaces_of_eatOrganism goesOn bitten]
  | token pointed shown energy eaten => exact tally_of_eatToken foreign eaten

omit [DrawSource ρ] in
/-- What is picked up stays alive. -/
theorem tally_of_runGet (ran : world.runGet org = .ok (after, next)) :
    tally next.surfaces kind = tally world.surfaces kind := by
  obtain ⟨-, rfl⟩ | ⟨target, place, surface, token, changed, grid, -, own, removed, -, rfl⟩ :=
    runGet_cases ran
  · rfl
  · obtain ⟨-, -, found, tokens, -, rfl, -⟩ := Surface.remove_eq_some removed
    exact tally_set_of_eq own rfl rfl

omit [DrawSource ρ] in
theorem tally_of_putAt {packet : Option Token} {target : Option Nat}
    (ran : world.putAt org packet target = .ok (after, next)) :
    tally next.surfaces kind = tally world.surfaces kind := by
  obtain ⟨-, rfl⟩ | ⟨offset, token, surface, changed, grid, -, own, -, laid, -, rfl⟩ :=
    putAt_cases ran
  · rfl
  · cases laid
    exact tally_set_of_eq own rfl rfl

omit [DrawSource ρ] in
theorem tally_of_runMix (foreign : kind ≠ energyKind) (ran : world.runMix org = .ok (after, next)) :
    tally next.surfaces kind = tally world.surfaces kind := by
  obtain ⟨-, rfl⟩ | ⟨target, packet, surface, merged, changed, grid, -, -, -, -, rfl⟩ :=
    runMix_cases ran
  · rfl
  · exact tally_set_of_ne foreign changed

/-- A line after which nobody is buried keeps the count of each kind of terrain. -/
theorem tally_of_executeLine (foreign : kind ≠ energyKind) (goesOn : flow ≠ .stop)
    (executed : world.executeLine slot org = .ok (flow, after, next)) :
    tally next.surfaces kind = tally world.surfaces kind := by
  cases executeLine_cases executed with
  | leaves | loads | passes | sees | draws | computes => rfl
  | steps fetched ran => rw [surfaces_of_runStep ran]
  | eats fetched ran => exact tally_of_eatAt foreign goesOn ran
  | clones fetched ran => rw [surfaces_of_runClone ran]
  | gets fetched ran => exact tally_of_runGet ran
  | puts fetched ran => exact tally_of_putAt ran
  | mixes fetched ran => exact tally_of_runMix foreign ran

/-! ### New tokens and moves -/

/-- All tokens that drop are energy. -/
theorem tally_of_replenish (foreign : kind ≠ energyKind)
    (replenished : world.replenish = .ok next) :
    tally next.surfaces kind = tally world.surfaces kind := by
  obtain rfl | ⟨cap, surface, landed, changed, grid, source, -, -, -, -, rfl⟩ :=
    replenish_cases replenished
  · rfl
  · exact tally_set_of_ne foreign changed

end World

/-- A surface that moves its tokens counts as before. -/
theorem Surface.counts_of_tick {ρ : Type} [DrawSource ρ] {surface next : Surface}
    {grid after : Grid} {source rest : ρ} {moved : Bool}
    (done : surface.tick grid source = .ok (moved, next, after, rest)) :
    next.live = surface.live ∧ next.atoms = surface.atoms := by
  rcases Surface.tick_eq_ok done with ⟨rfl, -⟩ | ⟨went, moving⟩
  · exact ⟨rfl, rfl⟩
  · have changed := Surface.move_eq_ok moving
    cases went with
    | false =>
      obtain ⟨rfl, -⟩ := changed
      exact ⟨rfl, rfl⟩
    | true =>
      obtain ⟨origin, target, token, found, tokens, -, -, -, -, rfl, -⟩ := changed
      exact ⟨rfl, rfl⟩

theorem World.tally_of_tickSurfaces {ρ : Type} [DrawSource ρ] {world next : World ρ} {kind : Nat}
    (ticked : world.tickSurfaces = .ok next) :
    tally next.surfaces kind = tally world.surfaces kind := by
  obtain ⟨⟨surfaces, grid, source⟩, all, answer⟩ := (bind_eq_ok_iff _ _ _).mp ticked
  cases answer
  refine onSurfaces_preserve
    (fun surfaces _ => tally surfaces kind = tally world.surfaces kind) ?_ all [] rfl
  intro surfaces state place surface value changed next same own operated
  obtain ⟨live, atoms⟩ := Surface.counts_of_tick operated
  exact (tally_set_of_eq own live atoms).trans same

end Vivarium
