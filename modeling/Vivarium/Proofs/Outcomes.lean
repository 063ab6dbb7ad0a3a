import Vivarium.World
import Vivarium.Proofs.Pool.Slots
import Vivarium.Proofs.Surface.Changes

/-!
# What comes of an operation

An operation of a world can fault, and otherwise it does one thing or another. Here is what it
has done, read off its answer: one lemma for each operation, with all that can have happened and
under which circumstances. Whatever is shown of an operation that has succeeded starts from these
lemmas, so a change to an operation is a change to its lemma, and to what follows from the case
that is new.
-/
namespace Vivarium

/-- An operation on one surface finds it and puts it back changed, or there is no
such surface. -/
theorem onSurface_eq_ok {σ α : Type} {operation : Surface → σ → Outcome (α × Surface × σ)}
    {surfaces after : List Surface} {kind : Nat} {state next : σ} {answer : Option α}
    (done : onSurface operation surfaces kind state = .ok (answer, after, next)) :
    (surfaces[kind]? = none ∧ answer = none ∧ after = surfaces ∧ next = state) ∨
      ∃ surface value changed, surfaces[kind]? = some surface ∧
        operation surface state = .ok (value, changed, next) ∧ answer = some value ∧
        after = surfaces.set kind changed := by
  -- The list is walked down while the kind is counted down, and rebuilt on the way back.
  induction surfaces generalizing kind answer after with
  | nil =>
    cases done
    exact .inl ⟨rfl, rfl, rfl, rfl⟩
  | cons first rest ih =>
    cases kind with
    | zero =>
      obtain ⟨⟨value, changed, state'⟩, operated, answered⟩ := (bind_eq_ok_iff _ _ _).mp done
      cases answered
      exact .inr ⟨first, value, changed, rfl, operated, rfl, rfl⟩
    | succ kind =>
      obtain ⟨⟨value, others, state'⟩, inner, answered⟩ := (bind_eq_ok_iff _ _ _).mp done
      cases answered
      rcases ih inner with ⟨unknown, nothing, same, still⟩ | ⟨surface, value, changed, found⟩
      · subst same
        exact .inl ⟨unknown, nothing, rfl, still⟩
      · obtain ⟨own, operated, answered, put⟩ := found
        subst put
        exact .inr ⟨surface, value, changed, own, operated, answered, rfl⟩

/-- A surface that is put back as it was makes no difference. -/
theorem set_getElem?_self {surfaces : List Surface} {kind : Nat} {surface : Surface}
    (own : surfaces[kind]? = some surface) : surfaces.set kind surface = surfaces := by
  obtain ⟨inside, rfl⟩ := List.getElem?_eq_some_iff.mp own
  exact List.set_getElem_self inside

namespace World

variable {ρ : Type} {world next : World ρ} {org after : Organism}

/-! ### Energy -/

theorem charge_eq_ok {amount : Int} (charged : world.charge org amount = .ok (after, next)) :
    after = { org with energy := org.energy + -amount } ∧
      next = { world with totalEnergy := world.totalEnergy + -amount } := by
  obtain ⟨energy, spent, charged⟩ := (bind_eq_ok_iff _ _ _).mp charged
  obtain ⟨total, entered, answer⟩ := (bind_eq_ok_iff _ _ _).mp charged
  rw [Amount.sub_eq_ok_iff] at spent entered
  cases answer
  rw [spent.2, entered.2]
  exact ⟨rfl, rfl⟩

theorem credit_eq_ok {amount : Int} (credited : world.credit org amount = .ok (after, next)) :
    after = { org with energy := org.energy + amount } ∧
      next = { world with totalEnergy := world.totalEnergy + amount } := by
  obtain ⟨energy, gained, credited⟩ := (bind_eq_ok_iff _ _ _).mp credited
  obtain ⟨total, entered, answer⟩ := (bind_eq_ok_iff _ _ _).mp credited
  rw [Amount.add_eq_ok_iff] at gained entered
  cases answer
  rw [gained.2, entered.2]
  exact ⟨rfl, rfl⟩

/-! ### Birth -/

theorem allocateId_eq_ok {id : Nat}
    (allocated : world.allocateId = .ok (id, next)) :
    id = world.nextId ∧ next = { world with nextId := world.nextId + 1 } := by
  obtain ⟨following, counted, answer⟩ := (bind_eq_ok_iff _ _ _).mp allocated
  rw [Count.add_eq_ok_iff] at counted
  cases answer
  rw [counted.2]
  exact ⟨rfl, rfl⟩

/-- Whoever is adopted is in the pool, on the grid, in the ledger and in the records. -/
theorem adopt_cases {placed : Option Nat}
    (adopted : world.adopt org = .ok (placed, next)) :
    (placed = none ∧ next = world ∧ world.pool.isFull = true) ∨
      ∃ slot pool, placed = some slot ∧ world.pool.insert org = .ok (some slot, pool) ∧
        next =
          { world with
            pool
            grid := world.grid.set org.offset (.organism slot)
            totalEnergy := world.totalEnergy + org.energy
            births := world.births + 1
            lineage := world.lineage.map (world.recordOf org :: ·) } := by
  obtain ⟨⟨inserted, pool⟩, stored, adopted⟩ := (bind_eq_ok_iff _ _ _).mp adopted
  cases inserted with
  | none =>
    cases adopted
    obtain ⟨rfl, full⟩ := Pool.insert_eq_none stored
    exact .inl ⟨rfl, rfl, full⟩
  | some slot =>
    obtain ⟨totalEnergy, entered, adopted⟩ := (bind_eq_ok_iff _ _ _).mp adopted
    obtain ⟨births, counted, answer⟩ := (bind_eq_ok_iff _ _ _).mp adopted
    obtain ⟨-, rfl⟩ := (Amount.add_eq_ok_iff _ _ _).mp entered
    obtain ⟨-, rfl⟩ := (Count.add_eq_ok_iff _ _ _ _).mp counted
    cases answer
    exact .inr ⟨slot, pool, rfl, stored, rfl⟩

/-- Whoever is placed is fresh but for its genome, and adopted on an empty cell. -/
theorem spawnOrganism_cases {offset : Nat} {code : Genome} {energy : Int}
    {placed : Option Nat} (spawned : world.spawnOrganism offset code energy = .ok (placed, next)) :
    (placed = none ∧ next = world ∧
        (energy ≤ 0 ∨ world.pool.isFull = true ∨ world.grid.size ≤ offset ∨
          world.grid.get offset ≠ .empty)) ∨
      (0 < energy ∧ world.pool.isFull = false ∧ offset < world.grid.size ∧
          world.grid.get offset = .empty) ∧
        { world with nextId := world.nextId + 1 }.adopt
          ((Organism.fresh world.nextId offset energy world.config).setCode code
            world.config.codeMaxSize) = .ok (placed, next) := by
  unfold spawnOrganism at spawned
  split at spawned
  next refused =>
    cases spawned
    exact .inl ⟨rfl, rfl, by simpa [← Cell.isEmpty_iff] using refused⟩
  next able =>
    obtain ⟨⟨id, named⟩, allocated, spawned⟩ := (bind_eq_ok_iff _ _ _).mp spawned
    obtain ⟨org, created, adopted⟩ := (bind_eq_ok_iff _ _ _).mp spawned
    obtain ⟨rfl, rfl⟩ := allocateId_eq_ok allocated
    obtain ⟨-, rfl⟩ := (Organism.create_eq_ok_iff _ _ _ _ _).mp created
    exact .inr ⟨by simpa [← Cell.isEmpty_iff] using able, adopted⟩

/-- A token is put on an empty cell by its surface, or nothing has changed. -/
theorem spawnToken_cases {offset kind atoms : Nat} {added : Bool}
    (spawned : world.spawnToken offset kind atoms = .ok (added, next)) :
    (added = false ∧ next = world) ∨ ∃ surface changed grid, added = true ∧
      world.surfaces[kind]? = some surface ∧
      surface.insert world.grid offset atoms = .ok (true, changed, grid) ∧
      next = { world with surfaces := world.surfaces.set kind changed, grid } := by
  obtain ⟨⟨answer, surfaces, grid⟩, inserted, spawned⟩ := (bind_eq_ok_iff _ _ _).mp spawned
  cases spawned
  rcases onSurface_eq_ok inserted with
    ⟨-, rfl, rfl, rfl⟩ | ⟨surface, added, changed, own, did, rfl, rfl⟩
  · exact .inl ⟨rfl, rfl⟩
  · cases added with
    | false =>
      -- A surface that refuses is put back as it was found.
      obtain ⟨rfl, rfl⟩ := Surface.insert_eq_ok did
      rw [set_getElem?_self own]
      exact .inl ⟨rfl, rfl⟩
    | true => exact .inr ⟨surface, changed, grid, rfl, own, did, rfl⟩

theorem spawnToken_eq_ok {offset kind atoms : Nat} {added : Bool}
    (spawned : world.spawnToken offset kind atoms = .ok (added, next)) :
    ∃ surfaces grid, next = { world with surfaces, grid } := by
  obtain ⟨-, rfl⟩ | ⟨surface, changed, grid, -, -, -, rfl⟩ := spawnToken_cases spawned
  · exact ⟨next.surfaces, next.grid, rfl⟩
  · exact ⟨_, grid, rfl⟩

/-! ### Death -/

section Drawing

variable [DrawSource ρ]

/-- How an organism is buried that has left the pool: its cell shows again what lay beneath, and
a packet it carried goes back to its surface, if there is one. -/
inductive Buries (world : World ρ) (org : Organism) : World ρ → Prop where
  | emptyHanded (carried : org.packet = none) :
    Buries world org
      { world with
        grid := world.grid.set org.offset org.beneath
        totalEnergy := world.totalEnergy - org.energy
        deaths := world.deaths + 1 }
  | homeless (packet : Token) (carried : org.packet = some packet)
      (unknown : world.surfaces[packet.kind]? = none) :
    Buries world org
      { world with
        grid := world.grid.set org.offset org.beneath
        totalEnergy := world.totalEnergy - org.energy
        deaths := world.deaths + 1 }
  | carrying (packet : Token) {surface changed : Surface} {landed : Option Nat} {grid : Grid}
      {source : ρ} (carried : org.packet = some packet)
      (own : world.surfaces[packet.kind]? = some surface)
      (restored : surface.restore (world.grid.set org.offset org.beneath) packet world.source =
        .ok (landed, changed, grid, source)) :
    Buries world org
      { world with
        grid, source
        surfaces := world.surfaces.set packet.kind changed
        totalEnergy := world.totalEnergy - org.energy
        deaths := world.deaths + 1 }

theorem bury_cases (buried : world.bury org = .ok next) : world.Buries org next := by
  unfold bury at buried
  obtain ⟨total, left, buried⟩ := (bind_eq_ok_iff _ _ _).mp buried
  obtain ⟨-, rfl⟩ := (Amount.sub_eq_ok_iff _ _ _).mp left
  cases carried : org.packet with
  | none =>
    simp only [carried] at buried
    obtain ⟨deaths, counted, answer⟩ := (bind_eq_ok_iff _ _ _).mp buried
    obtain ⟨-, rfl⟩ := (Count.add_eq_ok_iff _ _ _ _).mp counted
    cases answer
    exact .emptyHanded carried
  | some packet =>
    simp only [carried] at buried
    obtain ⟨⟨answer, surfaces, grid, source⟩, restored, buried⟩ := (bind_eq_ok_iff _ _ _).mp buried
    obtain ⟨deaths, counted, answer⟩ := (bind_eq_ok_iff _ _ _).mp buried
    obtain ⟨-, rfl⟩ := (Count.add_eq_ok_iff _ _ _ _).mp counted
    cases answer
    rcases onSurface_eq_ok restored with
      ⟨unknown, -, rfl, same⟩ | ⟨surface, landed, changed, own, back, -, rfl⟩
    · -- Nothing has been drawn either: grid and source are handed on together.
      cases same
      exact .homeless packet carried unknown
    · exact .carrying packet carried own back

/-- Whoever is in the slot leaves the pool and is buried. -/
theorem kill_cases {slot : Nat} {done : Bool} (killed : world.kill slot = .ok (done, next)) :
    (done = false ∧ next = world ∧ world.pool.get? slot = none) ∨
      ∃ org pool, done = true ∧ world.pool.remove slot = .ok (some org, pool) ∧
        { world with pool }.bury org = .ok next := by
  obtain ⟨⟨removed, pool⟩, removing, killed⟩ := (bind_eq_ok_iff _ _ _).mp killed
  cases removed with
  | none =>
    cases killed
    obtain ⟨vacant, rfl⟩ := Pool.remove_eq_none removing
    exact .inl ⟨rfl, rfl, vacant⟩
  | some org =>
    obtain ⟨buried, burying, answer⟩ := (bind_eq_ok_iff _ _ _).mp killed
    cases answer
    exact .inr ⟨org, pool, rfl, removing, burying⟩

/-! ### Chance -/

theorem randomCode_eq_ok {code : Genome} (drawn : world.randomCode = .ok (code, next)) :
    ∃ source, next = { world with source } := by
  obtain ⟨⟨code', source⟩, -, answer⟩ := (bind_eq_ok_iff _ _ _).mp drawn
  cases answer
  exact ⟨source, rfl⟩

end Drawing

end World

end Vivarium
