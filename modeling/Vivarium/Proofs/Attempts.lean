import Vivarium.Proofs.Cataclysm
import Vivarium.Proofs.Pool.Traffic
import Vivarium.Proofs.Residents

/-!
# Attempts

An owner may ask for what cannot be: an organism on a cell that is taken, a token of a kind
that nobody knows, the end of an organism that is not there. Such a call says so and leaves
the world as it was, with all its slots, identities, draws and events. What can be is done,
unless a number is at its limit: the ledger, above all, takes no more than an amount, and a
call that would bring in more ends in a fault.

## Main results

`attempts_decided`: in any world that can be reached, refused calls change nothing, and which
organisms and tokens are refused, which are placed and which end in a fault.
`not_obliging_rich`: a world with room for an organism in which none with the largest energy
can be placed.

## Proof strategy

Whether a call is refused is decided before anything is changed; the pool is asked for a slot
last, but whether it has one has been asked first. A slot that is free can be taken and counted
because the pool of a reachable world keeps the size it was created with, and was created
within storage.
-/
namespace Vivarium

/-! ### Pools keep their size -/

namespace Pool

variable {pool next : Pool} {slot : Nat} {org : Organism}

theorem capacity_update (pool : Pool) (slot : Nat) (org : Organism) :
    (pool.update slot org).capacity = pool.capacity := by
  simp [update, capacity]

theorem capacity_restore (pool : Pool) (slot : Nat) (org : Organism) :
    (pool.restore slot org).capacity = pool.capacity := by
  unfold restore
  split
  · exact pool.capacity_update slot org
  · rfl

theorem capacity_of_insert {placed : Option Nat} (inserted : pool.insert org = .ok (placed, next)) :
    next.capacity = pool.capacity := by
  unfold insert at inserted
  split at inserted
  · cases inserted
    rfl
  · split at inserted
    · obtain ⟨allocated, -, answer⟩ := (bind_eq_ok_iff _ _ _).mp inserted
      cases answer
      simp [capacity]
    · cases inserted

theorem capacity_of_freeSlot (freed : pool.freeSlot slot = .ok next) :
    next.capacity = pool.capacity := by
  obtain ⟨allocated, -, answer⟩ := (bind_eq_ok_iff _ _ _).mp freed
  cases answer
  simp [capacity]

theorem capacity_of_remove {removed : Option Organism}
    (removing : pool.remove slot = .ok (removed, next)) : next.capacity = pool.capacity := by
  unfold remove at removing
  split at removing
  · cases removing
    rfl
  · obtain ⟨freed, freeing, answer⟩ := (bind_eq_ok_iff _ _ _).mp removing
    cases answer
    exact capacity_of_freeSlot freeing

theorem capacity_of_take (taken : pool.take slot = some (org, next)) :
    next.capacity = pool.capacity := by
  unfold take at taken
  split at taken
  · cases taken
  · cases taken
    simp [capacity]

theorem capacity_of_release (released : pool.release slot = .ok next) :
    next.capacity = pool.capacity := by
  unfold release at released
  split at released
  · exact capacity_of_freeSlot released
  · cases released
    rfl

end Pool

section Acts

variable {ρ : Type} [DrawSource ρ] {placing : Prop} {stage last : Stage ρ}
  {burial : Option (Burial ρ)}

open Pool

/-- No act gives a pool more slots, or takes some away. -/
theorem Act.capacity (act : Act placing stage burial last) :
    last.world.pool.capacity = stage.world.pool.capacity := by
  -- Slots are written to, lent and freed; none is added or dropped.
  cases act with
  | notes => rfl
  | enters taken => exact capacity_of_take taken
  | line ran goesOn =>
    cases World.executeLine_touches ran goesOn with
    | spares same => rw [same]
    | bites victim prey energy caught bitten =>
      rw [bitten]
      exact capacity_update _ _ _
    | bears child fresh begets adopts => exact capacity_of_insert adopts.inserted
  | devours ran lost =>
    obtain ⟨victim, energy, -, removed, buried⟩ := lost
    rw [World.pool_of_bury buried]
    exact (capacity_of_remove removed).trans (capacity_update _ _ _)
  | year aged => rw [(World.ageOrganism_leavesOthers aged).pool]
  | returns world slot org => exact capacity_restore _ _ _
  | leaves buried released =>
    rw [World.pool_of_bury buried] at released
    exact capacity_of_release released
  | killed removed buried =>
    rw [World.pool_of_bury buried]
    exact capacity_of_remove removed
  | spawns spawned =>
    rcases World.adopts_of_spawnOrganism spawned with ⟨same, -⟩ | ⟨id, config, fresh, adopts⟩
    · rw [same]
    · exact capacity_of_insert adopts.inserted
  | places allowed light spawned =>
    obtain ⟨surfaces, grid, rfl⟩ := World.spawnToken_eq_ok spawned
    rfl
  | replenishes replenished =>
    obtain ⟨surfaces, grid, source, rfl⟩ := World.replenish_eq_ok replenished
    rfl
  | ticks ticked =>
    obtain ⟨surfaces, grid, source, rfl⟩ := World.tickSurfaces_eq_ok ticked
    rfl

theorem Unfolds.capacity (unfolds : Unfolds placing stage last) :
    last.world.pool.capacity = stage.world.pool.capacity := by
  obtain ⟨burials, trail⟩ := unfolds
  exact trail.preserve (·.world.pool.capacity = stage.world.pool.capacity)
    (fun act before => act.capacity.trans before) rfl

end Acts

/-! ### One more token -/

theorem onSurface_of_none {σ α : Type} {operation : Surface → σ → Outcome (α × Surface × σ)}
    {surfaces : List Surface} {kind : Nat} {state : σ} (unknown : surfaces[kind]? = none) :
    onSurface operation surfaces kind state = .ok (none, surfaces, state) := by
  induction surfaces generalizing kind with
  | nil => rfl
  | cons first rest ih =>
    cases kind with
    | zero => cases unknown
    | succ kind => exact (bind_eq_ok_iff _ _ _).mpr ⟨_, ih unknown, rfl⟩

/-- A place is refused if it lies off the grid or is taken. -/
theorem Grid.not_free_iff {grid : Grid} {offset : Nat} : ¬ grid.Free offset ↔
    grid.size ≤ offset ∨ (!(grid.get offset).isEmpty) = true := by
  rw [Grid.Free, not_and_or, Nat.not_lt, ← Cell.isEmpty_iff, Bool.not_eq_true,
    Bool.not_eq_true']

namespace Surface

variable {surface next : Surface} {grid after : Grid} {offset atoms : Nat}

/-- A token is turned away by a full surface, and by a place that is taken or off the grid. -/
theorem insert_of_refused
    (refused : ¬(surface.live < surface.config.capacity ∧ grid.Free offset)) :
    surface.insert grid offset atoms = .ok (false, surface, grid) := by
  unfold insert
  split
  next => rfl
  next room =>
    have taken := Grid.not_free_iff.mp fun free => refused ⟨Nat.lt_of_not_le room, free⟩
    simp only [place, if_pos taken]

theorem insert_of_free (room : surface.live < surface.config.capacity) (free : grid.Free offset) :
    surface.insert grid offset atoms = (do
      let token : Token := { kind := surface.kind, atoms := max atoms 1 }
      let (laid, grid) := surface.lay grid offset token
      let counted ← laid.count token.atoms
      return (true, counted, grid)) := by
  have able := Grid.not_free_iff.not_right.mp free
  unfold insert
  rw [if_neg (Nat.not_le_of_lt room)]
  simp only [place, if_neg able]

theorem insert_ne_false (room : surface.live < surface.config.capacity) (free : grid.Free offset) :
    surface.insert grid offset atoms ≠ .ok (false, next, after) := by
  rw [insert_of_free room free]
  intro turned
  obtain ⟨counted, -, answer⟩ := (bind_eq_ok_iff _ _ _).mp turned
  cases answer

theorem insert_iff_of_room (room : surface.live < surface.config.capacity)
    (free : grid.Free offset) :
    (∃ next after, surface.insert grid offset atoms = .ok (true, next, after)) ↔
      surface.live + 1 < limit64 ∧ surface.atoms + max atoms 1 < limit64 := by
  rw [insert_of_free room free]
  constructor
  · rintro ⟨next, after, inserted⟩
    obtain ⟨counted, counting, -⟩ := (bind_eq_ok_iff _ _ _).mp inserted
    obtain ⟨live, oneMore, counting⟩ := (bind_eq_ok_iff _ _ _).mp counting
    obtain ⟨sum, added, -⟩ := (bind_eq_ok_iff _ _ _).mp counting
    rw [Count.add_eq_ok_iff] at oneMore added
    exact ⟨oneMore.1, added.1⟩
  · rintro ⟨few, light⟩
    have oneMore := (Count.add_eq_ok_iff limit64 surface.live 1 _).mpr ⟨few, rfl⟩
    have added := (Count.add_eq_ok_iff limit64 surface.atoms (max atoms 1) _).mpr ⟨light, rfl⟩
    exact ⟨_, _, (bind_eq_ok_iff _ _ _).mpr ⟨_, (bind_eq_ok_iff _ _ _).mpr
      ⟨_, oneMore, (bind_eq_ok_iff _ _ _).mpr ⟨_, added, rfl⟩⟩, rfl⟩⟩

end Surface

namespace World

section Reaching

variable {ρ : Type} [DrawSource ρ] {config : Config} {world : World ρ}

/-- The pool of a world has the slots that its configuration asks for, and there is room for
them. -/
theorem Reachable.capacity (reachable : world.Reachable config) :
    world.pool.capacity = config.orgAmount ∧ config.orgAmount * Organism.bytes ≤ maxBytes := by
  induction reachable with
  | created source recording start created =>
    obtain ⟨creatable, surfaces, grid, rest, placed, -, populating⟩ :=
      (create_eq_ok_iff _ _ _ _).mp created
    have populated : Unfolds True
        ⟨barren config surfaces grid rest recording, none⟩ ⟨start, none⟩ :=
      seedPopulation_unfolds populating
    refine ⟨populated.capacity.trans ?_, creatable.pool⟩
    simp [barren, Pool.empty, Pool.capacity]
  | called world next call before performed ih =>
    have called : Unfolds True ⟨world, none⟩ ⟨next, none⟩ :=
      perform_unfolds (fun _ => trivial) performed
    exact ⟨called.capacity.trans ih.1, ih.2⟩
  | watched world before ih | recorded world before ih => exact ih
  | edited world slot org after before live ih =>
    exact ⟨(world.pool.capacity_update slot after).trans ih.1, ih.2⟩

/-- So the slots of a pool can be counted. -/
theorem Reachable.capacity_lt (reachable : world.Reachable config) :
    world.pool.capacity < limit64 := by
  obtain ⟨capacity, room⟩ := reachable.capacity
  simp only [Organism.bytes, maxBytes] at room
  simp only [limit64]
  omega

end Reaching

/-! ### What is refused -/

section Asking

variable {ρ : Type} {world next : World ρ} {offset kind atoms slot lines : Nat} {code : Genome}
  {energy : Int}

/-- An organism with so much energy can be placed on a cell: there is energy to give, a slot
is free and the cell is empty. -/
structure Admits (world : World ρ) (offset : Nat) (energy : Int) : Prop where
  energy : 0 < energy
  pool : world.pool.isFull = false
  cell : world.grid.Free offset

/-- A token of a kind can be placed on a cell: it has a surface, which is below its capacity,
and the cell is empty. -/
def AdmitsToken (world : World ρ) (offset kind : Nat) : Prop :=
  ∃ surface, world.surfaces[kind]? = some surface ∧ surface.live < surface.config.capacity ∧
    world.grid.Free offset

/-- One more organism with so much energy can be named, counted, paid for and stored. -/
structure Enrolls (world : World ρ) (energy : Int) : Prop where
  name : world.nextId + 1 < limit64
  births : world.births + 1 < limit64
  ledger : isAmount (world.totalEnergy + energy) = true
  storage : Organism.reserveRoom world.config = .ok ()

/-- One more token of a kind with so many atoms can be counted. -/
def EnrollsToken (world : World ρ) (kind atoms : Nat) : Prop :=
  ∀ surface, world.surfaces[kind]? = some surface →
    surface.live + 1 < limit64 ∧ surface.atoms + max atoms 1 < limit64

theorem not_admits_iff : ¬ world.Admits offset energy ↔
    energy ≤ 0 ∨ world.pool.isFull = true ∨ world.grid.size ≤ offset ∨
      (!(world.grid.get offset).isEmpty) = true := by
  have admits : world.Admits offset energy ↔
      0 < energy ∧ world.pool.isFull = false ∧ world.grid.Free offset :=
    ⟨fun ⟨alive, room, free⟩ => ⟨alive, room, free⟩, fun ⟨alive, room, free⟩ => ⟨alive, room, free⟩⟩
  rw [admits, not_and_or, not_and_or, Int.not_lt, Bool.not_eq_false, Grid.not_free_iff]

/-- An organism is refused before anything else is done, or not at all. -/
theorem spawnOrganism_eq_none_iff : world.spawnOrganism offset code energy = .ok (none, next) ↔
    ¬ world.Admits offset energy ∧ next = world := by
  rw [not_admits_iff]
  unfold spawnOrganism
  split
  next refused =>
    constructor
    · rintro ⟨⟩
      exact ⟨refused, rfl⟩
    · rintro ⟨-, rfl⟩
      rfl
  next able =>
    refine ⟨fun spawned => ?_, fun refused => absurd refused.1 able⟩
    -- The pool has been asked for a free slot, so it does not turn away whoever is adopted.
    obtain ⟨⟨id, named⟩, allocated, spawned⟩ := (bind_eq_ok_iff _ _ _).mp spawned
    obtain ⟨org, -, adopted⟩ := (bind_eq_ok_iff _ _ _).mp spawned
    obtain ⟨-, rfl⟩ := allocateId_eq_ok allocated
    have full := adopt_eq_none adopted
    exact absurd (.inr (.inl full)) able

/-- Whoever finds a free slot is adopted, if the ledger and the births can be counted on. -/
theorem adopt_iff_of_room {org : Organism} (room : world.pool.isFull = false)
    (consistent : world.pool.Consistent) (countable : world.pool.capacity < limit64) :
    (∃ slot next, world.adopt org = .ok (some slot, next)) ↔
      isAmount (world.totalEnergy + org.energy) = true ∧ world.births + 1 < limit64 := by
  constructor
  · rintro ⟨slot, next, adopted⟩
    obtain ⟨⟨inserted, pool⟩, -, adopted⟩ := (bind_eq_ok_iff _ _ _).mp adopted
    cases inserted with
    | none => cases adopted
    | some taken =>
      obtain ⟨total, credited, adopted⟩ := (bind_eq_ok_iff _ _ _).mp adopted
      obtain ⟨births, counted, -⟩ := (bind_eq_ok_iff _ _ _).mp adopted
      rw [Amount.add_eq_ok_iff] at credited
      rw [Count.add_eq_ok_iff] at counted
      exact ⟨credited.1, counted.1⟩
  · rintro ⟨fits, few⟩
    cases stack : world.pool.free with
    | nil =>
      rw [Pool.isFull, stack] at room
      cases room
    | cons slot rest =>
      -- The pool counts the newcomer too, and there are fewer slots than it can count.
      have stored := (Pool.insert_of_stack consistent countable stack org).2
      have credited := (Amount.add_eq_ok_iff world.totalEnergy org.energy _).mpr ⟨fits, rfl⟩
      have counted := (Count.add_eq_ok_iff limit64 world.births 1 _).mpr ⟨few, rfl⟩
      exact ⟨slot, _, (bind_eq_ok_iff _ _ _).mpr ⟨_, stored, (bind_eq_ok_iff _ _ _).mpr
        ⟨_, credited, (bind_eq_ok_iff _ _ _).mpr ⟨_, counted, rfl⟩⟩⟩⟩

/-- An organism that is not refused is placed, if it can be enrolled. -/
theorem spawnOrganism_iff_of_admits (admits : world.Admits offset energy)
    (consistent : world.pool.Consistent) (countable : world.pool.capacity < limit64) :
    (∃ slot next, world.spawnOrganism offset code energy = .ok (some slot, next)) ↔
      world.Enrolls energy := by
  rw [spawnOrganism, if_neg (not_admits_iff.not_right.mp admits)]
  -- Only the name is new to the world that adopts the organism.
  let named : World ρ := { world with nextId := world.nextId + 1 }
  have adopts : (∃ slot next, named.adopt ((Organism.fresh world.nextId offset energy
      world.config).setCode code world.config.codeMaxSize) = .ok (some slot, next)) ↔
        isAmount (world.totalEnergy + energy) = true ∧ world.births + 1 < limit64 :=
    adopt_iff_of_room admits.pool consistent countable
  constructor
  · rintro ⟨slot, next, spawned⟩
    obtain ⟨⟨id, after⟩, allocated, spawned⟩ := (bind_eq_ok_iff _ _ _).mp spawned
    obtain ⟨org, created, adopted⟩ := (bind_eq_ok_iff _ _ _).mp spawned
    obtain ⟨storage, rfl⟩ := (Organism.create_eq_ok_iff _ _ _ _ _).mp created
    obtain ⟨following, counted, answer⟩ := (bind_eq_ok_iff _ _ _).mp allocated
    obtain ⟨name, rfl⟩ := (Count.add_eq_ok_iff _ _ _ _).mp counted
    cases answer
    obtain ⟨ledger, births⟩ := adopts.mp ⟨slot, next, adopted⟩
    exact { name, births, ledger, storage }
  · rintro ⟨name, births, ledger, storage⟩
    have allocated : world.allocateId = .ok (world.nextId, named) :=
      (bind_eq_ok_iff _ _ _).mpr ⟨_, (Count.add_eq_ok_iff _ _ _ _).mpr ⟨name, rfl⟩, rfl⟩
    have created := (Organism.create_eq_ok_iff world.nextId offset energy world.config _).mpr
      ⟨storage, rfl⟩
    obtain ⟨slot, next, adopted⟩ := adopts.mpr ⟨ledger, births⟩
    exact ⟨slot, next, (bind_eq_ok_iff _ _ _).mpr ⟨_, allocated, (bind_eq_ok_iff _ _ _).mpr
      ⟨_, created, adopted⟩⟩⟩

/-- An organism is placed where it is not refused, if it can be enrolled. -/
theorem spawnOrganism_eq_some_iff (consistent : world.pool.Consistent)
    (countable : world.pool.capacity < limit64) :
    (∃ slot next, world.spawnOrganism offset code energy = .ok (some slot, next)) ↔
      world.Admits offset energy ∧ world.Enrolls energy := by
  by_cases admits : world.Admits offset energy
  · rw [spawnOrganism_iff_of_admits admits consistent countable]
    exact (and_iff_right admits).symm
  · have refused : world.spawnOrganism offset code energy = .ok (none, world) :=
      spawnOrganism_eq_none_iff.mpr ⟨admits, rfl⟩
    constructor
    · rintro ⟨slot, next, placed⟩
      cases refused.symm.trans placed
    · rintro ⟨admits', -⟩
      exact absurd admits' admits

/-- A token is refused before anything else is done, or not at all. -/
theorem spawnToken_eq_false_iff : world.spawnToken offset kind atoms = .ok (false, next) ↔
    ¬ world.AdmitsToken offset kind ∧ next = world := by
  constructor
  · intro spawned
    obtain ⟨⟨answer, surfaces, grid⟩, done, spawned⟩ := (bind_eq_ok_iff _ _ _).mp spawned
    rcases onSurface_eq_ok done with
      ⟨unknown, rfl, rfl, rfl⟩ | ⟨surface, value, changed, own, inserted, rfl, rfl⟩
    · cases spawned
      refine ⟨?_, rfl⟩
      rintro ⟨surface, own, -⟩
      cases unknown.symm.trans own
    · cases value with
      | true => cases spawned
      | false =>
        -- The surface is put back as it was found, so no surface has changed.
        obtain ⟨rfl, rfl⟩ := Surface.insert_eq_ok inserted
        rw [set_getElem?_self own] at spawned
        cases spawned
        refine ⟨?_, rfl⟩
        rintro ⟨surface', own', room, free⟩
        cases own.symm.trans own'
        exact Surface.insert_ne_false room free inserted
  · rintro ⟨refused, rfl⟩
    cases own : next.surfaces[kind]? with
    | none =>
      exact (bind_eq_ok_iff _ _ _).mpr ⟨_, onSurface_of_none own, rfl⟩
    | some surface =>
      have turned : surface.insert next.grid offset atoms = .ok (false, surface, next.grid) :=
        Surface.insert_of_refused fun ⟨room, free⟩ => refused ⟨surface, own, room, free⟩
      refine (bind_eq_ok_iff _ _ _).mpr ⟨_, onSurface_of_ok own turned, ?_⟩
      rw [set_getElem?_self own]
      rfl

/-- A token that is not refused is placed, if it can be counted. -/
theorem spawnToken_eq_true_iff : (∃ next, world.spawnToken offset kind atoms = .ok (true, next)) ↔
    world.AdmitsToken offset kind ∧ world.EnrollsToken kind atoms := by
  constructor
  · rintro ⟨next, spawned⟩
    obtain ⟨⟨answer, surfaces, grid⟩, done, spawned⟩ := (bind_eq_ok_iff _ _ _).mp spawned
    rcases onSurface_eq_ok done with
      ⟨-, rfl, -, -⟩ | ⟨surface, value, changed, own, inserted, rfl, -⟩
    · cases spawned
    · cases value with
      | false => cases spawned
      | true =>
        obtain ⟨room, free, -⟩ := Surface.insert_eq_ok inserted
        refine ⟨⟨surface, own, room, free⟩, fun surface' own' => ?_⟩
        cases own.symm.trans own'
        exact (Surface.insert_iff_of_room room free).mp ⟨_, _, inserted⟩
  · rintro ⟨⟨surface, own, room, free⟩, enrolls⟩
    obtain ⟨changed, grid, inserted⟩ :=
      (Surface.insert_iff_of_room room free).mpr (enrolls surface own)
    exact ⟨_, (bind_eq_ok_iff _ _ _).mpr ⟨_, onSurface_of_ok own inserted, rfl⟩⟩

section Drawing

variable [DrawSource ρ]

theorem kill_eq_false_iff :
    world.kill slot = .ok (false, next) ↔ world.pool.get? slot = none ∧ next = world := by
  constructor
  · intro killed
    obtain ⟨⟨removed, pool⟩, removing, killed⟩ := (bind_eq_ok_iff _ _ _).mp killed
    cases removed with
    | none =>
      obtain ⟨vacant, rfl⟩ := Pool.remove_eq_none removing
      cases killed
      exact ⟨vacant, rfl⟩
    | some org =>
      obtain ⟨buried, -, answer⟩ := (bind_eq_ok_iff _ _ _).mp killed
      cases answer
  · rintro ⟨vacant, rfl⟩
    have removing : next.pool.remove slot = .ok (none, next.pool) := by
      unfold Pool.remove
      rw [vacant]
    exact (bind_eq_ok_iff _ _ _).mpr ⟨_, removing, rfl⟩

theorem runOrganism_eq_none_iff : world.runOrganism slot lines = .ok (none, next) ↔
    world.pool.get? slot = none ∧ next = world := by
  unfold runOrganism Pool.take
  cases live : world.pool.get? slot with
  | none => simp only [Except.ok.injEq, Prod.mk.injEq, true_and, eq_comm]
  | some org =>
    constructor
    · intro ran
      obtain ⟨⟨fate, after, middle⟩, -, ran⟩ := (bind_eq_ok_iff _ _ _).mp ran
      obtain ⟨settled, -, answer⟩ := (bind_eq_ok_iff _ _ _).mp ran
      cases answer
    · rintro ⟨vacant, -⟩
      cases vacant

/-! ### Attempts in a world -/

/-- Calls that come to nothing leave the world as it was. -/
structure LeavesNoTrace (world : World ρ) : Prop where
  spawnOrganism : ∀ offset code energy next,
    world.spawnOrganism offset code energy = .ok (none, next) → next = world
  spawnToken : ∀ offset kind atoms next,
    world.spawnToken offset kind atoms = .ok (false, next) → next = world
  kill : ∀ slot next, world.kill slot = .ok (false, next) → next = world
  runOrganism : ∀ slot lines next, world.runOrganism slot lines = .ok (none, next) → next = world

/-- Moreover, organisms and tokens are placed wherever they can be placed. -/
structure Obliging (world : World ρ) : Prop extends LeavesNoTrace world where
  organism : ∀ offset code energy,
    (∃ slot next, world.spawnOrganism offset code energy = .ok (some slot, next)) ↔
      world.Admits offset energy
  token : ∀ offset kind atoms,
    (∃ next, world.spawnToken offset kind atoms = .ok (true, next)) ↔
      world.AdmitsToken offset kind

/-- Calls that come to nothing leave the world as it was. Placing an organism or a token comes
to nothing exactly if there is no room for it, or no energy; and where there is, it succeeds
exactly if the newcomer can be entered in the books. -/
theorem attempts_decided {config : Config} (reachable : world.Reachable config) :
    world.LeavesNoTrace ∧
      (∀ offset code energy,
        (world.spawnOrganism offset code energy = .ok (none, world) ↔
          ¬ world.Admits offset energy) ∧
        ((∃ slot next, world.spawnOrganism offset code energy = .ok (some slot, next)) ↔
          world.Admits offset energy ∧ world.Enrolls energy)) ∧
      ∀ offset kind atoms,
        (world.spawnToken offset kind atoms = .ok (false, world) ↔
          ¬ world.AdmitsToken offset kind) ∧
        ((∃ next, world.spawnToken offset kind atoms = .ok (true, next)) ↔
          world.AdmitsToken offset kind ∧ world.EnrollsToken kind atoms) := by
  have consistent := reachable.lent.consistent
  refine ⟨⟨?_, ?_, ?_, ?_⟩, fun offset code energy => ⟨?_, ?_⟩, fun offset kind atoms => ⟨?_, ?_⟩⟩
  · exact fun _ _ _ _ refused => (spawnOrganism_eq_none_iff.mp refused).2
  · exact fun _ _ _ _ refused => (spawnToken_eq_false_iff.mp refused).2
  · exact fun _ _ refused => (kill_eq_false_iff.mp refused).2
  · exact fun _ _ _ refused => (runOrganism_eq_none_iff.mp refused).2
  · simp only [spawnOrganism_eq_none_iff, and_true]
  · exact spawnOrganism_eq_some_iff consistent reachable.capacity_lt
  · simp only [spawnToken_eq_false_iff, and_true]
  · exact spawnToken_eq_true_iff

end Drawing

end Asking

set_option maxRecDepth 20000 in
/-- The cramped world with an organism that has hardly any energy, and what may come next. -/
theorem perform_pauper :
    ∃ start world : World Generator, create .cramped (.ofSeed 0) false = .ok (.ok start) ∧
      start.perform (.spawnOrganism 0 [] 1) = .ok world ∧
      world.spawnOrganism 0 [] 10 = .ok (none, world) ∧
      (∃ next, world.spawnOrganism 1 [] 10 = .ok (some 1, next)) ∧
      world.spawnOrganism 1 [] maxAmount = .error .addOverflow ∧
      world.grid.Free 1 ∧ world.pool.isFull = false :=
  ⟨_, _, rfl, rfl, rfl, ⟨_, rfl⟩, rfl, ⟨by decide, rfl⟩, rfl⟩

theorem attempts_decided_pauper :
    ∃ world : World Generator, world.Reachable .cramped ∧ world.LeavesNoTrace ∧
      ¬ world.Admits 0 10 ∧ world.Admits 1 10 ∧ world.Enrolls 10 := by
  obtain ⟨start, world, created, placed, refused, ⟨next, accepted⟩, -⟩ := perform_pauper
  have founded : start.Reachable .cramped := .created (Generator.ofSeed 0) false start created
  have reachable : world.Reachable .cramped := .called start world _ founded placed
  obtain ⟨traceless, organisms, -⟩ := attempts_decided reachable
  have able := (organisms 1 [] 10).2.mp ⟨1, next, accepted⟩
  exact ⟨world, reachable, traceless, (organisms 0 [] 10).1.mp refused, able.1, able.2⟩

/-- There is an empty cell and a free slot, but the ledger does not take the largest amount of
energy in addition to what it has. -/
theorem not_obliging_rich :
    ∃ start world : World Generator, create .cramped (.ofSeed 0) false = .ok (.ok start) ∧
      start.perform (.spawnOrganism 0 [] 1) = .ok world ∧ world.Reachable .cramped ∧
      world.Admits 1 maxAmount ∧ world.spawnOrganism 1 [] maxAmount = .error .addOverflow ∧
      ¬ world.Obliging := by
  obtain ⟨start, world, created, placed, -, -, faulted, free, room⟩ := perform_pauper
  have founded : start.Reachable .cramped := .created (Generator.ofSeed 0) false start created
  have reachable : world.Reachable .cramped := .called start world _ founded placed
  have admits : world.Admits 1 maxAmount := ⟨by decide, room, free⟩
  refine ⟨start, world, created, placed, reachable, admits, faulted, fun obliging => ?_⟩
  obtain ⟨slot, next, spawned⟩ := (obliging.organism 1 [] maxAmount).mpr admits
  cases faulted.symm.trans spawned

end World

end Vivarium
