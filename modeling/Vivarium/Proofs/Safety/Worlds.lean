import Vivarium.Proofs.Callers
import Vivarium.Proofs.Config.Accepted
import Vivarium.Proofs.Pool.Slots
import Vivarium.Proofs.Safety.Mutations
import Vivarium.Proofs.Safety.Surfaces

/-!
# Sound worlds

The facts about a world on which its operations rely for ending well: its pool has
slots of which exactly those on the stack are free, its organisms are sound, there is
a surface of energy, token sets are consistent and the field is not empty. Each
operation that changes one of these parts keeps the facts about it.
-/
namespace Vivarium

variable {config : Config} {ρ : Type}

/-- A sound organism with as much room for callers as the configuration says, which has
been fresh once. -/
structure Organism.Belongs (config : Config) (org : Organism) : Prop where
  sound : org.Sound
  stackSize : org.stackSize = config.codeStackSize
  born : ∃ id offset energy, (fresh id offset energy config).Becomes org

theorem Organism.KeepsCourse.belongs {org after : Organism} (kept : org.KeepsCourse after)
    (belongs : org.Belongs config) : after.Belongs config := by
  obtain ⟨id, offset, energy, becomes⟩ := belongs.born
  exact ⟨kept.sound belongs.sound, kept.stackSize.trans belongs.stackSize,
    id, offset, energy, becomes.tail (.inr kept)⟩

theorem Organism.Executes.belongs {org after : Organism} (executes : org.Executes after)
    (belongs : org.Belongs config) : after.Belongs config := by
  obtain ⟨sound, stackSize⟩ := executes.sound belongs.sound
  obtain ⟨id, offset, energy, becomes⟩ := belongs.born
  exact ⟨sound, stackSize.trans belongs.stackSize,
    id, offset, energy, becomes.tail (.inl executes)⟩

/-- What is fresh has no callers, and a table of its own. -/
theorem Organism.belongs_fresh (accepted : config.Accepted) (id offset : Nat) (energy : Int) :
    (fresh id offset energy config).Belongs config where
  sound :=
    { coherent := BlockTable.fits_ofGenome []
      period := Nat.le_max_right _ _
      room := Nat.pos_of_ne_zero accepted.memory.2
      frames := Nat.zero_le _ }
  stackSize := rfl
  born := ⟨id, offset, energy, .refl⟩

/-! ### Pools -/

namespace Pool

/-- The facts about a pool that lends at most one slot. -/
structure Sound (config : Config) (out : Option Nat) (pool : Pool) : Prop where
  lent : pool.LentOnly out
  capacity : 0 < pool.capacity
  residents : ∀ slot org, pool.get? slot = some org → org.Belongs config

variable {pool next : Pool} {out : Option Nat} {slot : Nat} {org : Organism}

theorem insert_endsWell (sound : pool.Sound config out) (org : Organism) :
    EndsWell config (pool.insert org) (fun _ => True) := by
  unfold insert
  split
  next => exact .ok trivial
  next slot free stack =>
    have isFree : pool.slots[slot]? = some .free :=
      (sound.lent.consistent.mem_free slot).mp (by simp [stack])
    have inside : slot < pool.slots.size := lt_capacity_of_getElem? isFree
    rw [if_pos inside]
    exact (Count.add_endsWell _ _ _).bind fun _ _ _ => .pure trivial

theorem freeSlot_endsWell (consistent : pool.Consistent) {state : PoolSlot}
    (held : pool.slots[slot]? = some state) (isAllocated : state ≠ .free) :
    EndsWell config (pool.freeSlot slot) (fun _ => True) :=
  (Count.sub_endsWell (consistent.allocated_pos held isAllocated)).bind fun _ _ _ => .pure trivial

theorem remove_endsWell (sound : pool.Sound config out) (slot : Nat) :
    EndsWell config (pool.remove slot) (fun _ => True) := by
  unfold remove
  split
  next => exact .ok trivial
  next org live =>
    have held := (pool.get?_eq_some_iff slot org).mp live
    exact (freeSlot_endsWell sound.lent.consistent held (by simp)).bind fun _ _ _ => .pure trivial

theorem release_endsWell (sound : pool.Sound config (some slot)) :
    EndsWell config (pool.release slot) (fun _ => True) := by
  have held := (sound.lent.lent slot).mpr rfl
  unfold release
  rw [if_pos ((pool.isLent_iff slot).mpr held)]
  exact freeSlot_endsWell sound.lent.consistent held (by simp)

/-- One slot is written, the others hold what they held. -/
theorem Sound.update_get? {resident : Option Organism} (sound : pool.Sound config out)
    (map : next.get? = Function.update pool.get? slot resident)
    (belongs : ∀ org, resident = some org → org.Belongs config) (other : Nat) (org : Organism)
    (live : next.get? other = some org) : org.Belongs config := by
  rw [map, Function.update_apply] at live
  split at live
  · exact belongs org live
  · exact sound.residents other org live

theorem Sound.insert (sound : pool.Sound config out) (belongs : org.Belongs config)
    {inserted : Option Nat} (done : pool.insert org = .ok (inserted, next)) :
    next.Sound config out := by
  cases inserted with
  | none => exact (insert_eq_none done).1 ▸ sound
  | some slot =>
    obtain ⟨lent, -, -, -, map, capacity⟩ := insert_eq_some sound.lent done
    refine ⟨lent, capacity ▸ sound.capacity, sound.update_get? map fun resident same => ?_⟩
    cases same
    exact belongs

theorem Sound.remove (sound : pool.Sound config out) {removed : Option Organism}
    (done : pool.remove slot = .ok (removed, next)) : next.Sound config out := by
  cases removed with
  | none => exact (remove_eq_none done).2 ▸ sound
  | some org =>
    obtain ⟨-, lent, map, capacity⟩ := remove_eq_some sound.lent done
    exact ⟨lent, capacity ▸ sound.capacity, sound.update_get? map fun _ same => nomatch same⟩

theorem Sound.update (sound : pool.Sound config out) {before : Organism}
    (live : pool.get? slot = some before) (belongs : org.Belongs config) :
    (pool.update slot org).Sound config out := by
  obtain ⟨lent, map, capacity⟩ := update_of_get? sound.lent live org
  refine ⟨lent, capacity ▸ sound.capacity, sound.update_get? map fun resident same => ?_⟩
  cases same
  exact belongs

theorem Sound.take (sound : pool.Sound config none) (taken : pool.take slot = some (org, next)) :
    next.Sound config (some slot) ∧ org.Belongs config := by
  obtain ⟨live, lent, map, capacity⟩ := take_eq_some sound.lent taken
  exact ⟨⟨lent, capacity ▸ sound.capacity, sound.update_get? map fun _ same => nomatch same⟩,
    sound.residents slot org live⟩

theorem Sound.restore (sound : pool.Sound config (some slot)) (belongs : org.Belongs config) :
    (pool.restore slot org).Sound config none := by
  obtain ⟨lent, map, capacity⟩ := restore_of_lent sound.lent org
  refine ⟨lent, capacity ▸ sound.capacity, sound.update_get? map fun resident same => ?_⟩
  cases same
  exact belongs

theorem Sound.release (sound : pool.Sound config (some slot))
    (done : pool.release slot = .ok next) : next.Sound config none := by
  obtain ⟨lent, map, capacity⟩ := release_of_lent sound.lent done
  exact ⟨lent, capacity ▸ sound.capacity, sound.update_get? map fun _ same => nomatch same⟩

end Pool

/-! ### Worlds -/

namespace World

/-- The facts about a world of a configuration, of which at most one slot is lent and
at least so many lines have been granted. -/
structure Sound (config : Config) (out : Option Nat) (lines : Nat) (world : World ρ) : Prop where
  settings : world.config = config
  pool : world.pool.Sound config out
  surfaces : world.surfaces ≠ []
  kept : KeptAll Grid.Wide world.surfaces world.grid
  lines : lines ≤ world.linesGranted

variable {world : World ρ} {out : Option Nat} {lines : Nat}

/-- Other surfaces, as many and as consistent, on a field as wide. -/
theorem Sound.ground (sound : world.Sound config out lines) {surfaces : List Surface} {grid : Grid}
    (kept : KeptAll Grid.Wide surfaces grid) (length : surfaces.length = world.surfaces.length) :
    { world with surfaces, grid }.Sound config out lines where
  settings := sound.settings
  pool := sound.pool
  surfaces := fun none : surfaces = [] =>
    sound.surfaces (List.length_eq_zero_iff.mp (by rw [← length, none, List.length_nil]))
  kept := kept
  lines := sound.lines

theorem Sound.energy (sound : world.Sound config out lines) : energyKind < world.surfaces.length :=
  List.length_pos_iff.mpr sound.surfaces

/-! ### Energy and ids -/

theorem charge_endsWell (sound : world.Sound config out lines) (org : Organism) (amount : Int) :
    EndsWell config (world.charge org amount) (fun done => done.2.Sound config out lines) :=
  (Amount.sub_endsWell _ _).bind fun _ _ _ =>
    (Amount.sub_endsWell _ _).bind fun _ _ _ => .pure { sound with }

theorem credit_endsWell (sound : world.Sound config out lines) (org : Organism) (amount : Int) :
    EndsWell config (world.credit org amount) (fun done => done.2.Sound config out lines) :=
  (Amount.add_endsWell _ _).bind fun _ _ _ =>
    (Amount.add_endsWell _ _).bind fun _ _ _ => .pure { sound with }

theorem allocateId_endsWell (sound : world.Sound config out lines) :
    EndsWell config world.allocateId (fun done => done.2.Sound config out lines) :=
  (Count.add_endsWell _ _ _).bind fun _ _ _ => .pure { sound with }

theorem maxEnergy_endsWell (settings : Config) :
    EndsWell config settings.maxEnergy (fun _ => True) :=
  (Amount.sub_endsWell _ _).bind fun _ _ _ => Amount.mul_endsWell _ _

theorem headroom_endsWell (world : World ρ) : EndsWell config world.headroom (fun _ => True) :=
  (maxEnergy_endsWell _).bind fun _ _ _ =>
    (Amount.sub_endsWell _ _).bind fun _ _ _ =>
      (Amount.sub_endsWell _ _).bind fun _ _ _ => Amount.sub_endsWell _ _

/-! ### Births -/

theorem adopt_endsWell (sound : world.Sound config out lines) {org : Organism}
    (belongs : org.Belongs config) :
    EndsWell config (world.adopt org) (fun done => done.2.Sound config out lines) := by
  unfold adopt
  refine (Pool.insert_endsWell sound.pool org).bind fun ⟨inserted, pool⟩ done _ => ?_
  have filled := sound.pool.insert belongs done
  cases inserted with
  | none => exact .pure { sound with pool := filled }
  | some slot =>
    refine (Amount.add_endsWell _ _).bind fun _ _ _ => ?_
    refine (Count.add_endsWell _ _ _).bind fun _ _ _ => ?_
    exact .pure { sound with pool := filled, kept := ⟨sound.kept.1, sound.kept.2.set _ _⟩ }

theorem create_endsWell (accepted : config.Accepted) (id offset : Nat) (energy : Int) :
    EndsWell config (Organism.create id offset energy config)
      (fun org => org.Belongs config) := by
  unfold Organism.create Organism.reserveRoom
  refine EndsWell.bind (.bind (reserve_endsWell Config.Roomy.memory) fun _ _ _ =>
    reserve_endsWell Config.Roomy.frames) fun _ _ _ => ?_
  exact .pure (Organism.belongs_fresh accepted _ _ _)

theorem spawnOrganism_endsWell (accepted : config.Accepted) (sound : world.Sound config out lines)
    (offset : Nat) (code : Genome) (energy : Int) :
    EndsWell config (world.spawnOrganism offset code energy)
      (fun done => done.2.Sound config out lines) := by
  unfold spawnOrganism
  split
  next => exact .ok sound
  next =>
    refine (allocateId_endsWell sound).bind fun ⟨id, named⟩ _ sound => ?_
    simp only at sound ⊢
    rw [sound.settings]
    -- Whatever genome is asked for, the organism takes it on before its first line.
    refine (create_endsWell accepted _ _ _).bind fun org _ belongs => ?_
    exact adopt_endsWell sound ((org.keepsCourse_setCode _ _).belongs belongs)

theorem spawnToken_endsWell (sound : world.Sound config out lines) (offset kind atoms : Nat) :
    EndsWell config (world.spawnToken offset kind atoms)
      (fun done => done.2.Sound config out lines) := by
  refine (onSurface_endsWell (fun surface grid consistent wide =>
    Surface.insert_endsWell ⟨consistent, wide⟩ offset atoms) sound.kept kind).bind
      fun ⟨_, _, _⟩ _ done => ?_
  exact .pure (sound.ground done.1 done.2.1)

variable [DrawSource ρ] [LawfulDrawSource ρ]

/-! ### Deaths -/

/-- Grid and chance together. -/
def WideState (state : Grid × ρ) : Prop := state.1.Wide

theorem bury_endsWell (sound : world.Sound config out lines) (org : Organism) :
    EndsWell config (world.bury org) (fun next => next.Sound config out lines) := by
  unfold bury
  refine (Amount.sub_endsWell _ _).bind fun _ _ _ => ?_
  have wide := sound.kept.2.set org.offset org.beneath
  simp only
  split
  next =>
    exact (Count.add_endsWell _ _ _).bind fun _ _ _ =>
      .pure { sound with kept := ⟨sound.kept.1, wide⟩ }
  next packet _ =>
    have ready : KeptAll WideState world.surfaces
        (world.grid.set org.offset org.beneath, world.source) := ⟨sound.kept.1, wide⟩
    refine (onSurface_endsWell (fun surface state consistent wide =>
      Surface.restore_endsWell ⟨consistent, wide⟩ packet state.2) ready packet.kind).bind
        fun ⟨_, _, _, _⟩ _ done => ?_
    refine (Count.add_endsWell _ _ _).bind fun _ _ _ => ?_
    exact .pure { sound.ground done.1 done.2.1 with }

theorem kill_endsWell (sound : world.Sound config out lines) (slot : Nat) :
    EndsWell config (world.kill slot) (fun done => done.2.Sound config out lines) := by
  unfold kill
  refine (Pool.remove_endsWell sound.pool slot).bind fun ⟨removed, pool⟩ done _ => ?_
  have emptied := sound.pool.remove done
  cases removed with
  | none => exact .pure { sound with pool := emptied }
  | some org =>
    have rest : { world with pool }.Sound config out lines := { sound with pool := emptied }
    exact (bury_endsWell rest org).bind fun _ _ buried => .pure buried

end World

end Vivarium
