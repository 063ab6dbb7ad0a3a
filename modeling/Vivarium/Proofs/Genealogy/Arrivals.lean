import Mathlib.Data.List.Forall2
import Vivarium.Proofs.Genealogy
import Vivarium.Proofs.Pool.Traffic
import Vivarium.Proofs.Residents

/-!
# Arrivals

The records of births, held against the run of which they tell. Somebody arrives with an act when
a slot that was vacant before it is taken after it. The slot of the organism that executes is not
vacant, so whoever comes back from its turn does not arrive. An act puts the records of those who
arrive with it in front of all others, and it records nobody else. So along a whole trail there
is one record for each arrival, in the same order, which tells what the organism was when it
entered the pool.

## Main result

- `World.performAll_genealogy`: the records of a run count from zero, tell of the arrivals one by
  one, and trace each organism back to nobody; each iteration balances.
-/
namespace Vivarium

/-- A record tells of this organism as it is. -/
structure BirthRecord.Describes (record : BirthRecord) (org : Organism) : Prop where
  id : record.id = org.id
  parent : record.parent = org.parent
  offset : record.offset = org.offset
  energy : record.energy = org.energy
  code : record.code = org.code

theorem World.describes_recordOf {ρ : Type} (world : World ρ) (org : Organism) :
    (world.recordOf org).Describes org := ⟨rfl, rfl, rfl, rfl, rfl⟩

/-- No slot is listed twice. -/
theorem Pool.nodup_toList (pool : Pool) : pool.toList.Nodup := by
  rw [toList, liveBelow_eq, List.append_nil]
  refine List.nodup_range.filterMap fun slot other entry here there => ?_
  obtain ⟨org, -, rfl⟩ := Option.map_eq_some_iff.mp here
  obtain ⟨twin, -, same⟩ := Option.map_eq_some_iff.mp there
  exact (congrArg Prod.fst same).symm

namespace Stage

variable {ρ : Type} {before after : Stage ρ} {slot : Nat} {org : Organism}

/-- The organism of each slot, in the pool or executing. -/
def residents (stage : Stage ρ) : Nat → Option Organism :=
  stage.player.elim stage.world.pool.get? fun player =>
    Function.update stage.world.pool.get? player.slot (some player.org)

/-- Whoever is in the pool afterwards in a slot that was vacant before, in the order of the
slots. -/
def newcomers (before after : Stage ρ) : List Organism :=
  (after.world.pool.toList.filter fun entry => (before.residents entry.1).isNone).map Prod.snd

/-- Whoever has come is recorded in front of all others as it comes in, and nobody else is. -/
def Registers (before after : Stage ρ) : Prop :=
  after.world.lineage = before.world.lineage.map
    (((before.newcomers after).map before.world.recordOf).reverse ++ ·)

theorem resident_of_get? (live : before.world.pool.get? slot = some org) :
    before.residents slot ≠ none := by
  unfold residents
  cases before.player with
  | none => simp [live]
  | some player =>
    simp only [Option.elim_some, Function.update_apply]
    split <;> simp [live]

theorem residents_eq_none (vacant : before.world.pool.get? slot = none)
    (notOut : before.player.map Player.slot ≠ some slot) : before.residents slot = none := by
  unfold residents
  cases executes : before.player with
  | none => exact vacant
  | some player =>
    have elsewhere : slot ≠ player.slot := by
      rintro rfl
      exact notOut (by rw [executes, Option.map_some])
    rw [Option.elim_some, Function.update_of_ne elsewhere]
    exact vacant

/-! ### Who comes with an act -/

/-- Where all slots taken were taken before, nobody has come. -/
theorem registers_of_known (silent : after.world.lineage = before.world.lineage)
    (known : ∀ slot org, after.world.pool.get? slot = some org → before.residents slot ≠ none) :
    before.Registers after := by
  have nobody : before.newcomers after = [] := by
    rw [newcomers, List.map_eq_nil_iff, List.filter_eq_nil_iff]
    rintro ⟨slot, org⟩ member vacant
    exact known slot org ((Pool.mem_toList _ _ _).mp member) (Option.isNone_iff_eq_none.mp vacant)
  rw [Registers, nobody, silent]
  simp

theorem registers_of_same (silent : after.world.lineage = before.world.lineage)
    (same : after.world.pool = before.world.pool) : before.Registers after :=
  registers_of_known silent fun _ _ live => resident_of_get? (same ▸ live)

/-- One slot is emptied, or filled again. -/
theorem registers_of_update {occupant : Option Organism}
    (silent : after.world.lineage = before.world.lineage)
    (map : after.world.pool.get? = Function.update before.world.pool.get? slot occupant)
    (known : occupant ≠ none → before.residents slot ≠ none) : before.Registers after := by
  refine registers_of_known silent fun other org live => ?_
  rw [map, Function.update_apply] at live
  split at live
  next here =>
    rw [here]
    exact known (by simp [live])
  next => exact resident_of_get? live

/-- Whoever is adopted is the only one who comes. -/
theorem registers_of_adopts {child : Organism} {fresh : Nat}
    (lent : before.world.pool.LentOnly (before.player.map Player.slot))
    (adopts : before.world.Adopts child fresh after.world) : before.Registers after := by
  obtain ⟨-, -, vacant, notOut, map, -⟩ := Pool.insert_eq_some lent adopts.inserted
  have free := residents_eq_none vacant notOut
  have alone : (after.world.pool.toList.filter fun entry => (before.residents entry.1).isNone) =
      [(fresh, child)] := by
    rw [← List.perm_singleton, List.perm_ext_iff_of_nodup
      (after.world.pool.nodup_toList.filter _) (List.nodup_singleton _)]
    rintro ⟨slot, org⟩
    rw [List.mem_filter, Pool.mem_toList, map, Function.update_apply, List.mem_singleton,
      Prod.mk.injEq]
    constructor
    · rintro ⟨live, isVacant⟩
      -- Whoever is in another slot has been there before.
      split at live
      next here => exact ⟨here, (Option.some.inj live).symm⟩
      next => exact absurd (Option.isNone_iff_eq_none.mp isVacant) (resident_of_get? live)
    · rintro ⟨rfl, rfl⟩
      exact ⟨if_pos rfl, by simp [free]⟩
  rw [Registers, newcomers, alone]
  exact adopts.recorded

end Stage

section Acts

variable {ρ : Type} [DrawSource ρ] {placing : Prop} {config : Config} {stage last : Stage ρ}
  {burial : Option (Burial ρ)}

open Stage

theorem Act.registers (act : Act placing stage burial last) (sound : stage.Sound config) :
    stage.Registers last := by
  have lent := sound.lent
  -- Somebody may come with a line, as a child, or be placed; all other acts empty a slot, fill
  -- one again or leave the pool alone.
  cases act with
  | notes => exact registers_of_same rfl rfl
  | enters taken =>
    obtain ⟨-, -, map, -⟩ := Pool.take_eq_some lent taken
    exact registers_of_update rfl map (absurd rfl)
  | line ran goesOn =>
    cases World.executeLine_touches ran goesOn with
    | spares same silent => exact registers_of_same silent same
    | bites victim prey energy caught bitten silent =>
      obtain ⟨-, map, -⟩ := Pool.update_of_get? lent caught { prey with energy }
      exact registers_of_update silent (bitten ▸ map) fun _ => resident_of_get? caught
    | bears child fresh begets adopts => exact registers_of_adopts lent adopts
  | devours ran lost =>
    obtain ⟨silent, victim, gone⟩ := lost.vacates lent
    exact registers_of_update silent gone (absurd rfl)
  | year aged =>
    have leaves := World.ageOrganism_leavesOthers aged
    exact registers_of_same leaves.lineage leaves.pool
  | returns world slot org =>
    obtain ⟨-, map, -⟩ := Pool.restore_of_lent lent org
    exact registers_of_update rfl map fun _ => by simp [residents]
  | leaves buried released =>
    obtain ⟨totalEnergy, grid, surfaces, source, rfl⟩ := World.counts_of_bury buried
    obtain ⟨-, map, -⟩ := Pool.release_of_lent lent released
    exact registers_of_update rfl map (absurd rfl)
  | killed removed buried =>
    obtain ⟨-, -, map, -⟩ := Pool.remove_eq_some lent removed
    obtain ⟨totalEnergy, grid, surfaces, source, rfl⟩ := World.counts_of_bury buried
    exact registers_of_update rfl map (absurd rfl)
  | spawns spawned =>
    rcases World.adopts_of_spawnOrganism spawned with ⟨same, silent⟩ | ⟨id, config, fresh, adopts⟩
    · exact registers_of_same silent same
    · exact registers_of_adopts lent adopts
  | places allowed light spawned =>
    obtain ⟨surfaces, grid, rfl⟩ := World.spawnToken_eq_ok spawned
    exact registers_of_same rfl rfl
  | replenishes replenished =>
    obtain ⟨surfaces, grid, source, rfl⟩ := World.replenish_eq_ok replenished
    exact registers_of_same rfl rfl
  | ticks ticked =>
    obtain ⟨surfaces, grid, source, rfl⟩ := World.tickSurfaces_eq_ok ticked
    exact registers_of_same rfl rfl

/-! ### Who comes along a trail -/

/-- Any number of acts, and whoever arrives on the way, as it is when it arrives. -/
inductive Arrives (placing : Prop) : Stage ρ → List Organism → Stage ρ → Prop where
  | refl (stage : Stage ρ) : Arrives placing stage [] stage
  | act {stage between last : Stage ρ} {burial : Option (Burial ρ)} {arrivals : List Organism}
      (first : Act placing stage burial between) (rest : Arrives placing between arrivals last) :
      Arrives placing stage (stage.newcomers between ++ arrivals) last

theorem Unfolds.arrives (unfolds : Unfolds placing stage last) :
    ∃ arrivals, Arrives placing stage arrivals last := by
  obtain ⟨burials, trail⟩ := unfolds
  induction trail with
  | refl stage => exact ⟨[], .refl stage⟩
  | act first _ ih =>
    obtain ⟨arrivals, rest⟩ := ih
    exact ⟨_, .act first rest⟩

/-- Along a trail one record is delivered for each arrival, which it describes. -/
theorem Arrives.recorded {arrivals : List Organism} {records : List BirthRecord}
    (arrives : Arrives placing stage arrivals last) (sound : stage.Sound config)
    (before : stage.world.lineage = some records) :
    ∃ fresh, last.world.lineage = some (fresh ++ records) ∧
      List.Forall₂ BirthRecord.Describes fresh.reverse arrivals := by
  induction arrives generalizing records with
  | refl stage => exact ⟨[], before, .nil⟩
  | @act stage between last burial arrivals first rest ih =>
    -- What the other acts deliver comes in front of the records of the first one.
    have registers : between.world.lineage = _ := first.registers sound
    rw [before, Option.map_some] at registers
    obtain ⟨fresh, known, described⟩ := ih (first.sound sound) registers
    refine ⟨fresh ++ ((stage.newcomers between).map stage.world.recordOf).reverse, ?_, ?_⟩
    · rw [known, List.append_assoc]
    · have newest : List.Forall₂ BirthRecord.Describes
          ((stage.newcomers between).map stage.world.recordOf) (stage.newcomers between) :=
        List.forall₂_map_left_iff.mpr
          (List.forall₂_same.mpr fun org _ => stage.world.describes_recordOf org)
      rw [List.reverse_append, List.reverse_reverse]
      exact List.rel_append newest described

end Acts

/-! ### Whole lives -/

namespace World

variable {ρ : Type} [DrawSource ρ]

/-- A created world grows out of terrain with an empty pool, on which no birth has been
recorded. -/
theorem terrain_of_create {config : Config} {source : ρ} {start : World ρ}
    (created : create config source true = .ok (.ok start)) :
    ∃ (terrain : World ρ) (placed : Nat), (⟨terrain, none⟩ : Stage ρ).Sound config ∧
      terrain.pool = .empty config.orgAmount ∧ terrain.lineage = some [] ∧
      terrain.seedPopulation = .ok (placed, start) := by
  obtain ⟨creatable, surfaces, grid, rest, placed, seeding, populating⟩ :=
    (create_eq_ok_iff _ _ _ _).mp created
  obtain ⟨blank, founded⟩ := founded_of_seeding true creatable seeding
  exact ⟨_, placed, founded.sound, rfl, rfl, populating⟩

/-- Whatever is called, the records received count from zero. Each organism of the pool has
its own record and no other one, and parents are recorded before their children. The world has
grown out of terrain without organisms, and on any way on which that goes, the records delivered
describe one by one who has arrived in the pool, in this order. An iteration from there
balances, and it delivers as many records as it counts births. -/
theorem performAll_genealogy {config : Config} {source : ρ} {start world : World ρ}
    (calls : List Call) (created : create config source true = .ok (.ok start))
    (performed : performAll calls start = .ok world) :
    ∃ records, world.lineage = some records ∧
      records.reverse.map BirthRecord.id = List.range records.length ∧
      (∀ slot org, world.pool.get? slot = some org →
        (∃! record, record ∈ records ∧ record.id = org.id) ∧
        (∃ record ∈ records, record.id = org.id ∧ record.parent = org.parent) ∧
        ∀ other twin, world.pool.get? other = some twin → twin.id = org.id → other = slot) ∧
      (∀ newer record earlier, records = newer ++ record :: earlier →
        ∀ id, record.parent = some id → ∃ parent ∈ earlier, parent.id = id) ∧
      (∃ (terrain : World ρ) (placed : Nat), terrain.pool = .empty config.orgAmount ∧
        terrain.lineage = some [] ∧ terrain.seedPopulation = .ok (placed, start) ∧
        (∃ arrivals, Arrives True ⟨terrain, none⟩ arrivals ⟨world, none⟩) ∧
        ∀ arrivals stage, Arrives True ⟨terrain, none⟩ arrivals stage →
          ∃ delivered, stage.world.lineage = some delivered ∧
            List.Forall₂ BirthRecord.Describes delivered.reverse arrivals) ∧
      ∀ report next, world.step = .ok (report, next) →
        next.pool.size + report.deaths = world.pool.size + report.births ∧
          ∃ fresh, next.lineage = some (fresh ++ records) ∧ fresh.length = report.births := by
  obtain ⟨moves, lent⟩ := moves_of_performAll created performed
  obtain ⟨records, genealogy⟩ := moves.genealogy
  refine ⟨records, genealogy.lineage, genealogy.counted, ?_, genealogy.ancestry, ?_, ?_⟩
  · -- Records are counted by their ids, so there is one for each.
    intro slot org live
    obtain ⟨record, member, id, parent⟩ := genealogy.known slot org live
    refine ⟨⟨record, ⟨member, id⟩, ?_⟩, ⟨record, member, id, parent⟩, ?_⟩
    · rintro other ⟨member', id'⟩
      exact genealogy.eq_of_id member' member (id'.trans id.symm)
    · intro other twin live' same
      exact genealogy.apart other slot twin org live' live same
  · -- The founders arrive when the terrain is populated, all others with the calls.
    obtain ⟨terrain, placed, sound, vacant, blank, seeded⟩ := terrain_of_create created
    have populated : Unfolds True ⟨terrain, none⟩ ⟨start, none⟩ := seedPopulation_unfolds seeded
    have lived := populated.trans (performAll_unfolds (fun _ _ _ => trivial) performed)
    refine ⟨terrain, placed, vacant, blank, seeded, lived.arrives, fun arrivals stage arrives => ?_⟩
    obtain ⟨delivered, recorded, described⟩ := arrives.recorded sound blank
    exact ⟨delivered, by rw [recorded, List.append_nil], described⟩
  · intro report next stepped
    exact step_balanced lent genealogy.lineage stepped

/-- In the small world the two founders, an organism placed on demand and its child have
arrived, each with its record, and the child has one record. -/
theorem performAll_genealogy_family :
    ∃ start world : World Generator, create .small (.ofSeed 7) true = .ok (.ok start) ∧
      performAll Call.familyLife start = .ok world ∧
      ∃ records child arrivals, world.lineage = some records ∧
        records.reverse.map BirthRecord.id = [0, 1, 2, 3] ∧ world.pool.get? 3 = some child ∧
        (∃! record, record ∈ records ∧ record.id = child.id) ∧ arrivals.length = 4 ∧
        List.Forall₂ BirthRecord.Describes records.reverse arrivals := by
  obtain ⟨start, world, created, performed, born, counted⟩ := performAll_family
  obtain ⟨child, live, -⟩ := Option.map_eq_some_iff.mp born
  obtain ⟨records, recorded, ids, known, -, ⟨_, _, -, -, -, ⟨arrivals, arrives⟩, describes⟩, -⟩ :=
    performAll_genealogy _ created performed
  obtain ⟨delivered, same, described⟩ := describes arrivals _ arrives
  have length : records.length = 4 := by simpa [recorded] using counted
  obtain rfl : records = delivered := Option.some.inj (recorded.symm.trans same)
  refine ⟨start, world, created, performed, records, child, arrivals, recorded, ?_, live,
    (known 3 child live).1, ?_, described⟩
  · rw [ids, length]
    rfl
  · rw [← described.length_eq, List.length_reverse, length]

end World

end Vivarium
