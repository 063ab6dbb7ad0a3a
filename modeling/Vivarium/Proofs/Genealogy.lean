import Vivarium.Proofs.Census.Population

/-!
# The genealogy of a world

A world that records its births has a genealogy at any time. The records count the births
from zero without a gap, each organism has the one record of its birth, and a parent is
recorded before its children.

Moves are of two kinds for this: a quiet one changes nothing about who is there except that
somebody may leave, and a birth is the reception of a newborn with a quiet rest. An iteration
balances: whoever comes or leaves is counted, and whoever comes is recorded.
-/
namespace Vivarium

namespace Census

variable {words : Int → Prop} {census between next last : Census}
  {records : List BirthRecord} {slot : Nat} {org after : Organism}

/-! ### Quiet moves -/

/-- Nobody comes and nothing is recorded; those who stay are who they were. -/
structure Quiet (census next : Census) : Prop where
  lineage : next.lineage = census.lineage
  nextId : next.nextId = census.nextId
  stayed : ∀ slot after, next.residents slot = some after →
    ∃ org, census.residents slot = some org ∧ after.id = org.id ∧ after.parent = org.parent

namespace Quiet

/-- The same residents with the same records. -/
theorem of_same (lineage : next.lineage = census.lineage) (nextId : next.nextId = census.nextId)
    (residents : next.residents = census.residents) : census.Quiet next :=
  ⟨lineage, nextId, fun _ after stays => ⟨after, residents ▸ stays, rfl, rfl⟩⟩

theorem trans (first : census.Quiet between) (rest : between.Quiet next) : census.Quiet next where
  lineage := rest.lineage.trans first.lineage
  nextId := rest.nextId.trans first.nextId
  stayed := by
    intro slot after stays
    obtain ⟨middle, stayed, id', parent'⟩ := rest.stayed slot after stays
    obtain ⟨org, lived, id, parent⟩ := first.stayed slot middle stayed
    exact ⟨org, lived, id'.trans id, parent'.trans parent⟩

theorem seat (resident : census.residents slot = some org) (id : after.id = org.id)
    (parent : after.parent = org.parent) : census.Quiet (census.seat slot after) where
  lineage := rfl
  nextId := rfl
  stayed := by
    intro other seated
    simp only [Census.seat, Function.update_apply]
    split
    next here =>
      rintro ⟨⟩
      exact ⟨org, here ▸ resident, id, parent⟩
    next => exact fun stays => ⟨seated, stays, rfl, rfl⟩

theorem dismiss (census : Census) (slot : Nat) : census.Quiet (census.dismiss slot) where
  lineage := rfl
  nextId := rfl
  stayed := by
    intro other after
    simp only [Census.dismiss, Function.update_apply]
    split
    next =>
      intro stays
      cases stays
    next => exact fun stays => ⟨after, stays, rfl, rfl⟩

end Quiet

/-- A newborn comes in at this census, and the rest of the move is quiet. -/
structure Birth (words : Int → Prop) (census next : Census) (slot : Nat) (org : Organism) :
    Prop where
  vacant : census.residents slot = none
  newborn : ∃ bearer, census.Newborn words bearer org ∧
    ∀ parent ∈ bearer, ∃ home, census.residents home = some parent
  quiet : (census.receive slot org).Quiet next

/-- The two kinds of moves. -/
theorem Move.quiet_or_birth (move : census.Move words next) :
    census.Quiet next ∨ ∃ slot org, census.Birth words next slot org := by
  cases move with
  | opened | closed => exact .inl (.of_same rfl rfl rfl)
  | change next changed =>
    cases changed with
    | leave slot org resident counted => exact .inl (.dismiss census slot)
    | spawn slot org vacant newborn =>
      exact .inr ⟨slot, org, vacant, ⟨none, newborn, nofun⟩, .of_same rfl rfl rfl⟩
    | deed slot next done =>
      cases done with
      | alone org after resident evolves =>
        exact .inl (.seat resident evolves.id evolves.parent)
      | bite org after prey victim taken resident evolves other caught nonneg left =>
        have bitten :
            census.Quiet (census.seat victim { prey with energy := prey.energy - taken }) :=
          .seat caught rfl rfl
        refine .inl (bitten.trans (.seat ?_ evolves.id evolves.parent))
        simpa [Census.seat, Function.update_of_ne other.symm] using resident
      | bear org after child fresh resident evolves vacant newborn =>
        have elsewhere : slot ≠ fresh := by
          rintro rfl
          rw [vacant] at resident
          cases resident
        have bears : (census.receive fresh child).residents slot = some org := by
          simpa [Census.receive, Census.seat, Function.update_of_ne elsewhere] using resident
        have bearer : ∀ parent ∈ some org, ∃ home, census.residents home = some parent := by
          rintro parent ⟨⟩
          exact ⟨slot, resident⟩
        -- The bearer has paid for the child, which is all that happens after the birth.
        exact .inr ⟨fresh, child, vacant, ⟨some org, newborn, bearer⟩,
          .seat bears evolves.id evolves.parent⟩

/-! ### Genealogies -/

/-- These records, newest first, are the genealogy at this census. -/
structure Genealogy (census : Census) (records : List BirthRecord) : Prop where
  lineage : census.lineage = some records
  nextId : census.nextId = records.length
  counted : records.reverse.map BirthRecord.id = List.range records.length
  known : ∀ slot org, census.residents slot = some org →
    ∃ record ∈ records, record.id = org.id ∧ record.parent = org.parent
  apart : ∀ slot other org twin, census.residents slot = some org →
    census.residents other = some twin → org.id = twin.id → slot = other
  ancestry : ∀ newer record earlier, records = newer ++ record :: earlier →
    ∀ id, record.parent = some id → ∃ parent ∈ earlier, parent.id = id

namespace Genealogy

theorem vacant (config : Config) : (Census.vacant config true).Genealogy [] where
  lineage := rfl
  nextId := rfl
  counted := rfl
  known := fun _ _ nobody => nomatch nobody
  apart := fun _ _ _ _ nobody => nomatch nobody
  ancestry := by simp

theorem id_lt (genealogy : census.Genealogy records) {record : BirthRecord}
    (member : record ∈ records) : record.id < records.length := by
  have listed : record.id ∈ records.reverse.map BirthRecord.id :=
    List.mem_map_of_mem (List.mem_reverse.mpr member)
  rw [genealogy.counted] at listed
  exact List.mem_range.mp listed

/-- No identity is recorded twice. -/
theorem eq_of_id (genealogy : census.Genealogy records) {first second : BirthRecord}
    (member : first ∈ records) (member' : second ∈ records) (same : first.id = second.id) :
    first = second := by
  have distinct : (records.reverse.map BirthRecord.id).Nodup := by
    rw [genealogy.counted]
    exact List.nodup_range
  exact List.inj_on_of_nodup_map distinct (List.mem_reverse.mpr member)
    (List.mem_reverse.mpr member') same

theorem quiet (genealogy : census.Genealogy records) (quiet : census.Quiet next) :
    next.Genealogy records where
  lineage := quiet.lineage.trans genealogy.lineage
  nextId := quiet.nextId.trans genealogy.nextId
  counted := genealogy.counted
  known := by
    intro slot after stays
    obtain ⟨org, lived, id, parent⟩ := quiet.stayed slot after stays
    rw [id, parent]
    exact genealogy.known slot org lived
  apart := by
    intro slot other after twin stays stays' same
    obtain ⟨org, lived, id, -⟩ := quiet.stayed slot after stays
    obtain ⟨org', lived', id', -⟩ := quiet.stayed other twin stays'
    rw [id, id'] at same
    exact genealogy.apart slot other org org' lived lived' same
  ancestry := genealogy.ancestry

/-- A newborn has the next identity, so its record goes on counting. -/
theorem receive (genealogy : census.Genealogy records) {bearer : Option Organism}
    (newborn : census.Newborn words bearer org)
    (resident : ∀ parent ∈ bearer, ∃ home, census.residents home = some parent) :
    (census.receive slot org).Genealogy (census.recordOf org :: records) := by
  have number : org.id = records.length := newborn.identity.trans genealogy.nextId
  have unused : ∀ other old, census.residents other = some old → old.id ≠ org.id := by
    intro other old lives same
    obtain ⟨record, member, id, -⟩ := genealogy.known other old lives
    have earlier := genealogy.id_lt member
    omega
  constructor
  case lineage => simp only [Census.receive, genealogy.lineage, Option.map_some]
  case nextId => simp only [Census.receive, genealogy.nextId, List.length_cons]
  case counted =>
    simp only [List.reverse_cons, List.map_append, genealogy.counted, List.map_cons, recordOf,
      number, List.map_nil, List.length_cons, List.range_succ]
  case known =>
    intro other resident'
    simp only [Census.receive, Census.seat, Function.update_apply]
    split
    · rintro ⟨⟩
      exact ⟨census.recordOf org, List.mem_cons_self, rfl, rfl⟩
    · intro lives
      obtain ⟨record, member, same⟩ := genealogy.known other resident' lives
      exact ⟨record, List.mem_cons_of_mem _ member, same⟩
  case apart =>
    intro other other' old twin
    simp only [Census.receive, Census.seat, Function.update_apply]
    split <;> split
    next here here' => exact fun _ _ _ => here.trans here'.symm
    next =>
      rintro ⟨⟩ lives same
      exact absurd same.symm (unused other' twin lives)
    next =>
      rintro lives ⟨⟩ same
      exact absurd same (unused other old lives)
    next => exact genealogy.apart other other' old twin
  case ancestry =>
    intro newer record earlier split id parent
    rcases newer with - | ⟨newest, newer⟩
    · obtain ⟨rfl, rfl⟩ := List.cons.inj split
      -- The parent is a resident, so its own birth has been recorded.
      rw [show (census.recordOf org).parent = org.parent from rfl, newborn.parent] at parent
      obtain ⟨bears, rfl, rfl⟩ := Option.map_eq_some_iff.mp parent
      obtain ⟨home, lives⟩ := resident bears rfl
      obtain ⟨record, member, same, -⟩ := genealogy.known home bears lives
      exact ⟨record, member, same⟩
    · obtain ⟨rfl, rest⟩ := List.cons.inj split
      exact genealogy.ancestry newer record earlier rest id parent

end Genealogy

/-- What a way preserves of genealogies. -/
theorem Moves.genealogy {config : Config} (moves : (vacant config true).Moves words last) :
    ∃ records, last.Genealogy records := by
  refine moves.preserve (fun census => ∃ records, census.Genealogy records) ?_
    ⟨[], .vacant config⟩
  rintro census next move ⟨records, genealogy⟩
  rcases move.quiet_or_birth with quiet | ⟨slot, org, birth⟩
  · exact ⟨records, genealogy.quiet quiet⟩
  · obtain ⟨bearer, newborn, resident⟩ := birth.newborn
    exact ⟨_, (genealogy.receive newborn resident).quiet birth.quiet⟩

/-! ### Balance -/

/-- Since there were so many organisms and these records, whoever came or left has been
counted, and whoever came has been recorded. -/
structure Balanced (size : Nat) (records : List BirthRecord) (census : Census) : Prop where
  balance : census.size + census.deaths = size + census.births
  delivered : ∃ fresh, census.lineage = some (fresh ++ records) ∧ fresh.length = census.births

namespace Balanced

variable {size : Nat}

theorem seat (balanced : census.Balanced size records) (slot : Nat) (org : Organism) :
    (census.seat slot org).Balanced size records :=
  ⟨balanced.balance, balanced.delivered⟩

theorem receive (balanced : census.Balanced size records) (slot : Nat) (org : Organism) :
    (census.receive slot org).Balanced size records := by
  obtain ⟨balance, fresh, recorded, count⟩ := balanced
  constructor
  · simp only [Census.receive, Census.seat]
    omega
  · refine ⟨census.recordOf org :: fresh, ?_, ?_⟩
    · simp only [Census.receive, recorded, Option.map_some, List.cons_append]
    · simp only [Census.receive, List.length_cons, count]

theorem dismiss (balanced : census.Balanced size records) (counted : 1 ≤ census.size)
    (slot : Nat) : (census.dismiss slot).Balanced size records := by
  refine ⟨?_, balanced.delivered⟩
  have balance := balanced.balance
  simp only [Census.dismiss]
  omega

theorem change (balanced : census.Balanced size records) (change : census.Change words next) :
    next.Balanced size records := by
  cases change with
  | spawn slot org vacant newborn => exact balanced.receive slot org
  | leave slot org resident counted => exact balanced.dismiss counted slot
  | deed slot next done =>
    cases done with
    | alone => exact balanced.seat ..
    | bite => exact (balanced.seat ..).seat ..
    | bear => exact (balanced.receive ..).seat ..

end Balanced

end Census

namespace World

variable {ρ : Type} [DrawSource ρ]

/-- An iteration balances from any world between operations, whoever made it. -/
theorem step_balanced {world next : World ρ} {report : StepReport} {records : List BirthRecord}
    (lent : world.pool.LentOnly none) (recorded : world.lineage = some records)
    (stepped : world.step = .ok (report, next)) :
    next.pool.size + report.deaths = world.pool.size + report.births ∧
      ∃ fresh, next.lineage = some (fresh ++ records) ∧ fresh.length = report.births := by
  obtain ⟨last, changes, closed, births, deaths, -⟩ := step_changes lent stepped
  have opened : Census.Balanced world.pool.size records
      { world.census with births := 0, deaths := 0 } := ⟨rfl, [], recorded, rfl⟩
  obtain ⟨balance, delivered⟩ := changes.preserve (Census.Balanced world.pool.size records)
    (fun change balanced => balanced.change change) opened
  have size : next.pool.size = last.size := congrArg Census.size closed
  have lineage : next.lineage = last.lineage := congrArg Census.lineage closed
  rw [size, lineage, births, deaths]
  exact ⟨balance, delivered⟩

end World

end Vivarium
