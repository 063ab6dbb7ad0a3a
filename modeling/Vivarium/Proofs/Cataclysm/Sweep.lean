import Vivarium.Proofs.Cataclysm
import Vivarium.Proofs.Pool.Traffic

/-!
# The slots that a cull tries

A cull walks over the slots with a bound that an empty slot raises, while organisms are
killed and placed on its way. All the same it comes to the lowest slots that were in use
when it began, to each of them once and in order: what is placed goes to the slot just
freed, which lies behind the walk, so the slots before it are as they were. A cull is
therefore the same as a list of replacements, and that list is known beforehand
(`replaceEach_of_cullFrom`).
-/
namespace Vivarium.World

variable {ρ : Type} {world middle next : World ρ} {slot : Nat}

/-! ### The lowest slots -/

def isLive (world : World ρ) (slot : Nat) : Bool := (world.pool.get? slot).isSome

/-- The slots in use among so many from one on, in ascending order. -/
def liveFrom (world : World ρ) (first many : Nat) : List Nat :=
  (List.range' first many).filter world.isLive

/-- The slots in use, in ascending order. -/
def liveSlots (world : World ρ) : List Nat := world.liveFrom 0 world.pool.capacity

/-- Of the slots in use, the lowest ones: as many as wanted, or all if there are not so many. -/
structure Lowest (world : World ρ) (wanted : Nat) (slots : List Nat) : Prop where
  ascending : slots.Pairwise (· < ·)
  live : ∀ slot ∈ slots, world.isLive slot = true
  count : slots.length = min wanted world.pool.size
  lowest : ∀ slot ∈ slots, ∀ other ∉ slots, world.isLive other = true → slot < other

theorem mem_liveSlots : slot ∈ world.liveSlots ↔ world.isLive slot = true := by
  rw [liveSlots, liveFrom, List.mem_filter, List.mem_range'_1]
  refine and_iff_right_of_imp fun live => ?_
  obtain ⟨org, held⟩ := Option.isSome_iff_exists.mp live
  have inside := Pool.lt_capacity_of_getElem? ((Pool.get?_eq_some_iff _ _ _).mp held)
  omega

theorem pairwise_liveSlots (world : World ρ) : world.liveSlots.Pairwise (· < ·) :=
  List.Pairwise.filter _ List.pairwise_lt_range'

/-- Between operations the count of the pool is that of the slots in use. -/
theorem length_liveSlots (lent : world.pool.LentOnly none) :
    world.liveSlots.length = world.pool.size := by
  have nobodyLent : ∀ state ∈ world.pool.slots.toList,
      state.isAllocated = state.organism?.isSome := by
    intro state member
    cases state with
    | free | live org => rfl
    | lent =>
      obtain ⟨slot, held⟩ := List.mem_iff_getElem?.mp member
      rw [Array.getElem?_toList] at held
      cases (lent.lent slot).mp held
  calc world.liveSlots.length
      = ((List.range world.pool.capacity).map (world.pool.slots.toList[·]?)).countP
          (fun entry => (entry.bind PoolSlot.organism?).isSome) := by
        rw [liveSlots, liveFrom, ← List.countP_eq_length_filter, ← List.range_eq_range',
          List.countP_map]
        congr 1
        funext slot
        simp [isLive, Pool.get?_eq_bind]
    _ = world.pool.slots.toList.countP PoolSlot.isAllocated := by
        rw [Pool.capacity, ← Array.length_toList, Pool.map_getElem?_range, List.countP_map]
        refine List.countP_congr fun state member => ?_
        simp [nobodyLent state member]
    _ = world.pool.size := (lent.consistent.size_eq_countP).symm

theorem lowest_take (lent : world.pool.LentOnly none) (wanted : Nat) :
    world.Lowest wanted (world.liveSlots.take wanted) where
  ascending := (pairwise_liveSlots world).sublist (List.take_sublist _ _)
  live slot member := mem_liveSlots.mp (List.mem_of_mem_take member)
  count := by rw [List.length_take, length_liveSlots lent]
  lowest := by
    intro slot member other outside live
    -- Whoever is not taken stands in the rest of the list, behind all that are.
    have split := List.take_append_drop wanted world.liveSlots
    have sorted := pairwise_liveSlots world
    rw [← split, List.pairwise_append] at sorted
    have listed := mem_liveSlots.mpr live
    rw [← split, List.mem_append] at listed
    exact sorted.2.2 slot member other (listed.resolve_left outside)

theorem liveFrom_congr {first many : Nat}
    (same : ∀ other, first ≤ other → next.pool.get? other = world.pool.get? other) :
    next.liveFrom first many = world.liveFrom first many := by
  refine List.filter_congr fun other member => ?_
  have later := (List.mem_range'_1.mp member).1
  rw [isLive, isLive, same other later]

theorem liveFrom_succ_of_live {many : Nat} (live : world.isLive slot = true) :
    world.liveFrom slot (many + 1) = slot :: world.liveFrom (slot + 1) many := by
  rw [liveFrom, List.range'_succ, List.filter_cons_of_pos live]
  rfl

theorem liveFrom_succ_of_vacant {many : Nat} (vacant : world.isLive slot = false) :
    world.liveFrom slot (many + 1) = world.liveFrom (slot + 1) many := by
  rw [liveFrom, List.range'_succ, List.filter_cons_of_neg (by simp [vacant])]
  rfl

section Drawing

variable [DrawSource ρ]

/-! ### A list of replacements -/

/-- Replace the organisms of the slots of a list, one after the other, and count those that
were replaced. -/
def replaceEach : List Nat → (replaced : Nat) → World ρ → Outcome (Nat × World ρ)
  | [], replaced, world => .ok (replaced, world)
  | slot :: rest, replaced, world =>
    match world.pool.get? slot with
    | none => replaceEach rest replaced world
    | some victim => do
      let (fresh, world) ← world.replace slot victim
      replaceEach rest (if fresh then replaced + 1 else replaced) world

theorem replaceEach_append (slots more : List Nat) (replaced : Nat) (world : World ρ) :
    replaceEach (slots ++ more) replaced world =
      replaceEach slots replaced world >>= fun done => replaceEach more done.1 done.2 := by
  induction slots generalizing replaced world with
  | nil => rfl
  | cons slot rest ih =>
    rw [List.cons_append, replaceEach, replaceEach]
    split
    next => exact ih replaced world
    next victim live =>
      cases world.replace slot victim with
      | error fault => rfl
      | ok answer => exact ih _ answer.2

/-- A replacement leaves all slots but its own alone. -/
theorem Succession.get?_of_ne {victim : Organism} {fresh : Bool} {other : Nat}
    (succession : world.Succession slot victim fresh next) (apart : other ≠ slot) :
    next.pool.get? other = world.pool.get? other := by
  cases succession with
  | spared source harmless => rfl
  | succeeded next' fresh harmless ready map | crowdedOut next' crowds ready map =>
    rw [map, Function.update_of_ne apart]

theorem Succession.lent {victim : Organism} {fresh : Bool}
    (succession : world.Succession slot victim fresh next) (lent : world.pool.LentOnly none) :
    next.pool.LentOnly none := by
  cases succession with
  | spared source harmless => exact lent
  | succeeded next' fresh harmless ready => exact ready
  | crowdedOut next' crowds ready => exact ready

/-- Replacements leave alone what is not in their list. -/
theorem replaceEach_others {slots : List Nat} {replaced total : Nat}
    (done : replaceEach slots replaced world = .ok (total, next))
    (lent : world.pool.LentOnly none) :
    next.pool.LentOnly none ∧
      ∀ other, other ∉ slots → next.pool.get? other = world.pool.get? other := by
  induction slots generalizing replaced world with
  | nil =>
    cases done
    exact ⟨lent, fun _ _ => rfl⟩
  | cons slot rest ih =>
    unfold replaceEach at done
    split at done
    next =>
      obtain ⟨ready, others⟩ := ih done lent
      exact ⟨ready, fun other outside => others other (List.not_mem_of_not_mem_cons outside)⟩
    next victim live =>
      obtain ⟨⟨fresh, left⟩, replacing, done⟩ := (bind_eq_ok_iff _ _ _).mp done
      have succession := succession_of_replace lent live replacing
      obtain ⟨ready, others⟩ := ih done (succession.lent lent)
      refine ⟨ready, fun other outside => ?_⟩
      rw [List.mem_cons, not_or] at outside
      exact (others other outside.2).trans (succession.get?_of_ne outside.1)

/-! ### A cull as a list of replacements -/

/-- A walk below a bound replaces the organisms of the lowest slots in use from where it is,
as many as the bound is away. -/
theorem replaceEach_of_cullFrom {remaining bound replaced total : Nat}
    (culled : cullFrom remaining slot bound replaced world = .ok (total, next))
    (lent : world.pool.LentOnly none) :
    replaceEach ((world.liveFrom slot remaining).take (bound - slot)) replaced world =
      .ok (total, next) := by
  -- Induction on the slots left to visit. An empty slot raises the bound, so its distance from
  -- the next slot stays; an organism brings the next slot one nearer to the bound.
  induction remaining generalizing slot bound replaced world with
  | zero =>
    rw [liveFrom, List.range'_zero, List.filter_nil, List.take_nil]
    exact culled
  | succ remaining ih =>
    unfold cullFrom at culled
    split at culled
    next below =>
      split at culled
      next vacant =>
        obtain ⟨raised, counted, culled⟩ := (bind_eq_ok_iff _ _ _).mp culled
        obtain ⟨-, rfl⟩ := (Count.add_eq_ok_iff _ _ _ _).mp counted
        have nobody : world.isLive slot = false := by rw [isLive, vacant, Option.isSome_none]
        have distance : bound - slot = bound + 1 - (slot + 1) := by omega
        rw [liveFrom_succ_of_vacant nobody, distance]
        exact ih culled lent
      next victim live =>
        obtain ⟨⟨fresh, left⟩, replacing, culled⟩ := (bind_eq_ok_iff _ _ _).mp culled
        have succession := succession_of_replace lent live replacing
        have somebody : world.isLive slot = true := by rw [isLive, live, Option.isSome_some]
        have distance : bound - slot = bound - (slot + 1) + 1 := by omega
        have ahead : left.liveFrom (slot + 1) remaining = world.liveFrom (slot + 1) remaining :=
          liveFrom_congr fun other later => succession.get?_of_ne (by omega)
        rw [liveFrom_succ_of_live somebody, distance, List.take_succ_cons, replaceEach, live,
          ← ahead]
        exact (bind_eq_ok_iff _ _ _).mpr ⟨_, replacing, ih culled (succession.lent lent)⟩
    next beyond =>
      cases culled
      have none : bound - slot = 0 := by omega
      rw [none, List.take_zero, replaceEach]

/-! ### One attempt -/

/-- There is no energy for a successor of this organism, or no empty cell. -/
def Lacks (world : World ρ) (victim : Organism) : Prop :=
  ∃ room available found source, world.headroom = .ok room ∧
    Amount.add room victim.energy = .ok available ∧
    world.grid.randomEmpty restoreAttempts world.source = .ok (found, source) ∧
    (found = none ∨ min world.config.orgEnergy available ≤ 0)

/-- Whoever is not replaced was spared for want of energy or of a cell, or was crowded out. -/
theorem lacks_or_crowds {victim : Organism} (lent : world.pool.LentOnly none)
    (live : world.pool.get? slot = some victim)
    (replaced : world.replace slot victim = .ok (false, next)) :
    world.Lacks victim ∨ world.Crowds slot victim := by
  obtain ⟨room, headroom, replaced⟩ := (bind_eq_ok_iff _ _ _).mp replaced
  obtain ⟨available, added, replaced⟩ := (bind_eq_ok_iff _ _ _).mp replaced
  obtain ⟨⟨found, source⟩, drawn, replaced⟩ := (bind_eq_ok_iff _ _ _).mp replaced
  simp only at replaced
  split at replaced
  next => exact .inl ⟨room, available, _, source, headroom, added, drawn, .inl rfl⟩
  next offset =>
    split at replaced
    next starved => exact .inl ⟨room, available, _, source, headroom, added, drawn, .inr starved⟩
    next fed =>
      obtain ⟨⟨done, left⟩, killing, replaced⟩ := (bind_eq_ok_iff _ _ _).mp replaced
      obtain ⟨⟨code, coded⟩, coding, replaced⟩ := (bind_eq_ok_iff _ _ _).mp replaced
      obtain ⟨⟨successor, spawned⟩, spawning, answer⟩ := (bind_eq_ok_iff _ _ _).mp replaced
      have alive := Int.not_le.mp fed
      obtain ⟨rfl, ⟨taken, -⟩ | ⟨fresh, -, rfl, -⟩⟩ :=
        spawnOrganism_of_kill lent live drawn killing coding alive spawning
      · exact .inr ⟨room, available, offset, source, left, headroom, added, alive, drawn, killing,
          taken⟩
      · cases answer

/-- For want of energy or of a cell nobody is killed. -/
theorem replace_of_lacks {victim : Organism} {fresh : Bool} (lacks : world.Lacks victim)
    (replaced : world.replace slot victim = .ok (fresh, next)) :
    fresh = false ∧ ∃ source, next = { world with source } := by
  obtain ⟨_, _, _, source, headroom, added, drawn, lacks⟩ := lacks
  obtain ⟨_, headroom', replaced⟩ := (bind_eq_ok_iff _ _ _).mp replaced
  obtain ⟨_, added', replaced⟩ := (bind_eq_ok_iff _ _ _).mp replaced
  obtain ⟨_, drawn', replaced⟩ := (bind_eq_ok_iff _ _ _).mp replaced
  rw [headroom] at headroom'
  cases headroom'
  rw [added] at added'
  cases added'
  rw [drawn] at drawn'
  cases drawn'
  simp only at replaced
  split at replaced
  next =>
    cases replaced
    exact ⟨rfl, source, rfl⟩
  next offset =>
    rcases lacks with nowhere | starved
    · cases nowhere
    · rw [if_pos starved] at replaced
      cases replaced
      exact ⟨rfl, source, rfl⟩

/-- What an attempt to replace an organism can do to the pool. -/
inductive Attempt (world : World ρ) (slot : Nat) (victim : Organism) :
    Bool → World ρ → Prop where
  /-- The organism stays as it is, and so does everybody else. -/
  | skipped (next : World ρ) (lacks : world.Lacks victim)
      (map : next.pool.get? = world.pool.get?) : Attempt world slot victim false next
  /-- The newcomer sits in the slot of its victim. -/
  | replaced (next : World ρ) (fresh : Organism) (able : ¬world.Lacks victim)
      (newcomer : world.Newcomer fresh)
      (map : next.pool.get? = Function.update world.pool.get? slot (some fresh)) :
      Attempt world slot victim true next
  /-- The slot is left empty, since what the victim carried has come to lie on the cell. -/
  | crowdedOut (next : World ρ) (able : ¬world.Lacks victim) (crowds : world.Crowds slot victim)
      (map : next.pool.get? = Function.update world.pool.get? slot none) :
      Attempt world slot victim false next

theorem attempt_of_replace {victim : Organism} {fresh : Bool} (lent : world.pool.LentOnly none)
    (live : world.pool.get? slot = some victim)
    (replaced : world.replace slot victim = .ok (fresh, next)) :
    world.Attempt slot victim fresh next := by
  cases succession_of_replace lent live replaced with
  | spared source harmless =>
    have lacks := (lacks_or_crowds lent live replaced).resolve_right harmless
    exact .skipped _ lacks rfl
  | succeeded next' fresh harmless ready map newcomer =>
    refine .replaced _ fresh (fun lacks => ?_) newcomer map
    cases (replace_of_lacks lacks replaced).1
  | crowdedOut next' crowds ready map =>
    refine .crowdedOut _ (fun lacks => ?_) crowds map
    -- If nobody were killed, the victim would still be in its slot.
    obtain ⟨-, source, rfl⟩ := replace_of_lacks lacks replaced
    have gone := congrFun map slot
    rw [Function.update_self, live] at gone
    cases gone

/-! ### A whole cull -/

/-- The slots of a list are tried one after the other, and all others are left alone. -/
structure Sweeps (start : World ρ) (tried : List Nat) (replaced : Nat) (next : World ρ) :
    Prop where
  course : replaceEach tried 0 start = .ok (replaced, next)
  others : ∀ slot ∉ tried, next.pool.get? slot = start.pool.get? slot
  /-- When a slot is tried, the organism in it is the one that was there from the start, and
  what the attempt leaves in it stays. -/
  attempts : ∀ earlier slot later, tried = earlier ++ slot :: later →
    ∃ (count : Nat) (before after : World ρ) (victim : Organism) (fresh : Bool),
      replaceEach earlier 0 start = .ok (count, before) ∧
      start.pool.get? slot = some victim ∧ before.pool.get? slot = some victim ∧
      before.replace slot victim = .ok (fresh, after) ∧
      before.Attempt slot victim fresh after ∧ next.pool.get? slot = after.pool.get? slot

theorem sweeps_of_replaceEach {start : World ρ} {tried : List Nat} {replaced : Nat}
    (lent : start.pool.LentOnly none) (distinct : tried.Nodup)
    (live : ∀ slot ∈ tried, start.isLive slot = true)
    (course : replaceEach tried 0 start = .ok (replaced, next)) :
    start.Sweeps tried replaced next where
  course := course
  others := (replaceEach_others course lent).2
  attempts := by
    rintro earlier slot later rfl
    obtain ⟨victim, held⟩ := Option.isSome_iff_exists.mp (live slot (by simp))
    rw [replaceEach_append] at course
    obtain ⟨⟨count, before⟩, first, course⟩ := (bind_eq_ok_iff _ _ _).mp course
    obtain ⟨ready, others⟩ := replaceEach_others first lent
    -- The slot occurs once, so neither the attempts before nor those after it touch it.
    rw [List.nodup_middle, List.nodup_cons, List.mem_append, not_or] at distinct
    obtain ⟨⟨notEarlier, notLater⟩, -⟩ := distinct
    have heldBefore : before.pool.get? slot = some victim := (others slot notEarlier).trans held
    simp only [replaceEach, heldBefore] at course
    obtain ⟨⟨fresh, after⟩, replacing, course⟩ := (bind_eq_ok_iff _ _ _).mp course
    have attempt := attempt_of_replace ready heldBefore replacing
    have readyAfter := (succession_of_replace ready heldBefore replacing).lent ready
    exact ⟨count, before, after, victim, fresh, first, held, heldBefore, replacing, attempt,
      (replaceEach_others course readyAfter).2 slot notLater⟩

theorem Reachable.performAll {config : Config} {calls : List Call}
    (reachable : world.Reachable config) (performed : performAll calls world = .ok next) :
    next.Reachable config := by
  induction calls generalizing world with
  | nil =>
    cases performed
    exact reachable
  | cons call rest ih =>
    obtain ⟨after, first, performed⟩ := (bind_eq_ok_iff _ _ _).mp performed
    exact ih (.called world after call reachable first) performed

/-- The worlds that a cataclysm can come over: those that their owner can have, and within an
iteration those in which all slots have had their turn. -/
inductive Exposed (config : Config) : World ρ → Prop where
  | between (world : World ρ) (reachable : world.Reachable config) : Exposed config world
  | within (world next : World ρ) (reachable : world.Reachable config)
      (turns : visitFrom world.pool.capacity 0 { world with births := 0, deaths := 0 } = .ok next) :
      Exposed config next

theorem Exposed.lent {config : Config} (exposed : world.Exposed config) :
    world.pool.LentOnly none := by
  cases exposed with
  | between _ reachable => exact reachable.lent
  | within before _ reachable turns =>
    have opened : { before with births := 0, deaths := 0 }.pool.LentOnly none := reachable.lent
    exact (visitFrom_alters opened turns).lent

/-- A cull tries the lowest slots in use, whatever the draws and the probe are: it replaces
their organisms, or leaves them as they are for want of energy or of a cell, and has nothing
to do with all other slots. -/
theorem cull_sweeps_lowest {config : Config} {replaced : Nat} (exposed : world.Exposed config)
    (source : ρ) (probe : Probe)
    (culled : { world with source, probe }.cull = .ok (replaced, next)) :
    ∃ tried, world.Lowest world.cullBound tried ∧
      { world with source, probe }.Sweeps tried replaced next := by
  have lent := exposed.lent
  have lowest := lowest_take lent world.cullBound
  refine ⟨_, lowest, sweeps_of_replaceEach lent ?_ lowest.live ?_⟩
  · exact lowest.ascending.imp Nat.ne_of_lt
  · exact replaceEach_of_cullFrom culled lent

end Drawing

set_option maxRecDepth 20000 in
/-- The lowest slot has become empty, so the first organism is in the one behind it. It is
replaced, and the other organism is left. -/
theorem cull_of_gap :
    ∃ start world next : World Generator, create .small (.ofSeed 7) false = .ok (.ok start) ∧
      performAll [.spawnOrganism 5 [1] 50, .kill 0] start = .ok world ∧
      world.cull = .ok (1, next) ∧ world.liveSlots = [1, 2] ∧ world.cullBound = 1 ∧
      (next.pool.get? 1).map Organism.id = some 3 ∧
      (next.pool.get? 2).map Organism.id = some 2 :=
  ⟨_, _, _, rfl, rfl, rfl, rfl, by decide +kernel, rfl, rfl⟩

theorem cull_sweeps_lowest_gap :
    ∃ world next : World Generator, world.Exposed .small ∧ world.cull = .ok (1, next) ∧
      world.liveSlots = [1, 2] ∧
      ∃ tried, world.Lowest 1 tried ∧ world.Sweeps tried 1 next := by
  obtain ⟨start, world, next, created, performed, culled, live, bound, -, -⟩ := cull_of_gap
  have founded : start.Reachable .small := .created (Generator.ofSeed 7) false start created
  have exposed : world.Exposed .small := .between world (founded.performAll performed)
  have swept := cull_sweeps_lowest exposed world.source world.probe culled
  rw [bound] at swept
  exact ⟨world, next, exposed, culled, live, swept⟩

end Vivarium.World
