import Mathlib.Data.Finset.Card
import Vivarium.Proofs.Cataclysm.Succession
import Vivarium.Proofs.Exclusive
import Vivarium.Proofs.Isolation

/-!
# Cataclysms

What a cataclysm does to a population is put together from the successions it consists
of: some slots get a newcomer, some are left empty, and all others keep their organisms
(`Turnover`). The population shrinks by the slots that are left empty, and those are not
among the ones that are reported as replaced. So a cataclysm replaces all that it removes
exactly if nobody's successor is crowded out in its course.
-/
namespace Vivarium

namespace World

variable {ρ : Type} {world middle next : World ρ} {slot : Nat}

/-! ### Slots that change hands -/

/-- Of the slots from `first` up to `last`, some got a newcomer for their organism and some
lost theirs. -/
structure Turnover (first last : Nat) (replaced lost : Finset Nat) (world next : World ρ) :
    Prop where
  lent : next.pool.LentOnly none
  config : next.config = world.config
  nextId : world.nextId ≤ next.nextId
  size : next.pool.size + lost.card = world.pool.size
  range : ∀ slot, slot ∈ replaced ∨ slot ∈ lost → first ≤ slot ∧ slot < last
  renewed : ∀ slot ∈ replaced, (world.pool.get? slot).isSome = true ∧
    ∃ fresh, next.pool.get? slot = some fresh ∧ world.Newcomer fresh
  vacated : ∀ slot ∈ lost, (world.pool.get? slot).isSome = true ∧ next.pool.get? slot = none
  others : ∀ slot, slot ∉ replaced → slot ∉ lost → next.pool.get? slot = world.pool.get? slot

theorem Newcomer.earlier {org : Organism} (newcomer : middle.Newcomer org)
    (config : middle.config = world.config) (nextId : world.nextId ≤ middle.nextId) :
    world.Newcomer org := by
  obtain ⟨id, offset, energy, code, new, rfl⟩ := newcomer
  rw [config]
  exact ⟨id, offset, energy, code, Nat.le_trans nextId new, rfl⟩

namespace Turnover

variable {first last bound : Nat} {replaced lost replaced' lost' : Finset Nat}

/-- Nobody in the pool changes. -/
theorem still (lent : world.pool.LentOnly none) (pool : next.pool = world.pool)
    (config : next.config = world.config) (nextId : next.nextId = world.nextId) :
    Turnover first last ∅ ∅ world next where
  lent := pool ▸ lent
  config := config
  nextId := Nat.le_of_eq nextId.symm
  size := by simp [pool]
  range := by simp
  renewed := by simp
  vacated := by simp
  others _ _ _ := by rw [pool]

/-- Turnovers of different ranges are about different slots. -/
theorem disjoint (early : Turnover first bound replaced lost world middle)
    (late : Turnover bound last replaced' lost' middle next) :
    Disjoint replaced replaced' ∧ Disjoint lost lost' := by
  rw [Finset.disjoint_left, Finset.disjoint_left]
  constructor
  · intro slot member member'
    have below := (early.range slot (.inl member)).2
    have above := (late.range slot (.inl member')).1
    omega
  · intro slot member member'
    have below := (early.range slot (.inr member)).2
    have above := (late.range slot (.inr member')).1
    omega

/-- First the slots below `bound` change hands, then those from there on. -/
theorem trans (early : Turnover first bound replaced lost world middle)
    (late : Turnover bound last replaced' lost' middle next) (le : first ≤ bound)
    (le' : bound ≤ last) :
    Turnover first last (replaced ∪ replaced') (lost ∪ lost') world next := by
  -- What the one part changes, the other leaves alone.
  have before : ∀ slot, slot < bound → next.pool.get? slot = middle.pool.get? slot := by
    intro slot below
    refine late.others slot (fun member => ?_) (fun member => ?_)
    · exact Nat.not_lt_of_le (late.range slot (.inl member)).1 below
    · exact Nat.not_lt_of_le (late.range slot (.inr member)).1 below
  have after : ∀ slot, bound ≤ slot → middle.pool.get? slot = world.pool.get? slot := by
    intro slot above
    refine early.others slot (fun member => ?_) (fun member => ?_)
    · exact Nat.not_lt_of_le above (early.range slot (.inl member)).2
    · exact Nat.not_lt_of_le above (early.range slot (.inr member)).2
  refine ⟨late.lent, late.config.trans early.config, Nat.le_trans early.nextId late.nextId,
    ?_, ?_, ?_, ?_, ?_⟩
  · rw [Finset.card_union_of_disjoint (early.disjoint late).2, ← early.size, ← late.size]
    omega
  · intro slot member
    have one : (slot ∈ replaced ∨ slot ∈ lost) ∨ slot ∈ replaced' ∨ slot ∈ lost' := by
      simp only [Finset.mem_union] at member
      tauto
    rcases one with member | member
    · have range := early.range slot member
      omega
    · have range := late.range slot member
      omega
  · intro slot member
    rcases Finset.mem_union.mp member with member | member
    · obtain ⟨held, fresh, holds, newcomer⟩ := early.renewed slot member
      rw [before slot (early.range slot (.inl member)).2]
      exact ⟨held, fresh, holds, newcomer⟩
    · obtain ⟨held, fresh, holds, newcomer⟩ := late.renewed slot member
      rw [after slot (late.range slot (.inl member)).1] at held
      exact ⟨held, fresh, holds, newcomer.earlier early.config early.nextId⟩
  · intro slot member
    rcases Finset.mem_union.mp member with member | member
    · rw [before slot (early.range slot (.inr member)).2]
      exact early.vacated slot member
    · have gone := late.vacated slot member
      rw [after slot (late.range slot (.inr member)).1] at gone
      exact gone
  · intro slot kept lives
    simp only [Finset.mem_union, not_or] at kept lives
    rw [late.others slot kept.2 lives.2, early.others slot kept.1 lives.1]

theorem widen (turnover : Turnover bound last replaced lost world next) (le : first ≤ bound) :
    Turnover first last replaced lost world next :=
  { turnover with range := fun slot member =>
      ⟨Nat.le_trans le (turnover.range slot member).1, (turnover.range slot member).2⟩ }

/-- A newcomer carries nothing, so whoever carries a token was there before. -/
theorem get?_of_carrier {carrier : Nat} {org : Organism}
    (turnover : Turnover first last replaced lost world next)
    (live : next.pool.get? carrier = some org) (carries : org.packet.isSome = true) :
    world.pool.get? carrier = some org := by
  rw [← turnover.others carrier ?_ ?_, live]
  · intro member
    obtain ⟨-, fresh, holds, id, offset, energy, code, -, rfl⟩ := turnover.renewed carrier member
    cases live.symm.trans holds
    cases carries
  · intro member
    cases live.symm.trans (turnover.vacated carrier member).2

end Turnover

section Drawing

variable [DrawSource ρ]

/-- A succession is a turnover of its slot, which is lost if the successor is crowded out. -/
theorem Succession.turnover {victim : Organism} {fresh : Bool}
    (succession : world.Succession slot victim fresh next) (lent : world.pool.LentOnly none)
    (live : world.pool.get? slot = some victim) :
    ∃ replaced lost, Turnover slot (slot + 1) replaced lost world next ∧
      replaced.card = (if fresh then 1 else 0) ∧ (lost = ∅ ↔ ¬world.Crowds slot victim) := by
  have held : (world.pool.get? slot).isSome = true := by rw [live]; rfl
  have elsewhere : ∀ state, next.pool.get? = Function.update world.pool.get? slot state →
      next.pool.get? slot = state ∧
        ∀ other, other ≠ slot → next.pool.get? other = world.pool.get? other := by
    intro state map
    rw [map]
    exact ⟨Function.update_self .., fun other apart => Function.update_of_ne apart ..⟩
  cases succession with
  | spared source harmless =>
    exact ⟨∅, ∅, .still lent rfl rfl rfl, rfl, by simpa using harmless⟩
  | succeeded next' fresh harmless ready map newcomer size config nextId =>
    obtain ⟨holds, same⟩ := elsewhere _ map
    refine ⟨{slot}, ∅, ⟨ready, config, nextId, by simpa using size, ?_, ?_, by simp, ?_⟩,
      Finset.card_singleton slot, by simpa using harmless⟩
    · simp
    · simpa using ⟨held, fresh, holds, newcomer⟩
    · intro other kept _
      exact same other (by simpa using kept)
  | crowdedOut next' crowds ready map size config nextId =>
    obtain ⟨holds, same⟩ := elsewhere _ map
    refine ⟨∅, {slot}, ⟨ready, config, nextId, by simpa using size, ?_, by simp, ?_, ?_⟩,
      rfl, by simpa using crowds⟩
    · simp
    · simpa using ⟨held, holds⟩
    · intro other _ lives
      exact same other (by simpa using lives)

/-! ### The course of a cull -/

/-- While so many slots from one on are visited, the successor of somebody is crowded out. -/
def CrowdsFrom : (remaining slot bound : Nat) → World ρ → Prop
  | 0, _, _, _ => False
  | remaining + 1, slot, bound, world =>
    slot < bound ∧
      match world.pool.get? slot with
      | none => CrowdsFrom remaining (slot + 1) (bound + 1) world
      | some victim =>
        world.Crowds slot victim ∨
          ∃ fresh next, world.replace slot victim = .ok (fresh, next) ∧
            CrowdsFrom remaining (slot + 1) bound next

theorem crowdsFrom_of_vacant {remaining bound : Nat} (below : slot < bound)
    (vacant : world.pool.get? slot = none) :
    CrowdsFrom (remaining + 1) slot bound world ↔
      CrowdsFrom remaining (slot + 1) (bound + 1) world := by
  rw [CrowdsFrom, vacant]
  exact and_iff_right below

theorem crowdsFrom_of_live {victim : Organism} {fresh : Bool} {remaining bound : Nat}
    (below : slot < bound) (live : world.pool.get? slot = some victim)
    (replacing : world.replace slot victim = .ok (fresh, next)) :
    CrowdsFrom (remaining + 1) slot bound world ↔
      world.Crowds slot victim ∨ CrowdsFrom remaining (slot + 1) bound next := by
  rw [CrowdsFrom, live]
  refine (and_iff_right below).trans (or_congr_right ⟨?_, fun crowds => ⟨_, _, replacing, crowds⟩⟩)
  rintro ⟨_, _, replacing', crowds⟩
  rw [replacing] at replacing'
  cases replacing'
  exact crowds

theorem not_crowdsFrom_of_beyond {remaining bound : Nat} (beyond : ¬slot < bound) :
    ¬CrowdsFrom remaining slot bound world := by
  cases remaining with
  | zero => exact not_false
  | succ remaining => exact fun crowds => beyond crowds.1

/-- Induction on the slots left to visit. -/
theorem turnover_of_cullFrom {remaining bound count total : Nat}
    (culled : cullFrom remaining slot bound count world = .ok (total, next))
    (lent : world.pool.LentOnly none) :
    ∃ replaced lost, Turnover slot (slot + remaining) replaced lost world next ∧
      total = count + replaced.card ∧
      (lost = ∅ ↔ ¬CrowdsFrom remaining slot bound world) := by
  induction remaining generalizing slot bound count world with
  | zero =>
    cases culled
    exact ⟨∅, ∅, .still lent rfl rfl rfl, rfl, by simp [CrowdsFrom]⟩
  | succ remaining ih =>
    unfold cullFrom at culled
    split at culled
    next below =>
      split at culled
      next vacant =>
        -- An empty slot raises the bound and is left as it is.
        obtain ⟨raised, counted, culled⟩ := (bind_eq_ok_iff _ _ _).mp culled
        obtain ⟨-, rfl⟩ := (Count.add_eq_ok_iff _ _ _ _).mp counted
        obtain ⟨replaced, lost, turnover, sum, harmless⟩ := ih culled lent
        rw [Nat.add_right_comm] at turnover
        exact ⟨replaced, lost, turnover.widen (Nat.le_succ slot), sum,
          harmless.trans (not_congr (crowdsFrom_of_vacant below vacant).symm)⟩
      next victim live =>
        obtain ⟨⟨fresh, left⟩, replacing, culled⟩ := (bind_eq_ok_iff _ _ _).mp culled
        -- This slot changes hands before those behind it, which leave it alone.
        have succession := succession_of_replace lent live replacing
        obtain ⟨first, gone, early, counts, harmless⟩ := succession.turnover lent live
        obtain ⟨replaced, lost, late, sum, harmless'⟩ := ih culled early.lent
        refine ⟨first ∪ replaced, gone ∪ lost, ?_, ?_, ?_⟩
        · rw [Nat.add_right_comm] at late
          exact early.trans late (Nat.le_succ slot) (by omega)
        · rw [Finset.card_union_of_disjoint (early.disjoint late).1, counts, sum]
          cases fresh with
          | true => simp only [if_true, Nat.add_assoc]
          | false => simp only [Bool.false_eq_true, if_false, Nat.zero_add]
        · -- Nobody is lost here and nobody later on.
          rw [Finset.union_eq_empty, harmless, harmless', ← not_or]
          exact not_congr (crowdsFrom_of_live below live replacing).symm
    next beyond =>
      cases culled
      exact ⟨∅, ∅, .still lent rfl rfl rfl, rfl, by simp [not_crowdsFrom_of_beyond beyond]⟩

/-- This cataclysm culls the population, and the successor of somebody is crowded out. -/
def CrowdsOut (world : World ρ) : Prop :=
  ∃ sampled : World ρ, world.compareTwo = .ok (true, sampled) ∧
    isUndecided sampled.config sampled.probe = false ∧
    isUniform sampled.config sampled.probe.refresh = true ∧
    CrowdsFrom sampled.pool.capacity 0
      { sampled with probe := sampled.probe.refresh }.cullBound
      { sampled with probe := sampled.probe.refresh }

/-- A comparison takes draws and adds to the probe. -/
theorem compareTwo_eq_ok {compared : Bool} (done : world.compareTwo = .ok (compared, next)) :
    ∃ source probe, next = { world with source, probe } := by
  obtain ⟨⟨first, source⟩, -, done⟩ := (bind_eq_ok_iff _ _ _).mp done
  obtain ⟨⟨second, source'⟩, -, done⟩ := (bind_eq_ok_iff _ _ _).mp done
  simp only at done
  split at done
  · obtain ⟨probe, -, answer⟩ := (bind_eq_ok_iff _ _ _).mp done
    cases answer
    exact ⟨source', probe, rfl⟩
  · cases done
    exact ⟨source', world.probe, rfl⟩

theorem turnover_of_updateCataclysm {result : Option Nat} (lent : world.pool.LentOnly none)
    (updated : world.updateCataclysm = .ok (result, next)) :
    ∃ replaced lost, Turnover 0 world.pool.capacity replaced lost world next ∧
      result.getD 0 = replaced.card ∧ (lost = ∅ ↔ ¬world.CrowdsOut) := by
  obtain ⟨⟨compared, sampled⟩, comparing, updated⟩ := (bind_eq_ok_iff _ _ _).mp updated
  obtain ⟨source, probe, rfl⟩ := compareTwo_eq_ok comparing
  simp only at updated
  split at updated
  next undecided =>
    -- Too little is known to do anything.
    cases updated
    refine ⟨∅, ∅, .still lent rfl rfl rfl, rfl, ?_⟩
    simp only [true_iff]
    rintro ⟨sampled, comparing', decided, -⟩
    rw [comparing] at comparing'
    cases comparing'
    simp [decided] at undecided
  next decided =>
    simp only [Bool.or_eq_true, Bool.not_eq_true', not_or, Bool.not_eq_false,
      Bool.not_eq_true] at decided
    obtain ⟨rfl, decided⟩ := decided
    obtain ⟨⟨total, concluded⟩, concluding, answer⟩ := (bind_eq_ok_iff _ _ _).mp updated
    cases answer
    simp only [conclude] at concluding
    split at concluding
    next uniform =>
      obtain ⟨⟨counted, culled⟩, culling, answer⟩ := (bind_eq_ok_iff _ _ _).mp concluding
      cases answer
      obtain ⟨replaced, lost, turnover, sum, harmless⟩ := turnover_of_cullFrom culling lent
      rw [Nat.zero_add] at turnover sum
      refine ⟨replaced, lost, { turnover with }, sum, harmless.trans (not_congr ?_)⟩
      constructor
      · intro crowds
        exact ⟨_, comparing, decided, uniform, crowds⟩
      · rintro ⟨sampled, comparing', -, -, crowds⟩
        rw [comparing] at comparing'
        cases comparing'
        exact crowds
    next diverse =>
      -- The population is varied enough, so nobody is replaced.
      cases concluding
      refine ⟨∅, ∅, .still lent rfl rfl rfl, rfl, ?_⟩
      simp only [true_iff]
      rintro ⟨sampled, comparing', -, uniform, -⟩
      rw [comparing] at comparing'
      cases comparing'
      exact diverse uniform

/-! ### Carriers -/

/-- Only the token that a victim carried can be in the way. Its own cell is not the one that
was drawn, since it showed the victim then. -/
theorem carries_of_crowds {victim : Organism} (lent : world.pool.LentOnly none)
    (exclusive : Exclusive world.grid world.pool.bodies)
    (live : world.pool.get? slot = some victim) (crowds : world.Crowds slot victim) :
    victim.packet.isSome = true := by
  obtain ⟨_, _, offset, source, left, -, -, -, drawn, killing, taken⟩ := crowds
  have ready : { world with source }.pool.LentOnly none := lent
  rcases kill_eq_ok ready killing with ⟨vacant, -⟩ | ⟨org, held, -, departure, -⟩
  · cases live.symm.trans vacant
  cases live.symm.trans held
  generalize shown : left.scene = scene at departure
  cases departure with
  | emptyHanded nothing =>
    have grid : left.grid = world.grid.set victim.offset victim.beneath :=
      congrArg Scene.grid shown
    have home : world.grid.get victim.offset = .organism slot :=
      exclusive.home (Pool.bodies_eq_some live)
    have inside : victim.offset < world.grid.size := exclusive.inside (Pool.bodies_eq_some live)
    obtain ⟨-, vacant⟩ := Grid.free_of_randomEmpty drawn
    rw [grid, world.grid.get_set _ _ _ inside] at taken
    split at taken
    next same =>
      rw [same, home] at vacant
      cases vacant
    next => exact absurd vacant taken
  | homeless packet carried | lost packet _ carried | restored packet _ _ carried =>
    exact Option.isSome_iff_exists.mpr ⟨packet, carried⟩

/-- Induction on the slots left to visit: a carrier met on the way was there at the beginning. -/
theorem carrier_of_crowdsFrom {remaining bound : Nat}
    (crowds : CrowdsFrom remaining slot bound world) (resting : Resting world)
    (exclusive : Exclusive world.grid world.pool.bodies) :
    ∃ carrier org, world.pool.get? carrier = some org ∧ org.packet.isSome = true := by
  induction remaining generalizing slot bound world with
  | zero => exact crowds.elim
  | succ remaining ih =>
    obtain ⟨-, crowds⟩ := crowds
    split at crowds
    next => exact ih crowds resting exclusive
    next victim live =>
      rcases crowds with crowds | ⟨fresh, next, replacing, crowds⟩
      · exact ⟨slot, victim, live, carries_of_crowds resting.lent exclusive live crowds⟩
      · have leads : Leads Scene.Unbounded world next :=
          replace_leads resting live (fun _ _ _ => trivial) replacing
        have exclusive' : Exclusive next.grid next.pool.bodies :=
          leads.moves.exclusive exclusive
        obtain ⟨carrier, org, lives, carries⟩ := ih crowds (resting.after leads) exclusive'
        have succession := succession_of_replace resting.lent live replacing
        obtain ⟨_, _, turnover, -, -⟩ := succession.turnover resting.lent live
        exact ⟨carrier, org, turnover.get?_of_carrier lives carries, carries⟩

/-- Where nobody carries a token, nobody's successor is crowded out. -/
theorem carrier_of_crowdsOut {config : Config} {source : ρ} {recording : Bool} {start : World ρ}
    {calls : List Call} (created : create config source recording = .ok (.ok start))
    (performed : performAll calls start = .ok world) (crowds : world.CrowdsOut) :
    ∃ carrier org, world.pool.get? carrier = some org ∧ org.packet.isSome = true := by
  obtain ⟨resting, blank, empty, moves⟩ := reached_of_performAll created performed
  have exclusive : Exclusive world.grid world.pool.bodies :=
    moves.exclusive (.of_blank empty.cells empty.nobody)
  obtain ⟨sampled, comparing, -, -, crowds⟩ := crowds
  obtain ⟨source, probe, rfl⟩ := compareTwo_eq_ok comparing
  have unseen : Leads Scene.Unbounded world { world with source, probe := probe.refresh } :=
    resting.unseen rfl rfl
  have carrier := carrier_of_crowdsFrom crowds (resting.after unseen)
  exact carrier exclusive

/-! ### What a cataclysm replaces -/

/-- As many organisms are there as before: the answer counts the slots whose organism was
removed, and each of them holds a newcomer. -/
def ReplacesAll (world : World ρ) (result : Option Nat) (next : World ρ) : Prop :=
  next.pool.size = world.pool.size ∧
    ∃ removed : Finset Nat, removed.card = result.getD 0 ∧
      (∀ slot ∈ removed, (world.pool.get? slot).isSome = true ∧
        ∃ fresh, next.pool.get? slot = some fresh ∧ world.Newcomer fresh) ∧
      ∀ slot, slot ∉ removed → next.pool.get? slot = world.pool.get? slot

/-- Whoever is removed without being replaced is missing afterwards. -/
theorem replacesAll_of_size {result : Option Nat} (lent : world.pool.LentOnly none)
    (updated : world.updateCataclysm = .ok (result, next))
    (same : next.pool.size = world.pool.size) : world.ReplacesAll result next := by
  obtain ⟨replaced, lost, turnover, counts, -⟩ := turnover_of_updateCataclysm lent updated
  have size := turnover.size
  obtain rfl : lost = ∅ := by
    rw [← Finset.card_eq_zero]
    omega
  exact ⟨same, replaced, counts.symm, turnover.renewed,
    fun slot kept => turnover.others slot kept (Finset.notMem_empty slot)⟩

/-- A cataclysm replaces all that it removes unless the successor of somebody is crowded out:
then it finds the cell that was drawn for it taken by what the victim left behind. -/
theorem replacesAll_iff {config : Config} {result : Option Nat}
    (reachable : world.Reachable config)
    (updated : world.updateCataclysm = .ok (result, next)) :
    world.ReplacesAll result next ↔ ¬world.CrowdsOut := by
  obtain ⟨replaced, lost, turnover, -, harmless⟩ :=
    turnover_of_updateCataclysm reachable.lent updated
  have size := turnover.size
  rw [← harmless]
  constructor
  · rintro ⟨same, -⟩
    rw [← Finset.card_eq_zero]
    omega
  · rintro rfl
    exact replacesAll_of_size reachable.lent updated size

end Drawing

end World

/-! ### A carrier in a cramped world -/

/-- Words that make an organism look to its right and pick up what is there. -/
def Genome.pickup : Genome := [2, Opcode.get.word]

/-- A surface for one packet, and none of it initially. -/
def SurfaceConfig.onePacket : SurfaceConfig :=
  { SurfaceConfig.energyPackets with capacity := 1, initial := 0 }

/-- A world of two cells, where the first comparison decides and a cataclysm is for
everybody. -/
def Config.cramped : Config :=
  { Config.standard with
    worldWidth := 2
    worldHeight := 1
    iterationsPerRun := 2
    orgAmount := 2
    orgInitialPercent := 0.0
    orgEnergy := 10
    orgMemSize := 1
    codeStackSize := 1
    energyValue := 1
    cataclysmCullPercent := 1.0
    cataclysmSamplePercent := 0.0
    surfaces := [.onePacket] }

/-- An organism is placed beside a token, and picks it up. -/
def Call.pickup : List Call :=
  [.spawnOrganism 0 .pickup 10, .spawnToken 1 0 1, .runOrganism 0 2]

/-- A surface whose operation succeeds is found among the others and changed. -/
theorem onSurface_of_ok {σ α : Type} {operation : Surface → σ → Outcome (α × Surface × σ)}
    {surfaces : List Surface} {kind : Nat} {surface after : Surface} {state last : σ} {answer : α}
    (own : surfaces[kind]? = some surface)
    (operated : operation surface state = .ok (answer, after, last)) :
    onSurface operation surfaces kind state =
      .ok (some answer, surfaces.set kind after, last) := by
  induction surfaces generalizing kind with
  | nil => cases own
  | cons first rest ih =>
    cases kind with
    | zero =>
      cases own
      unfold onSurface
      rw [operated]
      rfl
    | succ kind =>
      unfold onSurface
      rw [ih own]
      rfl

namespace World

/-- An organism that may pick up a token takes it from its surface. -/
theorem runGet_of_pickupAt {ρ : Type} {world : World ρ} {org : Organism} {target kind : Nat}
    {surface after : Surface} {grid : Grid} {token : Token}
    (able : world.pickupAt { org.advance with b := 0.0 } = some (target, kind))
    (own : world.surfaces[kind]? = some surface)
    (removed : surface.remove world.grid target true = .ok (some token, after, grid)) :
    world.runGet org = .ok ({ org.advance with b := token.raw, packet := some token },
      { world with surfaces := world.surfaces.set kind after, grid }) := by
  have taken : onSurface (fun surface grid => surface.remove grid target true) world.surfaces
      kind world.grid = .ok (some (some token), world.surfaces.set kind after, grid) :=
    onSurface_of_ok own removed
  simp only [runGet, able, taken]
  rfl

/-- The organism of the cramped world before it executes anything. -/
def seeker : Organism := (Organism.fresh 0 0 10 .cramped).setCode .pickup 1000

/-- It points to the right. -/
def pointing : Organism := { seeker with d := Register.ofInt 2 }.advance

/-- It holds the token that was there. -/
def carrier : Organism :=
  { pointing.advance with b := (Token.single 0).raw, packet := some (.single 0) }

/-- The surface of the cramped world keeps one atom, be it on the grid or carried. -/
def oneAtom (tokens : TokenSet) : Surface :=
  { Surface.create 0 .onePacket with live := 1, atoms := 1, tokens }

/-- The cramped world with an organism in its left cell. -/
def crampedWith (resident : PoolSlot) (right : Cell) (tokens : TokenSet) : World Generator where
  config := .cramped
  grid := { Grid.blank .cramped with cells := #[.organism 0, right] }
  surfaces := [oneAtom tokens]
  pool := { slots := #[resident, .free], free := [1], allocated := 1 }
  source := .ofSeed 0
  totalEnergy := 10
  nextId := 1
  iteration := 0
  generation := 1
  births := 1
  deaths := 0
  linesGranted := 0
  probe := .empty
  history := #[]
  lineage := none

/-- The set with the right cell alone. -/
def rightOnly : TokenSet := (TokenSet.empty.insert 1).2

/-- The right cell has been erased from it. -/
def noneLeft : TokenSet :=
  { members := #[], places := ((∅ : Std.HashMap Nat Nat).insert 1 0).erase 1 }

theorem erase_rightOnly : rightOnly.erase 1 = .ok (true, noneLeft) := by
  simp [rightOnly, noneLeft, TokenSet.empty, TokenSet.insert, TokenSet.contains, TokenSet.erase]

/-- The organism is beside the token. -/
def beside (resident : PoolSlot) : World Generator :=
  crampedWith resident (.token (.single 0)) rightOnly

/-- The token has been picked up. -/
def cleared (resident : PoolSlot) : World Generator := crampedWith resident .empty noneLeft

set_option maxRecDepth 20000 in
theorem runGet_pointing : (beside .lent).runGet pointing = .ok (carrier, cleared .lent) := by
  have able : (beside .lent).pickupAt { pointing.advance with b := 0.0 } = some (1, 0) := by
    decide +kernel
  have own : (beside .lent).surfaces[0]? = some (oneAtom rightOnly) := rfl
  have removed : (oneAtom rightOnly).remove (beside .lent).grid 1 true =
      .ok (some (.single 0), oneAtom noneLeft, (cleared .lent).grid) :=
    (bind_eq_ok_iff _ _ _).mpr ⟨_, erase_rightOnly, rfl⟩
  exact runGet_of_pickupAt able own removed

set_option maxRecDepth 20000 in
theorem runOrganism_seeker :
    (beside (.live seeker)).runOrganism 0 2 = .ok (some .alive, cleared (.live carrier)) := by
  have points : (beside .lent).executeLine 0 seeker = .ok (.next, pointing, beside .lent) := rfl
  have gets : (beside .lent).executeLine 0 pointing = .ok (.next, carrier, cleared .lent) := by
    change goOn ((beside .lent).runGet pointing) = _
    rw [runGet_pointing]
    rfl
  have executed : executeLines 0 2 seeker (beside .lent) = .ok (.alive, carrier, cleared .lent) :=
    (bind_eq_ok_iff _ _ _).mpr ⟨_, points, (bind_eq_ok_iff _ _ _).mpr ⟨_, gets, rfl⟩⟩
  exact (bind_eq_ok_iff _ _ _).mpr ⟨_, executed, rfl⟩

theorem updateCataclysm_of_map {world : World Generator} {result : Option Nat} {size : Nat}
    (done : (world.updateCataclysm.map fun done => (done.1, done.2.pool.size)) =
      .ok (result, size)) :
    ∃ next, world.updateCataclysm = .ok (result, next) ∧ next.pool.size = size := by
  generalize world.updateCataclysm = outcome at done
  cases outcome with
  | error fault => cases done
  | ok answer =>
    simp only [Except.map, Except.ok.injEq, Prod.mk.injEq] at done
    exact ⟨answer.2, by rw [← done.1], done.2⟩

set_option maxRecDepth 20000 in
/-- The seeker is placed, and then the token. Without the token there is room for the
seeker's successor. -/
theorem perform_spawning :
    ∃ start lone : World Generator, create .cramped (.ofSeed 0) false = .ok (.ok start) ∧
      start.perform (.spawnOrganism 0 .pickup 10) = .ok lone ∧
      lone.perform (.spawnToken 1 0 1) = .ok (beside (.live seeker)) ∧ lone.pool.size = 1 ∧
      (lone.updateCataclysm.map fun done => (done.1, done.2.pool.size)) = .ok (some 1, 1) :=
  ⟨_, _, rfl, rfl, rfl, rfl, by decide +kernel⟩

theorem replacesAll_iff_seeker :
    ∃ world next : World Generator, world.Reachable .cramped ∧
      world.updateCataclysm = .ok (some 1, next) ∧ world.ReplacesAll (some 1) next ∧
      ¬world.CrowdsOut := by
  obtain ⟨start, lone, created, placed, -, one, culled⟩ := perform_spawning
  obtain ⟨next, updated, size⟩ := updateCataclysm_of_map culled
  have founded : start.Reachable .cramped := .created (Generator.ofSeed 0) false start created
  have reachable : lone.Reachable .cramped := .called start lone _ founded placed
  have replaced : lone.ReplacesAll (some 1) next :=
    replacesAll_of_size reachable.lent updated (size.trans one.symm)
  exact ⟨lone, next, reachable, updated, replaced, (replacesAll_iff reachable updated).mp replaced⟩

/-- The token that the carrier leaves behind comes to lie on the only cell for its successor,
so the carrier is removed and nobody is in its place. -/
theorem not_replacesAll_carrier :
    ∃ start world next : World Generator, create .cramped (.ofSeed 0) false = .ok (.ok start) ∧
      performAll Call.pickup start = .ok world ∧ world.Reachable .cramped ∧
      world.updateCataclysm = .ok (some 0, next) ∧ world.pool.size = 1 ∧ next.pool.size = 0 ∧
      ¬world.ReplacesAll (some 0) next := by
  obtain ⟨start, lone, created, placed, dropped, -, -⟩ := perform_spawning
  have ran : (beside (.live seeker)).perform (.runOrganism 0 2) = .ok (cleared (.live carrier)) :=
    (bind_eq_ok_iff _ _ _).mpr ⟨_, runOrganism_seeker, rfl⟩
  have performed : performAll Call.pickup start = .ok (cleared (.live carrier)) :=
    (bind_eq_ok_iff _ _ _).mpr ⟨_, placed, (bind_eq_ok_iff _ _ _).mpr ⟨_, dropped,
      (bind_eq_ok_iff _ _ _).mpr ⟨_, ran, rfl⟩⟩⟩
  have founded : start.Reachable .cramped := .created (Generator.ofSeed 0) false start created
  have reachable : (cleared (.live carrier)).Reachable .cramped :=
    .called _ _ _ (.called _ _ _ (.called start lone _ founded placed) dropped) ran
  obtain ⟨next, updated, size⟩ := updateCataclysm_of_map
    (by decide +kernel : ((cleared (.live carrier)).updateCataclysm.map
      fun done => (done.1, done.2.pool.size)) = .ok (some 0, 0))
  refine ⟨start, _, next, created, performed, reachable, updated, rfl, size, ?_⟩
  rintro ⟨same, -⟩
  rw [size] at same
  cases same

end World

end Vivarium
