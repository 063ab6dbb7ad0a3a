import Vivarium.Proofs.Census.Population

/-!
# Organisms do not disturb each other

A slice concerns its own organism. Of any other one it can only take energy, and while this
leaves some, nothing else of that organism changes. An organism whose last energy is taken
leaves; the slice ends there, so this happens to one organism at most. Whoever has come into
a slot that was free is a child of the organism that executed.

The frame is kept by every deed, and hence by all lines up to the last one. The owner of a
world may have changed its organisms before; only debtors are excluded, since whoever has
nothing to lose is never drained.
-/
namespace Vivarium

namespace Census

variable {words : Int → Prop} {census next last : Census} {slot id : Nat}

/-- From the first census to the last one the organism of a slot, which has this identity,
has taken no more than energy of those who were there, and left some; and whoever has come is
its child. -/
structure Isolates (slot id : Nat) (first last : Census) : Prop where
  acting : ∃ org, last.residents slot = some org ∧ org.id = id
  others : ∀ other org, other ≠ slot → first.residents other = some org →
    ∃ energy, 0 < energy ∧ energy ≤ org.energy ∧
      last.residents other = some { org with energy }
  newcomers : ∀ other child, other ≠ slot → first.residents other = none →
    last.residents other = some child → child.parent = some id

namespace Isolates

theorem refl {org : Organism} (resident : census.residents slot = some org)
    (solvent : ∀ other org, other ≠ slot → census.residents other = some org → 0 < org.energy) :
    census.Isolates slot org.id census where
  acting := ⟨org, resident, rfl⟩
  others := fun other old elsewhere lives =>
    ⟨old.energy, solvent other old elsewhere lives, Int.le_refl _, lives⟩
  newcomers := by
    intro other child _ vacant lives
    rw [vacant] at lives
    cases lives

/-- The organism itself may become anything but another one. -/
theorem seat {org after : Organism} (isolates : census.Isolates slot id last)
    (resident : last.residents slot = some org) (same : after.id = org.id) :
    census.Isolates slot id (last.seat slot after) := by
  obtain ⟨acting, lives, named⟩ := isolates.acting
  have who : org.id = id := by
    rw [resident] at lives
    cases lives
    exact named
  have elsewhere : ∀ other, other ≠ slot →
      (last.seat slot after).residents other = last.residents other :=
    fun other apart => Function.update_of_ne apart _ _
  constructor
  · exact ⟨after, Function.update_self .., same.trans who⟩
  · intro other old apart lived
    rw [elsewhere other apart]
    exact isolates.others other old apart lived
  · intro other child apart vacant lives
    rw [elsewhere other apart] at lives
    exact isolates.newcomers other child apart vacant lives

/-- Another organism loses some of its energy, whoever it is. -/
theorem bite {prey : Organism} {victim : Nat} {taken : Int}
    (isolates : census.Isolates slot id last) (other : victim ≠ slot)
    (caught : last.residents victim = some prey) (nonneg : 0 ≤ taken)
    (left : taken < prey.energy) :
    census.Isolates slot id
      (last.seat victim { prey with energy := prey.energy - taken }) := by
  constructor
  · simp only [Census.seat, Function.update_of_ne other.symm]
    exact isolates.acting
  · intro place old apart lived
    obtain ⟨energy, positive, bound, lives⟩ := isolates.others place old apart lived
    simp only [Census.seat, Function.update_apply]
    split
    next here =>
      subst here
      rw [caught] at lives
      cases lives
      have rest : taken < energy := left
      exact ⟨energy - taken, by omega, by omega, rfl⟩
    next => exact ⟨energy, positive, bound, lives⟩
  · intro place child apart vacant
    simp only [Census.seat, Function.update_apply]
    split
    next here =>
      subst here
      rintro ⟨⟩
      exact isolates.newcomers place prey apart vacant caught
    next => exact isolates.newcomers place child apart vacant

/-- A child comes into a slot that is free, so nobody who was there has had it. -/
theorem receive {org child : Organism} {fresh : Nat} (isolates : census.Isolates slot id last)
    (resident : last.residents slot = some org) (vacant : last.residents fresh = none)
    (parent : child.parent = some org.id) :
    census.Isolates slot id (last.receive fresh child) := by
  obtain ⟨acting, lives, named⟩ := isolates.acting
  have who : org.id = id := by
    rw [resident] at lives
    cases lives
    exact named
  have elsewhere : ∀ other occupant, last.residents other = some occupant →
      (last.receive fresh child).residents other = some occupant := by
    intro other occupant occupied
    have apart : other ≠ fresh := by
      rintro rfl
      rw [vacant] at occupied
      cases occupied
    simpa only [Census.receive, Census.seat, Function.update_of_ne apart] using occupied
  constructor
  · exact ⟨acting, elsewhere slot acting lives, named⟩
  · intro other old apart lived
    obtain ⟨energy, positive, bound, lives⟩ := isolates.others other old apart lived
    exact ⟨energy, positive, bound, elsewhere other _ lives⟩
  · intro other newcomer apart free
    simp only [Census.receive, Census.seat, Function.update_apply]
    split
    next here =>
      rintro ⟨⟩
      rw [parent, who]
    next => exact isolates.newcomers other newcomer apart free

/-- What a deed of the organism of the slot preserves. -/
theorem deed (isolates : census.Isolates slot id last) (deed : last.Deed words slot next) :
    census.Isolates slot id next := by
  cases deed with
  | alone org after resident evolves => exact isolates.seat resident evolves.id
  | bite org after prey victim taken resident evolves other caught nonneg left =>
    refine (isolates.bite other caught nonneg left).seat ?_ evolves.id
    simpa only [Census.seat, Function.update_of_ne other.symm] using resident
  | bear org after child fresh resident evolves vacant newborn =>
    have apart : slot ≠ fresh := by
      rintro rfl
      rw [vacant] at resident
      cases resident
    refine (isolates.receive resident vacant newborn.parent).seat ?_ evolves.id
    simpa only [Census.receive, Census.seat, Function.update_of_ne apart] using resident

end Isolates

/-- What all deeds of the organism of a slot preserve. -/
theorem Deeds.isolates {org : Organism} (deeds : census.Deeds words slot next)
    (resident : census.residents slot = some org)
    (solvent : ∀ other org, other ≠ slot → census.residents other = some org → 0 < org.energy) :
    census.Isolates slot org.id next := by
  induction deeds with
  | refl => exact .refl resident solvent
  | tail _ done ih => exact ih.deed done

end Census

/-! ### Reachable worlds -/

namespace World

variable {ρ : Type} [DrawSource ρ]

/-- A world that its owner can have: created with an accepted configuration, then called,
observed, and changed at will in its organisms, in any order. -/
inductive Reachable (config : Config) : World ρ → Prop where
  | created (source : ρ) (recording : Bool) (start : World ρ)
      (created : create config source recording = .ok (.ok start)) : Reachable config start
  | called (world next : World ρ) (call : Call) (before : Reachable config world)
      (performed : world.perform call = .ok next) : Reachable config next
  | watched (world : World ρ) (before : Reachable config world) : Reachable config world.watch
  | recorded (world : World ρ) (before : Reachable config world) : Reachable config world.record
  | edited (world : World ρ) (slot : Nat) (org after : Organism) (before : Reachable config world)
      (live : world.pool.get? slot = some org) :
      Reachable config { world with pool := world.pool.update slot after }

/-- Between operations no slot is lent. -/
theorem Reachable.lent {config : Config} {world : World ρ} (reachable : world.Reachable config) :
    world.pool.LentOnly none := by
  induction reachable with
  | created source recording start created => exact (create_proceeds created).2
  | called world next call before performed lent => exact (perform_proceeds lent performed).lent
  | watched world before lent | recorded world before lent => exact lent
  | edited world slot org after before live lent => exact (Pool.update_of_get? lent live after).1

/-! ### Slices -/

/-- A slice of the organism of a slot that ends with a meal before all lines are executed. The
meal takes all that the organism of another slot has, and nothing comes after it. -/
inductive EndsWithMeal (slot lines : Nat) (world : World ρ) (victim : Nat) (next : World ρ) :
    Prop where
  | intro (org eater prey after : Organism) (pool : Pool) (passed : Nat) (between drained : World ρ)
      (taken : world.pool.take slot = some (org, pool)) (few : passed < lines)
      (passes : Passes slot passed { world with pool } org between eater)
      (caught : between.pool.get? victim = some prey) (eats : eater.fetch = some (.op .eat))
      (executed : between.executeLine slot eater = .ok (.stop, after, drained))
      (all : after.energy = eater.energy + prey.energy)
      (settled : drained.settle slot after .alive = .ok next) :
      EndsWithMeal slot lines world victim next

/-- After a turn the others are in the pool as the slice has left them. -/
theorem get?_of_settle {world next : World ρ} {org : Organism} {slot other : Nat} {fate : Fate}
    (lent : world.pool.LentOnly (some slot)) (settled : world.settle slot org fate = .ok next)
    (elsewhere : other ≠ slot) :
    next.pool.get? other = (world.censusDuring slot org).residents other := by
  have residents : next.pool.get? = next.census.residents := rfl
  obtain ⟨-, stays | ⟨-, leaves⟩⟩ := census_of_settle lent settled
  · rw [residents, stays]
  · rw [residents, leaves]
    exact Function.update_of_ne elsewhere _ _

/-- After a slice everybody else but one at most is there with some energy left, and the one
exception is drained by the meal that ends the slice. -/
theorem slice_isolates {world next last : World ρ} {org after : Organism} {pool : Pool}
    {slot lines : Nat} {fate : Fate} (lent : world.pool.LentOnly none)
    (solvent : ∀ slot org, world.pool.get? slot = some org → 0 < org.energy)
    (taken : world.pool.take slot = some (org, pool))
    (executed : executeLines slot lines org { world with pool } = .ok (fate, after, last))
    (settled : last.settle slot after fate = .ok next) :
    ∃ (spared : Census) (gone : Option Nat),
      world.census.Isolates slot org.id spared ∧
      (∀ other, other ≠ slot → gone ≠ some other →
        next.pool.get? other = spared.residents other) ∧
      ∀ victim ∈ gone, next.pool.get? victim = none ∧
        EndsWithMeal slot lines world victim next := by
  obtain ⟨live, out, started⟩ := census_of_take lent taken
  have resident : world.census.residents slot = some org := live
  have others : ∀ other org, other ≠ slot → world.census.residents other = some org →
      0 < org.energy := fun other org _ lives => solvent other org lives
  obtain ⟨ready, outcome⟩ := executeLines_plays out executed
  obtain deeds | ⟨lives, passed, between, eater, victim, few, passes, eats, line, drains⟩ := outcome
  · rw [started] at deeds
    refine ⟨_, none, deeds.isolates resident others, fun other elsewhere _ => ?_, nofun⟩
    exact get?_of_settle ready settled elsewhere
  · -- All lines but the last one are deeds; the last one drains the victim.
    have early := (passes.deeds out).1
    rw [started] at early
    have left : ∀ other, other ≠ slot → next.pool.get? other =
        (((between.censusDuring slot eater).dismiss victim).seat slot after).residents other := by
      intro other elsewhere
      rw [get?_of_settle ready settled elsewhere, drains.gone]
    refine ⟨_, some victim, early.isolates resident others, ?_, ?_⟩
    · intro other elsewhere apart
      have unharmed : other ≠ victim := fun same => apart (congrArg some same.symm)
      rw [left other elsewhere]
      simp only [Census.seat, Census.dismiss, Function.update_of_ne elsewhere,
        Function.update_of_ne unharmed]
    · rintro _ ⟨⟩
      obtain ⟨prey, caught, all⟩ := drains.taken
      subst lives
      constructor
      · rw [left victim drains.other]
        simp [Census.seat, Census.dismiss, Function.update_of_ne drains.other]
      · exact ⟨org, eater, prey, after, pool, passed, between, last, taken, few, passes, caught,
          eats, line, all, settled⟩

/-- In a world where nobody is in debt a slice leaves each other organism as it is, but for
energy that it loses without losing all of it; or the organism is drained by the meal that
ends the slice, which happens to one at most. Whoever is in a slot that was free is a child
of the organism that executed. -/
theorem runOrganism_isolates {config : Config} {world next : World ρ} {slot lines : Nat}
    {fate : Option Fate} (reachable : world.Reachable config)
    (solvent : ∀ slot org, world.pool.get? slot = some org → 0 < org.energy)
    (ran : world.runOrganism slot lines = .ok (fate, next)) :
    (∀ other org, other ≠ slot → world.pool.get? other = some org →
      (∃ energy, 0 < energy ∧ energy ≤ org.energy ∧
        next.pool.get? other = some { org with energy }) ∨
      next.pool.get? other = none ∧ EndsWithMeal slot lines world other next) ∧
    (∀ first second org twin, first ≠ slot → second ≠ slot →
      world.pool.get? first = some org → world.pool.get? second = some twin →
      next.pool.get? first = none → next.pool.get? second = none → first = second) ∧
    ∀ other child, world.pool.get? other = none → next.pool.get? other = some child →
      ∃ org, world.pool.get? slot = some org ∧ child.parent = some org.id := by
  rcases runOrganism_cases ran with
    ⟨-, -, rfl⟩ | ⟨org, pool, fate, after, last, taken, executed, settling, -⟩
  · -- There is nobody in the slot.
    refine ⟨fun other org _ live => ?_, ?_, ?_⟩
    · exact .inl ⟨org.energy, solvent other org live, Int.le_refl _, live⟩
    · intro first second org twin _ _ live _ free
      rw [live] at free
      cases free
    · intro other child free live
      rw [free] at live
      cases live
  · have live : world.pool.get? slot = some org := (census_of_take reachable.lent taken).1
    obtain ⟨spared, gone, isolates, stays, leaves⟩ :=
      slice_isolates reachable.lent solvent taken executed settling
    -- Whoever is missing is the one whom the meal has drained, so two cannot be.
    have dies : ∀ other old, other ≠ slot → world.pool.get? other = some old →
        next.pool.get? other = none → gone = some other := by
      intro other old elsewhere lived free
      by_contra apart
      obtain ⟨energy, -, -, lives⟩ := isolates.others other old elsewhere lived
      rw [stays other elsewhere apart, lives] at free
      cases free
    refine ⟨fun other old elsewhere lived => ?_, ?_, ?_⟩
    · by_cases victim : gone = some other
      · exact .inr (leaves other victim)
      · rw [stays other elsewhere victim]
        exact .inl (isolates.others other old elsewhere lived)
    · intro first second old twin elsewhere elsewhere' lived lived' free free'
      have both := (dies first old elsewhere lived free).symm.trans
        (dies second twin elsewhere' lived' free')
      exact Option.some.inj both
    · intro other child free lives
      -- A slot that was free is neither that of the executing organism nor the victim's.
      have elsewhere : other ≠ slot := by
        rintro rfl
        rw [live] at free
        cases free
      have apart : gone ≠ some other := by
        intro victim
        rw [(leaves other victim).1] at lives
        cases lives
      rw [stays other elsewhere apart] at lives
      exact ⟨org, live, isolates.newcomers other child elsewhere free lives⟩

/-! ### A meal in the small world -/

set_option maxRecDepth 20000 in
/-- An organism is placed that eats a founder with one bite. -/
theorem perform_feast :
    ∃ start world next : World Generator, create .small (.ofSeed 7) false = .ok (.ok start) ∧
      start.perform (.spawnOrganism 5 [55, Opcode.eat.word] 3000) = .ok world ∧
      (world.pool.toList.all fun entry => decide (0 < entry.2.energy)) = true ∧
      world.runOrganism 2 5 = .ok (some .alive, next) ∧
      (world.pool.get? 0).isSome = true ∧ next.pool.get? 0 = none :=
  ⟨_, _, _, rfl, rfl, rfl, rfl, rfl, rfl⟩

/-- The founder is drained by the meal that ends the slice. -/
theorem runOrganism_isolates_feast :
    ∃ world next : World Generator, world.Reachable .small ∧
      (∀ slot org, world.pool.get? slot = some org → 0 < org.energy) ∧
      world.runOrganism 2 5 = .ok (some .alive, next) ∧ EndsWithMeal 2 5 world 0 next := by
  obtain ⟨start, world, next, created, fed, rich, ran, before, gone⟩ := perform_feast
  have founded : start.Reachable .small := .created (Generator.ofSeed 7) false start created
  have reachable : world.Reachable .small := .called start world _ founded fed
  have solvent : ∀ slot org, world.pool.get? slot = some org → 0 < org.energy := by
    intro slot org live
    have listed := List.all_eq_true.mp rich (slot, org) ((world.pool.mem_toList slot org).mpr live)
    exact of_decide_eq_true listed
  obtain ⟨founder, live⟩ := Option.isSome_iff_exists.mp before
  obtain ⟨others, -⟩ := runOrganism_isolates reachable solvent ran
  rcases others 0 founder (by decide) live with ⟨energy, -, -, lives⟩ | ⟨-, meal⟩
  · rw [gone] at lives
    cases lives
  · exact ⟨world, next, reachable, solvent, ran, meal⟩

end World

end Vivarium
