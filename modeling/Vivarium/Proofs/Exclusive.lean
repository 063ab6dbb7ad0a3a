import Vivarium.Proofs.Calls

/-!
# Cells and organisms

A cell shows a slot exactly when the organism of that slot lives there. Grid, pool
and organism each hold a part of this relation and change at different moments; a
scene shows them together, and each move keeps it.
-/
namespace Vivarium

/-- Cells and residents refer to each other, and nobody lives on top of anybody. -/
structure Exclusive (grid : Grid) (residents : Nat → Option Body) : Prop where
  shown : ∀ offset slot, grid.get offset = .organism slot ↔
    ∃ body, residents slot = some body ∧ body.offset = offset
  beneath : ∀ slot body, residents slot = some body → body.beneath.isOrganism = false

namespace Exclusive

variable {grid : Grid} {residents : Nat → Option Body} {slot : Nat} {body : Body}

theorem home (exclusive : Exclusive grid residents) (resident : residents slot = some body) :
    grid.get body.offset = .organism slot :=
  (exclusive.shown body.offset slot).mpr ⟨body, resident, rfl⟩

theorem inside (exclusive : Exclusive grid residents) (resident : residents slot = some body) :
    body.offset < grid.size :=
  Grid.lt_size_of_get (exclusive.home resident) (by simp)

theorem of_blank (cells : ∀ offset, grid.get offset = .empty)
    (nobody : ∀ slot, residents slot = none) : Exclusive grid residents where
  shown offset slot := by simp [cells, nobody]
  beneath slot body resident := by
    rw [nobody] at resident
    cases resident

/-- A resident may change as long as it stays where it is, and nobody lies beneath it. -/
theorem remain (exclusive : Exclusive grid residents) (resident : residents slot = some body)
    (after : Body) (offset : after.offset = body.offset)
    (beneath : after.beneath.isOrganism = false) :
    Exclusive grid (Function.update residents slot (some after)) where
  shown place other := by
    rw [exclusive.shown]
    by_cases same : other = slot
    · subst same
      simp [resident, offset]
    · simp [Function.update_of_ne same]
  beneath other held here := by
    rw [Function.update_apply] at here
    split at here
    next =>
      cases here
      exact beneath
    next => exact exclusive.beneath other held here

/-- What lies beneath a resident has been no organism before. -/
theorem reseat (exclusive : Exclusive grid residents) (resident : residents slot = some body)
    (after : Body) (offset : after.offset = body.offset) (beneath : after.beneath = body.beneath) :
    Exclusive grid (Function.update residents slot (some after)) :=
  exclusive.remain resident after offset (beneath ▸ exclusive.beneath slot body resident)

/-- A cell without an organism may change to another one without. -/
theorem paint (exclusive : Exclusive grid residents) {offset : Nat} {cell : Cell}
    (before : (grid.get offset).isOrganism = false) (after : cell.isOrganism = false) :
    Exclusive (grid.set offset cell) residents where
  shown place other := by
    rw [← exclusive.shown]
    by_cases inside : offset < grid.size
    · rw [grid.get_set offset place cell inside]
      split
      next same =>
        subst same
        constructor
        · rintro rfl
          cases after
        · intro shown
          rw [shown] at before
          cases before
      next => rfl
    · rw [grid.set_of_size_le offset cell (Nat.le_of_not_lt inside)]
  beneath := exclusive.beneath

/-- Whoever leaves uncovers the cell it lived on. -/
theorem vacate (exclusive : Exclusive grid residents) (resident : residents slot = some body) :
    Exclusive (grid.set body.offset body.beneath) (Function.update residents slot none) where
  shown place other := by
    have beneath := exclusive.beneath slot body resident
    have home := exclusive.home resident
    rw [grid.get_set _ _ _ (exclusive.inside resident)]
    by_cases same : other = slot
    -- Nobody lives in the slot any more, and its one cell shows what lay beneath.
    · subst same
      simp only [Function.update_self, reduceCtorEq, false_and, exists_false, iff_false]
      split
      next =>
        intro shown
        rw [shown] at beneath
        cases beneath
      next elsewhere =>
        intro shown
        obtain ⟨held, here, lives⟩ := (exclusive.shown place other).mp shown
        cases resident.symm.trans here
        exact elsewhere lives.symm
    · rw [Function.update_of_ne same, ← exclusive.shown]
      split
      next here =>
        subst here
        rw [home]
        constructor
        · intro shown
          rw [shown] at beneath
          cases beneath
        · intro shown
          cases shown
          exact absurd rfl same
      next => rfl
  beneath other held here := by
    rw [Function.update_apply] at here
    split at here
    next => cases here
    next => exact exclusive.beneath other held here

/-- Whoever comes covers a cell where nobody lived. -/
theorem occupy (exclusive : Exclusive grid residents) (vacant : residents slot = none)
    (inside : body.offset < grid.size) (unoccupied : (grid.get body.offset).isOrganism = false)
    (beneath : body.beneath.isOrganism = false) :
    Exclusive (grid.set body.offset (.organism slot)) (Function.update residents slot (some body))
    where
  shown place other := by
    rw [grid.get_set _ _ _ inside]
    by_cases same : other = slot
    · subst same
      simp only [Function.update_self, Option.some.injEq, exists_eq_left']
      split
      next here => simp [here]
      next elsewhere =>
        simp only [exclusive.shown, vacant, reduceCtorEq, false_and, exists_false, false_iff]
        exact fun here => elsewhere here.symm
    · rw [Function.update_of_ne same, ← exclusive.shown]
      split
      next here =>
        subst here
        constructor
        · intro shown
          cases shown
          exact absurd rfl same
        · intro shown
          rw [shown] at unoccupied
          cases unoccupied
      next => rfl
  beneath other held here := by
    rw [Function.update_apply] at here
    split at here
    next =>
      cases here
      exact beneath
    next => exact exclusive.beneath other held here

/-- Nobody walks to where it is, so what it walks to is there when it has left. -/
theorem get_target (exclusive : Exclusive grid residents) (resident : residents slot = some body)
    {target : Nat} (unoccupied : (grid.get target).isOrganism = false) :
    (grid.set body.offset body.beneath).get target = grid.get target := by
  have elsewhere : target ≠ body.offset := by
    rintro rfl
    rw [exclusive.home resident] at unoccupied
    cases unoccupied
  rw [grid.get_set _ _ _ (exclusive.inside resident), if_neg elsewhere]

/-- Who walks uncovers one cell and covers another one. -/
theorem walk (exclusive : Exclusive grid residents) (resident : residents slot = some body)
    {target : Nat} (inside : target < grid.size)
    (unoccupied : (grid.get target).isOrganism = false) :
    Exclusive (grid.moveOrganism body.offset target slot body.beneath)
      (Function.update residents slot
        (some { body with beneath := grid.get target, offset := target })) := by
  let moved : Body := { body with beneath := grid.get target, offset := target }
  have kept := exclusive.get_target resident unoccupied
  have gone := exclusive.vacate resident
  -- To walk is to leave and to come back elsewhere.
  have arrived : Exclusive ((grid.set body.offset body.beneath).set moved.offset (.organism slot))
      (Function.update (Function.update residents slot none) slot (some moved)) :=
    gone.occupy (Function.update_self slot none residents) (by rwa [grid.size_set])
      (kept ▸ unoccupied) unoccupied
  rwa [Function.update_idem] at arrived

end Exclusive

namespace Grid.Free

variable {grid : Grid} {offset : Nat}

theorem isOrganism_eq_false (free : grid.Free offset) : (grid.get offset).isOrganism = false := by
  rw [free.2]
  rfl

end Grid.Free

namespace Scene

variable {admits : Scene → Int → Prop} {scene next : Scene}

theorem inside_of_token {grid : Grid} {offset : Nat} {token : Token}
    (shown : grid.get offset = .token token) : offset < grid.size :=
  Grid.lt_size_of_get shown (by simp)

theorem isOrganism_of_token {grid : Grid} {offset : Nat} {token : Token}
    (shown : grid.get offset = .token token) : (grid.get offset).isOrganism = false := by
  rw [shown]
  rfl

theorem Newborn.exclusive {slot : Nat} {body : Body} (newborn : scene.Newborn slot body)
    (exclusive : Exclusive scene.grid scene.residents) :
    Exclusive (scene.grid.set body.offset (.organism slot))
      (Function.update scene.residents slot (some body)) := by
  refine exclusive.occupy newborn.vacant newborn.free.1 newborn.free.isOrganism_eq_false ?_
  rw [newborn.beneath]
  rfl

theorem Departure.exclusive {slot : Nat} {body : Body}
    (departure : Departure scene slot body next) (resident : scene.residents slot = some body)
    (exclusive : Exclusive scene.grid scene.residents) : Exclusive next.grid next.residents := by
  have gone := exclusive.vacate resident
  cases departure with
  | emptyHanded | homeless | lost => exact gone
  | restored packet surface offset carried own free => exact gone.paint free.isOrganism_eq_false rfl

theorem Move.exclusive (move : Move admits scene next)
    (exclusive : Exclusive scene.grid scene.residents) : Exclusive next.grid next.residents := by
  cases move with
  | start | stop | wait | opened | closed => exact exclusive
  | pay slot body amount acting resident cost => exact exclusive.reseat resident _ rfl rfl
  | walk slot body target acting resident inside noOrganism passable =>
    exact exclusive.walk resident inside noOrganism
  | graze slot body target token surface found tokens acting resident own shown kind erased =>
    exact (exclusive.paint (isOrganism_of_token shown) rfl).reseat resident _ rfl rfl
  | bite slot body victim prey taken acting resident other caught nonneg left =>
    -- Neither of the two moves, so each is reseated in turn.
    have bitten := exclusive.reseat caught { prey with energy := prey.energy - taken } rfl rfl
    exact bitten.reseat (update_beside other resident _) _ rfl rfl
  | devour slot body victim prey next acting resident other caught departure =>
    have emptied := exclusive.reseat caught { prey with energy := 0 } rfl rfl
    have fed := emptied.reseat (update_beside other resident _)
      { body with energy := body.energy + prey.energy } rfl rfl
    refine departure.exclusive ?_ fed
    simp [seat, Function.update_of_ne other]
  | bear slot body fresh child code acting resident share newborn identity parent =>
    have paid : Exclusive scene.grid (scene.earn slot body (-child.energy)).residents :=
      exclusive.reseat resident _ rfl rfl
    exact (newborn.earn resident _).exclusive paid
  | spawn fresh body code idle newborn identity orphan admitted =>
    exact newborn.exclusive exclusive
  | pickUp slot body target kind token surface found tokens acting resident handsFree own shown
      isOwn erased =>
    exact (exclusive.paint (isOrganism_of_token shown) rfl).reseat resident _ rfl rfl
  | putDown slot body target packet surface acting resident carried own free =>
    exact (exclusive.paint free.isOrganism_eq_false rfl).reseat resident _ rfl rfl
  | mix slot body target packet lying surface atoms acting resident carried energy own shown isOwn
      capped =>
    exact (exclusive.paint (isOrganism_of_token shown) rfl).reseat resident _ rfl rfl
  | drop offset kind atoms surface idle own room free positive light admitted =>
    exact exclusive.paint free.isOrganism_eq_false rfl
  | shift kind surface origin target token found tokens idle own shown isOwn free erased =>
    have cleared : Exclusive (scene.grid.set origin .empty) scene.residents :=
      exclusive.paint (isOrganism_of_token shown) rfl
    refine cleared.paint ?_ rfl
    rw [scene.grid.get_set _ _ _ (inside_of_token shown)]
    split
    next => rfl
    next => exact free.isOrganism_eq_false
  | depart slot body next resident departure => exact departure.exclusive resident exclusive

theorem Moves.exclusive (moves : Moves admits scene next)
    (exclusive : Exclusive scene.grid scene.residents) : Exclusive next.grid next.residents :=
  moves.preserve (fun scene => Exclusive scene.grid scene.residents) (fun move => move.exclusive)
    exclusive

end Scene

namespace World

variable {ρ : Type} [DrawSource ρ]

/-- Whatever is called, cells and organisms agree when the calls are over, and no
organism is left outside of the pool. -/
theorem performAll_exclusive {config : Config} {source : ρ} {recording : Bool}
    {start world : World ρ} (calls : List Call)
    (created : create config source recording = .ok (.ok start))
    (performed : performAll calls start = .ok world) :
    (∀ offset slot, world.grid.get offset = .organism slot ↔
      ∃ org, world.pool.get? slot = some org ∧ org.offset = offset) ∧
    (∀ slot org, world.pool.get? slot = some org → org.offset < world.grid.size) ∧
    (∀ slot, world.pool.isLent slot = false) ∧
    (∀ slot org, world.pool.get? slot = some org → org.beneath.isOrganism = false) := by
  obtain ⟨resting, blank, empty, moves⟩ := reached_of_performAll created performed
  have exclusive : Exclusive world.grid world.pool.bodies :=
    moves.preserve (fun scene => Exclusive scene.grid scene.residents) (fun move => move.exclusive)
      (.of_blank empty.cells empty.nobody)
  refine ⟨fun offset slot => ?_, fun slot org live => ?_, fun slot => ?_, fun slot org live => ?_⟩
  · rw [exclusive.shown]
    constructor
    · rintro ⟨body, resident, lives⟩
      obtain ⟨org, live, rfl⟩ := Option.map_eq_some_iff.mp resident
      exact ⟨org, live, lives⟩
    · rintro ⟨org, live, lives⟩
      exact ⟨org.body, Pool.bodies_eq_some live, lives⟩
  · exact exclusive.inside (Pool.bodies_eq_some live)
  · rw [Bool.eq_false_iff, Ne, Pool.isLent_iff, resting.lent.lent]
    exact fun lent => nomatch lent
  · exact exclusive.beneath slot org.body (Pool.bodies_eq_some live)

theorem performAll_exclusive_small :
    ∃ start world : World Generator, create .small (.ofSeed 7) false = .ok (.ok start) ∧
      performAll Call.shortLife start = .ok world ∧
      (∀ offset slot, world.grid.get offset = .organism slot ↔
        ∃ org, world.pool.get? slot = some org ∧ org.offset = offset) ∧
      ∀ slot, world.pool.isLent slot = false := by
  obtain ⟨start, world, created, performed⟩ := performAll_small
  obtain ⟨shown, -, returned, -⟩ := performAll_exclusive _ created performed
  exact ⟨start, world, created, performed, shown, returned⟩

end World

end Vivarium
