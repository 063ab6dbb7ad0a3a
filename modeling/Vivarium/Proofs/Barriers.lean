import Vivarium.Proofs.Inventory
import Vivarium.Proofs.Terrain.Conservation

/-!
# Barriers

Organisms move and so do tokens, and yet no organism stands on a barrier. Whoever steps
looks at the cell it enters; whoever is born or placed comes onto an empty cell; and a
token never comes to lie where an organism is. So what lies beneath an organism let it in,
and of the cells that are written one after another, none turns from a barrier into an
organism.

A run that a view watches is known cell by cell: the view is told of each cell written.
-/
namespace Vivarium

/-! ### Cells that keep organisms out -/

namespace Config

/-- The cell shows a token of a barrier. -/
def bars (config : Config) : Cell → Bool
  | .token token => config.surfaces[token.kind]?.any (·.barrier)
  | .empty | .organism _ => false

/-- The cell shows nothing, or a token of terrain that is no barrier. -/
def Footing (config : Config) (cell : Cell) : Prop :=
  cell = .empty ∨ ∃ token surface, cell = .token token ∧
    config.surfaces[token.kind]? = some surface ∧ surface.barrier = false

theorem Footing.bars_eq_false {config : Config} {cell : Cell} (footing : config.Footing cell) :
    config.bars cell = false := by
  rcases footing with rfl | ⟨token, surface, rfl, own, passable⟩
  · rfl
  · simp only [bars, own, Option.any_some, passable]

end Config

/-! ### Writes -/

namespace Grid

/-- `after` is the grid after these cells of the field were written, one after the other, and
no organism where the field showed a cell that `bars` organisms. -/
inductive Spares (bars : Cell → Bool) : Grid → List (Nat × Cell) → Grid → Prop where
  | done (grid : Grid) : Spares bars grid [] grid
  | write {grid after : Grid} {offset : Nat} {cell : Cell} {rest : List (Nat × Cell)}
      (inside : offset < grid.size)
      (spared : cell.isOrganism = true → bars (grid.get offset) = false)
      (later : Spares bars (grid.set offset cell) rest after) :
      Spares bars grid ((offset, cell) :: rest) after

/-- What a view is told of a cell does not depend on what the field shows. -/
theorem eventOf_set (grid : Grid) (offset : Nat) (cell : Cell) :
    (grid.set offset cell).eventOf = grid.eventOf := by
  unfold set
  split <;> rfl

namespace Spares

variable {bars : Cell → Bool} {grid middle after : Grid} {offset : Nat} {cell : Cell}
  {writes more : List (Nat × Cell)}

theorem trans (first : Spares bars grid writes middle) (rest : Spares bars middle more after) :
    Spares bars grid (writes ++ more) after := by
  induction first with
  | done => exact rest
  | write inside spared _ ih => exact .write inside spared (ih rest)

/-- A cell without an organism may be written anywhere. -/
theorem plain (inside : offset < grid.size) (plain : cell.isOrganism = false) :
    Spares bars grid [(offset, cell)] (grid.set offset cell) := by
  refine .write inside (fun organism => ?_) (.done _)
  rw [plain] at organism
  cases organism

/-- A view is told of all that is written, and of nothing else. -/
theorem events (spares : Spares bars grid writes after) {told : List ViewEvent}
    (before : grid.events = some told) :
    after.events =
      some ((writes.map fun (offset, cell) => grid.eventOf offset cell).reverse ++ told) := by
  induction spares generalizing told with
  | done => exact before
  | @write grid after offset cell rest inside spared later ih =>
    have first : (grid.set offset cell).events = some (grid.eventOf offset cell :: told) := by
      rw [set, if_pos inside, before]
    rw [ih first, eventOf_set, List.map_cons, List.reverse_cons, List.append_assoc]
    rfl

end Spares

end Grid

/-! ### Residents -/

/-- Each resident stands on something that lets organisms in. -/
def Footed (config : Config) (residents : Nat → Option Body) : Prop :=
  ∀ slot body, residents slot = some body → config.Footing body.beneath

namespace Footed

variable {config : Config} {residents : Nat → Option Body} {slot : Nat} {body : Body}

theorem update (footed : Footed config residents) {held : Option Body}
    (stands : ∀ body ∈ held, config.Footing body.beneath) :
    Footed config (Function.update residents slot held) := by
  intro other resident here
  rw [Function.update_apply] at here
  split at here
  next => exact stands resident here
  next => exact footed other resident here

/-- A resident may change as long as it stands on the same. -/
theorem reseat (footed : Footed config residents) (resident : residents slot = some body)
    (after : Body) (beneath : after.beneath = body.beneath) :
    Footed config (Function.update residents slot (some after)) := by
  refine footed.update ?_
  rintro _ ⟨⟩
  rw [beneath]
  exact footed slot body resident

end Footed

namespace Scene

variable {admits : Scene → Int → Prop} {scene next : Scene} {slot : Nat} {body : Body}

/-- Each surface of the configuration is there. -/
theorem Furnished.surface_of_config (furnished : scene.Furnished) {kind : Nat}
    {terrain : SurfaceConfig} (configured : scene.config.surfaces[kind]? = some terrain) :
    ∃ surface, scene.surfaces[kind]? = some surface ∧ surface.config = terrain := by
  have known : kind < scene.surfaces.length :=
    furnished.length ▸ (List.getElem?_eq_some_iff.mp configured).1
  have own := List.getElem?_eq_getElem known
  have same := (furnished.own kind _ own).2
  rw [configured, Option.some.injEq] at same
  exact ⟨_, own, same.symm⟩

/-- What may be stepped onto is footing: the kind of a token that is shown is known. -/
theorem Accounted.footing (accounted : scene.Accounted) {target : Nat}
    (noOrganism : (scene.grid.get target).isOrganism = false)
    (passable : ∀ token surface, scene.grid.get target = .token token →
      scene.surfaces[token.kind]? = some surface → surface.config.barrier = false) :
    scene.config.Footing (scene.grid.get target) := by
  cases shown : scene.grid.get target with
  | empty => exact .inl rfl
  | organism other =>
    rw [shown] at noOrganism
    cases noOrganism
  | token token =>
    have known := (accounted.balanced.lying target token (ground_of_token shown)).known
    have own := List.getElem?_eq_getElem known
    have configured := (accounted.furnished.own token.kind _ own).2
    exact .inr ⟨token, _, rfl, configured, passable token _ shown own⟩

theorem Newborn.footed (newborn : scene.Newborn slot body)
    (footed : Footed scene.config scene.residents) :
    Footed scene.config (Function.update scene.residents slot (some body)) := by
  refine footed.update ?_
  rintro _ ⟨⟩
  exact .inl newborn.beneath

theorem Departure.footed (departure : Departure scene slot body next)
    (footed : Footed scene.config scene.residents) : Footed next.config next.residents := by
  have left : Footed scene.config (Function.update scene.residents slot none) :=
    footed.update nofun
  cases departure <;> exact left

/-- Only a step changes what lies beneath a resident. -/
theorem Move.footed (move : Move admits scene next) (accounted : scene.Accounted)
    (footed : Footed scene.config scene.residents) : Footed next.config next.residents := by
  -- Whoever is there before and after stands on the same, and a newborn stands on nothing.
  cases move with
  | start | stop | drop | shift | wait | opened | closed => exact footed
  | pay slot body amount acting resident cost => exact footed.reseat resident _ rfl
  | walk slot body target acting resident inside noOrganism passable =>
    refine footed.update ?_
    rintro _ ⟨⟩
    exact accounted.footing noOrganism passable
  | graze slot body target token surface found tokens acting resident own shown kind erased =>
    exact footed.reseat resident _ rfl
  | bite slot body victim prey taken acting resident other caught nonneg left =>
    have bitten := footed.reseat caught { prey with energy := prey.energy - taken } rfl
    exact bitten.reseat (update_beside other resident _) _ rfl
  | devour slot body victim prey next acting resident other caught departure =>
    have emptied := footed.reseat caught { prey with energy := 0 } rfl
    exact departure.footed (emptied.reseat (update_beside other resident _) _ rfl)
  | bear slot body fresh child code acting resident share newborn identity parent =>
    exact (newborn.earn resident _).footed (footed.reseat resident _ rfl)
  | spawn fresh body code idle newborn identity orphan admitted => exact newborn.footed footed
  | pickUp slot body target kind token surface found tokens acting resident handsFree own shown
      isOwn erased => exact footed.reseat resident _ rfl
  | putDown slot body target packet surface acting resident carried own free =>
    exact footed.reseat resident _ rfl
  | mix slot body target packet lying surface atoms acting resident carried energy own shown isOwn
      capped => exact footed.reseat resident _ rfl
  | depart slot body next resident departure => exact departure.footed footed

/-! ### Writes of a move -/

/-- Who leaves uncovers its cell, and its packet comes onto a free one. -/
theorem Departure.spares (departure : Departure scene slot body next) (bars : Cell → Bool)
    (inside : body.offset < scene.grid.size) (beneath : body.beneath.isOrganism = false) :
    ∃ writes, scene.grid.Spares bars writes next.grid := by
  have uncovered : scene.grid.Spares bars _ (scene.vacate slot body).grid := .plain inside beneath
  cases departure with
  | emptyHanded | homeless | lost => exact ⟨_, uncovered⟩
  | restored packet surface offset carried own free =>
    exact ⟨_, uncovered.trans (.plain free.1 rfl)⟩

/-- A newborn covers an empty cell. -/
theorem Newborn.spares (newborn : scene.Newborn slot body) :
    scene.grid.Spares scene.config.bars [(body.offset, .organism slot)]
      (scene.grid.set body.offset (.organism slot)) := by
  refine .write newborn.free.1 (fun _ => ?_) (.done _)
  rw [newborn.free.2]
  rfl

theorem Move.spares (move : Move admits scene next) (accounted : scene.Accounted) :
    ∃ writes, scene.grid.Spares scene.config.bars writes next.grid := by
  have exclusive := accounted.exclusive
  -- Organisms are written in births and in steps only.
  cases move with
  | start | stop | pay | bite | wait | opened | closed => exact ⟨[], .done _⟩
  | walk slot body target acting resident inside noOrganism passable =>
    have uncovered : scene.grid.Spares scene.config.bars _
        (scene.grid.set body.offset body.beneath) :=
      .plain (exclusive.inside resident) (exclusive.beneath slot body resident)
    refine ⟨_, uncovered.trans (.write ?_ (fun _ => ?_) (.done _))⟩
    · rw [scene.grid.size_set]
      exact inside
    -- The cell entered is not the one that has just been left.
    · rw [exclusive.get_target resident noOrganism]
      exact (accounted.footing noOrganism passable).bars_eq_false
  | graze slot body target token surface found tokens acting resident own shown kind erased =>
    exact ⟨_, .plain (inside_of_token shown) rfl⟩
  | devour slot body victim prey next acting resident other caught departure =>
    have inside := exclusive.inside caught
    exact departure.spares _ inside (exclusive.beneath victim prey caught)
  | bear slot body fresh child code acting resident share newborn identity parent =>
    exact ⟨_, newborn.spares⟩
  | spawn fresh body code idle newborn identity orphan admitted => exact ⟨_, newborn.spares⟩
  | pickUp slot body target kind token surface found tokens acting resident handsFree own shown
      isOwn erased => exact ⟨_, .plain (inside_of_token shown) rfl⟩
  | putDown slot body target packet surface acting resident carried own free =>
    exact ⟨_, .plain free.1 rfl⟩
  | mix slot body target packet lying surface atoms acting resident carried energy own shown isOwn
      capped => exact ⟨_, .plain (inside_of_token shown) rfl⟩
  | drop offset kind atoms surface idle own room free positive light admitted =>
    exact ⟨_, .plain free.1 rfl⟩
  | shift kind surface origin target token found tokens idle own shown isOwn free erased =>
    have lifted : scene.grid.Spares scene.config.bars _ (scene.grid.set origin .empty) :=
      .plain (inside_of_token shown) rfl
    refine ⟨_, lifted.trans (.plain ?_ rfl)⟩
    rw [scene.grid.size_set]
    exact free.1
  | depart slot body next resident departure =>
    exact departure.spares _ (exclusive.inside resident) (exclusive.beneath slot body resident)

/-! ### Runs -/

theorem Moves.footed (moves : Moves admits scene next) (accounted : scene.Accounted)
    (footed : Footed scene.config scene.residents) : Footed next.config next.residents := by
  have both := moves.preserve
    (fun scene => scene.Accounted ∧ Footed scene.config scene.residents)
    (fun move before => ⟨move.accounted before.1, move.footed before.1 before.2⟩)
    ⟨accounted, footed⟩
  exact both.2

/-- What is written by each of the moves is written in their order. -/
theorem Moves.spares (moves : Moves admits scene next) (accounted : scene.Accounted) :
    ∃ writes, scene.grid.Spares scene.config.bars writes next.grid := by
  induction moves with
  | refl => exact ⟨[], .done _⟩
  | @tail between last earlier move ih =>
    obtain ⟨writes, spared⟩ := ih
    have soFar : Moves admits scene between := earlier
    obtain ⟨more, onward⟩ := move.spares (soFar.accounted accounted)
    rw [soFar.config] at onward
    exact ⟨writes ++ more, spared.trans onward⟩

theorem Blank.footed (blank : scene.Blank) : Footed scene.config scene.residents := by
  intro slot body resident
  rw [blank.nobody] at resident
  cases resident

end Scene

namespace World

open Scene (Unbounded)

variable {ρ : Type} {world next : World ρ}

/-- Each organism of the pool stands on nothing, or on a token of a surface that is no
barrier. -/
def AvoidsBarriers (world : World ρ) : Prop :=
  ∀ slot org, world.pool.get? slot = some org →
    org.beneath = .empty ∨ ∃ token surface, org.beneath = .token token ∧
      world.surfaces[token.kind]? = some surface ∧ surface.config.barrier = false

theorem avoidsBarriers_of_footed (accounted : world.scene.Accounted)
    (footed : Footed world.config world.pool.bodies) : world.AvoidsBarriers := by
  intro slot org live
  rcases footed slot org.body (Pool.bodies_eq_some live) with
    bare | ⟨token, terrain, lies, configured, passable⟩
  · exact .inl bare
  · obtain ⟨surface, own, rfl⟩ := accounted.furnished.surface_of_config configured
    exact .inr ⟨token, surface, lies, own, passable⟩

/-! ### Founders -/

/-- Who is taken in covers its cell. -/
theorem grid_of_adopt {org : Organism} {placed : Option Nat}
    (adopted : world.adopt org = .ok (placed, next)) :
    next.grid = world.grid ∨ ∃ slot, next.grid = world.grid.set org.offset (.organism slot) := by
  obtain ⟨-, rfl, -⟩ | ⟨slot, pool, -, -, rfl⟩ := adopt_cases adopted
  · exact .inl rfl
  · exact .inr ⟨slot, rfl⟩

/-- An organism placed on demand covers an empty cell. -/
theorem get_of_spawnOrganism {offset other : Nat} {code : Genome} {energy : Int}
    {placed : Option Nat} (spawned : world.spawnOrganism offset code energy = .ok (placed, next))
    (taken : world.grid.get other ≠ .empty) : next.grid.get other = world.grid.get other := by
  rcases spawnOrganism_cases spawned with ⟨-, rfl, -⟩ | ⟨⟨-, -, inside, empty⟩, adopted⟩
  · rfl
  -- Only an empty cell of the field has admitted it.
  · rcases grid_of_adopt adopted with same | ⟨slot, covered⟩
    · rw [same]
    · have elsewhere : other ≠ offset := by
        rintro rfl
        exact taken empty
      rw [covered]
      exact (Grid.get_set _ _ _ _ inside).trans (if_neg elsewhere)

variable [DrawSource ρ]

theorem get_of_seedMany {wanted placed total other : Nat}
    (seeded : seedMany wanted placed world = .ok (total, next))
    (taken : world.grid.get other ≠ .empty) : next.grid.get other = world.grid.get other := by
  induction wanted generalizing placed world with
  | zero =>
    cases seeded
    rfl
  | succ wanted ih =>
    obtain ⟨headroom, -, seeded⟩ := (bind_eq_ok_iff _ _ _).mp seeded
    simp only at seeded
    split at seeded
    next =>
      cases seeded
      rfl
    next =>
      obtain ⟨⟨found, source⟩, -, seeded⟩ := (bind_eq_ok_iff _ _ _).mp seeded
      simp only at seeded
      split at seeded
      -- No cell was found, or there is one more organism.
      next =>
        have kept := ih seeded taken
        exact kept
      next offset =>
        obtain ⟨⟨code, coded⟩, coding, seeded⟩ := (bind_eq_ok_iff _ _ _).mp seeded
        obtain ⟨source', rfl⟩ := randomCode_eq_ok coding
        obtain ⟨⟨slot, spawned⟩, spawning, seeded⟩ := (bind_eq_ok_iff _ _ _).mp seeded
        have kept := get_of_spawnOrganism spawning taken
        exact (ih seeded (kept ▸ taken)).trans kept

theorem get_of_seedPopulation {placed other : Nat}
    (seeded : world.seedPopulation = .ok (placed, next))
    (taken : world.grid.get other ≠ .empty) : next.grid.get other = world.grid.get other := by
  obtain ⟨⟨total, populated⟩, seeding, seeded⟩ := (bind_eq_ok_iff _ _ _).mp seeded
  obtain ⟨generation, -, answer⟩ := (bind_eq_ok_iff _ _ _).mp seeded
  cases answer
  have kept := get_of_seedMany seeding taken
  exact kept

/-- The tokens laid in creation can all be seen when the founders have come. -/
theorem shown_of_create {config : Config} {source : ρ} {recording : Bool} {start : World ρ}
    (created : create config source recording = .ok (.ok start)) {kind offset : Nat}
    {surface : Surface} (own : start.surfaces[kind]? = some surface)
    (member : offset ∈ surface.tokens.toList) :
    ∃ token, start.grid.get offset = .token token ∧ token.kind = kind := by
  obtain ⟨blank, terrain, placed, founded, seeded⟩ := create_eq_ok created
  have accounted := founded.accounted
  rw [surfaces_of_seedPopulation seeded] at own
  obtain ⟨token, lies⟩ := ((accounted.balanced.own kind surface own).members offset).mp member
  obtain ⟨lies, isOwn⟩ := ofKind_eq_some_iff.mp lies
  -- Nobody lives on the terrain yet, so what lies there is shown.
  rcases (ground_eq_some_iff accounted.exclusive offset token).mp lies with
    shown | ⟨slot, body, resident, -⟩
  · have seen : terrain.grid.get offset = .token token := shown
    have taken : terrain.grid.get offset ≠ .empty := by simp [seen]
    exact ⟨token, (get_of_seedPopulation seeded taken).trans seen, isOwn⟩
  · obtain ⟨org, live, -⟩ := Option.map_eq_some_iff.mp resident
    rw [founded.nobody] at live
    cases live

/-! ### Any calls -/

omit [DrawSource ρ] in
/-- A view only listens. -/
theorem Resting.watch (resting : Resting world) : Resting world.watch :=
  ⟨resting.lent, resting.accepted, ⟨resting.furnished.length, resting.furnished.own⟩,
    resting.thriving⟩

omit [DrawSource ρ] in
theorem accounted_watch (accounted : world.scene.Accounted) : world.watch.scene.Accounted :=
  ⟨⟨accounted.exclusive.shown, accounted.exclusive.beneath⟩,
    ⟨accounted.furnished.length, accounted.furnished.own⟩, accounted.slotted, accounted.balanced⟩

/-- Whatever is called, before a view is attached or afterwards, no organism of the pool stands
on a barrier. The founders leave all tokens that were laid before to be seen; and of the cells
that the view is told of, one by one, none turns from a barrier into an organism. -/
theorem performAll_avoids_barriers {config : Config} {source : ρ} {recording : Bool}
    {start attached last : World ρ} (early late : List Call)
    (created : create config source recording = .ok (.ok start))
    (performed : performAll early start = .ok attached)
    (followed : performAll late attached.watch = .ok last) :
    attached.AvoidsBarriers ∧ last.AvoidsBarriers ∧
    (∀ kind surface offset, start.surfaces[kind]? = some surface →
      offset ∈ surface.tokens.toList →
        ∃ token, start.grid.get offset = .token token ∧ token.kind = kind) ∧
    ∃ writes, attached.grid.watch.Spares config.bars writes last.grid ∧
      last.grid.events =
        some (writes.map fun (offset, cell) => attached.grid.eventOf offset cell).reverse := by
  have lenient : Scene.Lenient Unbounded := fun _ _ _ => trivial
  obtain ⟨blank, terrain, founded, leads⟩ :=
    founded_of_performAll lenient (fun _ _ _ _ _ => trivial) created performed
  have reached : Scene.Moves Unbounded blank attached.scene := founded.laid.trans leads.moves
  have accounted := reached.accounted founded.empty.accounted
  have footed := reached.footed founded.empty.accounted founded.empty.footed
  -- The view changes nothing of this, so the later calls go on from the same facts.
  have watched := accounted_watch accounted
  have onward : Leads Unbounded attached.watch last :=
    performAll_leads (founded.resting.after leads).watch lenient (fun _ _ _ _ _ => trivial) followed
  refine ⟨avoidsBarriers_of_footed accounted footed, ?_, ?_, ?_⟩
  · exact avoidsBarriers_of_footed (onward.moves.accounted watched)
      (onward.moves.footed watched footed)
  · exact fun kind surface offset => shown_of_create created
  · obtain ⟨writes, spared⟩ := onward.moves.spares watched
    have configured : attached.watch.scene.config = config :=
      reached.config.trans founded.configured
    rw [configured] at spared
    have heard := spared.events rfl
    rw [List.append_nil] at heard
    exact ⟨writes, spared, heard⟩

end World

/-! ### A quarry -/

/-- A row of three cells, of which one shows a stone and one shows sand. -/
def Config.quarry : Config :=
  { Config.strait with
    surfaces :=
      [.energyPackets, { SurfaceConfig.stone with capacity := 1, initial := 1 },
        { SurfaceConfig.sand with capacity := 1, initial := 1 }] }

/-- An organism beside the sand, with the stone behind that, steps that way twice. -/
def Call.quarryLife : List Call :=
  [.spawnOrganism 2 [6, Opcode.step.word, Opcode.step.word] 50]

namespace World

set_option maxRecDepth 20000 in
/-- The second step does not take place. -/
theorem performAll_quarry :
    ∃ start attached last : World Generator, create .quarry (.ofSeed 0) false = .ok (.ok start) ∧
      performAll Call.quarryLife start = .ok attached ∧
      performAll [.runOrganism 0 3] attached.watch = .ok last ∧
      (last.pool.get? 0).map (fun org => (org.offset, org.beneath)) =
        some (1, .token (.single 2)) ∧
      last.grid.get 0 = .token (.single 1) ∧
      last.grid.events = some [.dot 1 0 0xff0000, .blank 2 0] :=
  ⟨_, _, _, rfl, rfl, rfl, by decide +kernel, by decide +kernel, by decide +kernel⟩

/-- It stands on the sand and not on the stone, and a view has seen it come there. -/
theorem performAll_avoids_barriers_quarry :
    ∃ start attached last : World Generator, create .quarry (.ofSeed 0) false = .ok (.ok start) ∧
      performAll Call.quarryLife start = .ok attached ∧
      performAll [.runOrganism 0 3] attached.watch = .ok last ∧
      (∃ org surface, last.pool.get? 0 = some org ∧ org.offset = 1 ∧
        org.beneath = .token (.single 2) ∧ last.surfaces[2]? = some surface ∧
        surface.config.barrier = false) ∧
      Config.quarry.bars (last.grid.get 0) = true ∧
      ∃ writes, attached.grid.watch.Spares Config.quarry.bars writes last.grid ∧
        writes.length = 2 := by
  obtain ⟨start, attached, last, created, performed, followed, stands, stone, events⟩ :=
    performAll_quarry
  obtain ⟨-, avoids, -, writes, spared, heard⟩ :=
    performAll_avoids_barriers Call.quarryLife [.runOrganism 0 3] created performed followed
  refine ⟨start, attached, last, created, performed, followed, ?_, ?_, writes, spared, ?_⟩
  · obtain ⟨org, live, place⟩ := Option.map_eq_some_iff.mp stands
    obtain ⟨offset, beneath⟩ := Prod.mk.inj place
    rcases avoids 0 org live with bare | ⟨token, surface, lies, own, passable⟩
    · cases beneath.symm.trans bare
    · cases beneath.symm.trans lies
      exact ⟨org, surface, live, offset, beneath, own, passable⟩
  · rw [stone]
    rfl
  · have count := congrArg (Option.map List.length) (events.symm.trans heard)
    simpa using count.symm

end World

end Vivarium
