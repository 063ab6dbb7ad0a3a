import Mathlib.Logic.Relation
import Vivarium.Proofs.Calls
import Vivarium.Proofs.Grid.Painting

/-!
# The view shows the grid

`Grid.Operates` lists what can be done with a grid, on its own, with a surface or as the
grid of a world. Each of these only repaints the grid, so whenever a view is attached to
a grid that came about in this way, and whatever is done afterwards, what the view was
told turns the picture at the time into the picture now.
-/
namespace Vivarium

/-- The colors of a configuration. -/
def Config.palette (config : Config) : Palette :=
  { tokens := config.surfaces.map (·.color), organism := config.orgColor }

namespace Grid

open ViewEvent (paintAll)

/-- One operation that has an answer. A call counts whatever world it is made on, so the
rest of the world may change between two calls in any way. -/
inductive Operates : Grid → Grid → Prop where
  | set (grid : Grid) (offset : Nat) (cell : Cell) : Operates grid (grid.set offset cell)
  | clear (grid : Grid) (offset : Nat) : Operates grid (grid.clear offset)
  | moveOrganism (grid : Grid) (origin target slot : Nat) (restore : Cell) :
      Operates grid (grid.moveOrganism origin target slot restore)
  | title (grid : Grid) (text : String) : Operates grid (grid.title text)
  | place (surface : Surface) (grid : Grid) (offset : Nat) (token : Token) :
      Operates grid (surface.place grid offset token).2.2
  | insert {surface next : Surface} {grid after : Grid} {offset atoms : Nat} {added : Bool}
      (done : surface.insert grid offset atoms = .ok (added, next, after)) : Operates grid after
  | remove {surface next : Surface} {grid after : Grid} {offset : Nat} {pickedUp : Bool}
      {taken : Option Token}
      (done : surface.remove grid offset pickedUp = .ok (taken, next, after)) :
      Operates grid after
  | merge {surface next : Surface} {grid after : Grid} {offset : Nat} {carried : Token}
      {merged : Option Token}
      (done : surface.merge grid offset carried = .ok (merged, next, after)) :
      Operates grid after
  | put {ρ : Type} [DrawSource ρ] {surface next : Surface} {grid after : Grid} {source rest : ρ}
      {landed : Option Nat}
      (done : surface.put grid source = .ok (landed, next, after, rest)) : Operates grid after
  | seed {ρ : Type} [DrawSource ρ] {surface next : Surface} {grid after : Grid} {source rest : ρ}
      {placed : Nat}
      (done : surface.seed grid source = .ok (placed, next, after, rest)) : Operates grid after
  | restore {ρ : Type} [DrawSource ρ] {surface next : Surface} {grid after : Grid}
      {source rest : ρ} {token : Token} {landed : Option Nat}
      (done : surface.restore grid token source = .ok (landed, next, after, rest)) :
      Operates grid after
  | move {ρ : Type} [DrawSource ρ] {surface next : Surface} {grid after : Grid} {source rest : ρ}
      {moved : Bool}
      (done : surface.move grid source = .ok (moved, next, after, rest)) : Operates grid after
  | tick {ρ : Type} [DrawSource ρ] {surface next : Surface} {grid after : Grid} {source rest : ρ}
      {due : Bool}
      (done : surface.tick grid source = .ok (due, next, after, rest)) : Operates grid after
  | called {ρ : Type} [DrawSource ρ] {world next : World ρ} {call : Call}
      (performed : world.perform call = .ok next) : Operates world.grid next.grid

/-- A grid with these colors that came about by creation, alone or with its world, and
operations. Width and height are numbers of 32 bits. -/
inductive Reachable : Palette → Grid → Prop where
  | bare {width height : Nat} {grid : Grid} (narrow : width < limit32) (low : height < limit32)
      (created : create width height = .ok (.ok grid)) : Reachable .plain grid
  | configured {config : Config} {grid : Grid} (narrow : config.worldWidth < limit32)
      (low : config.worldHeight < limit32) (created : ofConfig config = .ok (.ok grid)) :
      Reachable config.palette grid
  | founded {ρ : Type} [DrawSource ρ] {config : Config} {source : ρ} {recording : Bool}
      {start : World ρ} (narrow : config.worldWidth < limit32)
      (low : config.worldHeight < limit32)
      (created : World.create config source recording = .ok (.ok start)) :
      Reachable config.palette start.grid
  | watched {palette : Palette} {grid : Grid} (before : Reachable palette grid) :
      Reachable palette grid.watch
  | operated {palette : Palette} {grid after : Grid} (before : Reachable palette grid)
      (operation : Operates grid after) : Reachable palette after

end Grid

namespace World

variable {ρ : Type} [DrawSource ρ]

theorem perform_paints (world : World ρ) (call : Call) :
    Paints world.grid World.grid (world.perform call) := by
  cases call with
  | spawnOrganism offset code energy =>
    exact (spawnOrganism_paints world offset code energy).bind fun _ => .pure .same
  | spawnToken offset kind atoms =>
    exact (spawnToken_paints world offset _ _).bind fun _ => .pure .same
  | kill slot => exact (kill_paints world slot).bind fun _ => .pure .same
  | runOrganism slot lines => exact (runOrganism_paints world slot lines).bind fun _ => .pure .same
  | step => exact (step_paints world).bind fun _ => .pure .same
  | run => exact (run_paints world).bind fun _ => .pure .same
  | seedPopulation => exact (seedPopulation_paints world).bind fun _ => .pure .same
  | updateCataclysm => exact (updateCataclysm_paints world).bind fun _ => .pure .same

/-- Tokens and founders are put on a field that is empty at first. -/
theorem create_repaints {config : Config} {source : ρ} {recording : Bool} {start : World ρ}
    (created : create config source recording = .ok (.ok start)) :
    config.worldWidth ≠ 0 ∧ (Grid.blank config).Repainted start.grid := by
  obtain ⟨creatable, surfaces, grid, rest, placed, seeding, populating⟩ :=
    (create_eq_ok_iff _ _ _ _).mp created
  have terrain : (Grid.blank config).Repainted grid :=
    onSurfaces_paints Prod.fst
      (fun surface state => surface.putMany_paints state.1 state.2 surface.config.initial 0)
      _ _ _ seeding
  have populated := seedPopulation_paints (barren config surfaces grid rest recording) _ populating
  exact ⟨(Config.accepted_of_validate creatable.valid).dimensions.1, terrain.trans populated⟩

end World

namespace Grid

open ViewEvent (paintAll)

variable {grid after : Grid} {palette : Palette}

theorem Operates.repainted (operation : Operates grid after) : grid.Repainted after := by
  cases operation with
  | set | clear => exact .set .same _ _
  | moveOrganism => exact .set (.set .same _ _) _ _
  | title => exact .title .same _
  | place surface grid offset token => exact surface.place_repaints grid offset token
  | insert done => exact Surface.insert_paints _ _ _ _ _ done
  | remove done => exact Surface.remove_paints _ _ _ _ _ done
  | merge done => exact Surface.merge_paints _ _ _ _ _ done
  | put done => exact Surface.put_paints _ _ _ _ done
  | seed done => exact Surface.putMany_paints _ _ _ _ _ _ done
  | restore done => exact Surface.restore_paints _ _ _ _ _ done
  | move done => exact Surface.move_paints _ _ _ _ done
  | tick done => exact Surface.tick_paints _ _ _ _ done
  | called performed => exact World.perform_paints _ _ _ performed

theorem repainted_of_operations (operations : Relation.ReflTransGen Operates grid after) :
    grid.Repainted after := by
  induction operations with
  | refl => exact .same
  | tail _ operation ih => exact ih.trans operation.repainted

/-! ### Reachable grids -/

theorem rectangular_empty {width height : Nat} (wide : width ≠ 0) (low : height < limit32) :
    (empty width height).Rectangular where
  width := Nat.pos_of_ne_zero wide
  height := Nat.le_of_lt low
  cells := by simp [size, empty]

theorem Rectangular.recolor (shape : grid.Rectangular) (palette : Palette) :
    ({ grid with palette } : Grid).Rectangular := ⟨shape.width, shape.height, shape.cells⟩

theorem create_eq_ok {width height : Nat} (created : create width height = .ok (.ok grid)) :
    width ≠ 0 ∧ grid = empty width height := by
  unfold create at created
  split at created
  · cases created
  next proper =>
    obtain ⟨_, -, answer⟩ := (bind_eq_ok_iff _ _ _).mp created
    cases answer
    exact ⟨fun none => proper (.inl none), rfl⟩

/-- Repainting keeps rows and colors. -/
theorem Reachable.regular (reachable : Reachable palette grid) :
    grid.Rectangular ∧ grid.palette = palette := by
  induction reachable with
  | bare narrow low created =>
    obtain ⟨wide, rfl⟩ := create_eq_ok created
    exact ⟨rectangular_empty wide low, rfl⟩
  | configured narrow low created =>
    obtain ⟨⟨wide, -⟩, -, rfl⟩ := (ofConfig_eq_ok_iff _ _).mp created
    exact ⟨(rectangular_empty wide low).recolor _, rfl⟩
  | founded narrow low created =>
    obtain ⟨wide, repainted⟩ := World.create_repaints created
    obtain ⟨-, -, colors, -⟩ := repainted.frame
    exact ⟨repainted.rectangular ((rectangular_empty wide low).recolor _), colors⟩
  | watched before ih => exact ⟨ih.1.watch, ih.2⟩
  | operated before operation ih =>
    obtain ⟨-, -, colors, -⟩ := operation.repainted.frame
    exact ⟨operation.repainted.rectangular ih.1, colors.trans ih.2⟩

/-- Whenever a view is attached, and whatever is done afterwards: what the view was told,
painted over the picture at the time, oldest first, is the picture now, and it was told
of positions of the field only. Offsets and positions of the field name each other, and
what is set outside of the field changes nothing and is not told. -/
theorem watch_mirrors {attached last : Grid} (reachable : Reachable palette attached)
    (later : Relation.ReflTransGen Operates attached.watch last) :
    ∃ told, last.events = some told ∧
      paintAll (attached.picture palette) told.reverse = last.picture palette ∧
      (∀ event ∈ told, event.Inside last.width last.height) ∧
      last.size = last.width * last.height ∧
      (∀ offset, offset < last.size →
        last.offset? (last.xy offset).1 (last.xy offset).2 = some offset) ∧
      (∀ x y, x < last.width → y < last.height →
        ∃ offset < last.size, last.offset? x y = some offset ∧ last.xy offset = (x, y)) ∧
      (∀ first second, first < last.size → second < last.size →
        last.xy first = last.xy second → first = second) ∧
      ∀ offset cell, last.size ≤ offset → last.set offset cell = last := by
  obtain ⟨shape, rfl⟩ := reachable.regular
  have repainted := repainted_of_operations later
  have regular := repainted.rectangular shape.watch
  obtain ⟨told, events, painted, inside⟩ := repainted.shows shape
  obtain ⟨width, height, -, -⟩ : last.width = attached.width ∧ last.height = attached.height ∧ _ :=
    repainted.frame
  refine ⟨told, events, painted, ?_, regular.cells, fun _ => regular.offset?_xy, ?_,
    fun _ _ => regular.xy_injective, last.set_of_size_le⟩
  · rw [width, height]
    exact inside
  · intro x y column row
    have found : last.offset? x y = some (y * last.width + x) := if_pos ⟨column, row⟩
    obtain ⟨below, position⟩ := regular.xy_offset? found
    exact ⟨_, below, found, position⟩

/-- Calls made one after another are operations on the grid of the world. -/
theorem operations_of_performAll {ρ : Type} [DrawSource ρ] {world next : World ρ}
    {calls : List Call} (performed : World.performAll calls world = .ok next) :
    Relation.ReflTransGen Operates world.grid next.grid := by
  induction calls generalizing world with
  | nil =>
    cases performed
    exact .refl
  | cons call rest ih =>
    obtain ⟨after, first, performed⟩ := (bind_eq_ok_iff _ _ _).mp performed
    exact (Relation.ReflTransGen.single (.called first)).trans (ih performed)

end Grid

/-! ### A view of the small world -/

set_option maxRecDepth 20000 in
/-- A view is attached to the small world before an organism is placed there and bears a
child. -/
theorem World.performAll_watched :
    ∃ start next : World Generator, create .small (.ofSeed 7) false = .ok (.ok start) ∧
      performAll Call.familyLife start.watch = .ok next ∧
      next.grid.events = some [.dot 2 0 0x00ff00, .dot 0 1 0xff0000, .dot 2 1 0xff0000] :=
  ⟨_, _, rfl, rfl, rfl⟩

/-- The view shows the world with both of them. -/
theorem Grid.watch_mirrors_family :
    ∃ start next : World Generator, Reachable Config.small.palette start.grid ∧
      World.performAll Call.familyLife start.watch = .ok next ∧
      Relation.ReflTransGen Operates start.grid.watch next.grid ∧
      ViewEvent.paintAll (start.grid.picture Config.small.palette)
          [.dot 2 1 0xff0000, .dot 0 1 0xff0000, .dot 2 0 0x00ff00] =
        next.grid.picture Config.small.palette := by
  obtain ⟨start, next, created, performed, events⟩ := World.performAll_watched
  have reachable : Reachable Config.small.palette start.grid :=
    .founded (by decide) (by decide) created
  have later := operations_of_performAll performed
  obtain ⟨told, heard, painted, -⟩ := watch_mirrors reachable later
  rw [events] at heard
  cases heard
  exact ⟨start, next, reachable, performed, later, painted⟩

end Vivarium
