import Vivarium.Grid

/-!
# What a view shows

A view starts from the picture of the grid as it is when the view is attached, and
paints over it what it is told. `Grid.set` is the only operation that writes a cell, and
it tells the view of each cell it writes; so if all that happens to a grid is that cells
are set, `Grid.Repainted`, the view shows the grid at any time.

Two facts carry the proof: on a grid whose cells fill the rows exactly (`Rectangular`),
offsets and positions name each other, and setting a cell paints one position.
-/
namespace Vivarium

/-- The color at each column and row; blank positions have none. -/
abbrev Picture := Nat → Nat → Option Nat

namespace ViewEvent

/-- Paint one thing that a view is told. Titles are not part of the picture. -/
def paint (picture : Picture) : ViewEvent → Picture
  | .dot x y color => fun column row =>
    if column = x ∧ row = y then some color else picture column row
  | .blank x y => fun column row =>
    if column = x ∧ row = y then none else picture column row
  | .title _ => picture

/-- Paint one thing after another. -/
def paintAll (picture : Picture) (told : List ViewEvent) : Picture := told.foldl paint picture

/-- What is told last is painted last. -/
theorem paintAll_reverse_cons (picture : Picture) (event : ViewEvent) (told : List ViewEvent) :
    paintAll picture (event :: told).reverse = paint (paintAll picture told.reverse) event := by
  unfold paintAll
  rw [List.reverse_cons, List.foldl_append]
  rfl

/-- The event names a position of a field of this size, if it names any. -/
def Inside (width height : Nat) : ViewEvent → Prop
  | .dot x y _ | .blank x y => x < width ∧ y < height
  | .title _ => True

end ViewEvent

/-- How a cell looks: organisms have the color of organisms, tokens that of their kind, or
white if there is none for it. -/
def Palette.shade (palette : Palette) : Cell → Option Nat
  | .empty => none
  | .organism _ => some palette.organism
  | .token token =>
    match palette.tokens[token.kind]? with
    | none => some 0xffffff
    | some color => some color

theorem Palette.color?_eq_shade (palette : Palette) (cell : Cell) :
    palette.color? cell = palette.shade cell := by
  cases cell with
  | empty | organism => rfl
  | token token =>
    unfold color? shade
    cases known : palette.tokens[token.kind]? with
    | none | some =>
      simp only [known]
      rfl

namespace Grid

open ViewEvent (paintAll)

/-- How the field looks. -/
def picture (palette : Palette) (grid : Grid) : Picture := fun x y =>
  (grid.offset? x y).bind fun offset => palette.shade (grid.get offset)

/-! ### Positions -/

/-- The cells fill rows of equal length, and rows can be counted with 32 bits. -/
structure Rectangular (grid : Grid) : Prop where
  width : 0 < grid.width
  height : grid.height ≤ limit32
  cells : grid.size = grid.width * grid.height

variable {grid after : Grid} {offset : Nat}

theorem Rectangular.xy_eq (shape : grid.Rectangular) (inside : offset < grid.size) :
    grid.xy offset = (offset % grid.width, offset / grid.width) ∧
      offset % grid.width < grid.width ∧ offset / grid.width < grid.height := by
  rw [shape.cells] at inside
  have row : offset / grid.width < grid.height := Nat.div_lt_of_lt_mul inside
  refine ⟨?_, Nat.mod_lt _ shape.width, row⟩
  unfold xy
  rw [Nat.mod_eq_of_lt (Nat.lt_of_lt_of_le row shape.height)]

/-- An offset leads to a position of the field and the position back to it. -/
theorem Rectangular.offset?_xy (shape : grid.Rectangular) (inside : offset < grid.size) :
    grid.offset? (grid.xy offset).1 (grid.xy offset).2 = some offset := by
  obtain ⟨position, column, row⟩ := shape.xy_eq inside
  rw [position]
  unfold offset?
  rw [if_pos ⟨column, row⟩, Nat.mul_comm, Nat.div_add_mod]

/-- A position of the field leads to an offset and the offset back to it. -/
theorem Rectangular.xy_offset? (shape : grid.Rectangular) {x y : Nat}
    (found : grid.offset? x y = some offset) : offset < grid.size ∧ grid.xy offset = (x, y) := by
  unfold offset? at found
  split at found
  next inside =>
    obtain ⟨column, row⟩ := inside
    cases found
    have below : y * grid.width + x < grid.size := by
      calc y * grid.width + x
          < y * grid.width + grid.width := by omega
        _ = (y + 1) * grid.width := (Nat.succ_mul y grid.width).symm
        _ ≤ grid.height * grid.width := Nat.mul_le_mul_right _ row
        _ = grid.size := by rw [shape.cells, Nat.mul_comm]
    refine ⟨below, ?_⟩
    rw [(shape.xy_eq below).1]
    congr 1
    · rw [Nat.add_comm, Nat.add_mul_mod_self_right, Nat.mod_eq_of_lt column]
    · rw [Nat.add_comm, Nat.add_mul_div_right _ _ shape.width, Nat.div_eq_of_lt column,
        Nat.zero_add]
  next => cases found

theorem Rectangular.xy_injective (shape : grid.Rectangular) {first second : Nat}
    (one : first < grid.size) (two : second < grid.size)
    (same : grid.xy first = grid.xy second) : first = second := by
  have back := shape.offset?_xy one
  rw [same, shape.offset?_xy two] at back
  exact (Option.some.inj back).symm

/-! ### Cells written -/

/-- Setting a cell paints its position and nothing else. -/
theorem picture_set (shape : grid.Rectangular) (inside : offset < grid.size) (cell : Cell) :
    (grid.set offset cell).picture grid.palette =
      (grid.eventOf offset cell).paint (grid.picture grid.palette) := by
  have painted : (grid.eventOf offset cell).paint (grid.picture grid.palette) = fun x y =>
      if x = (grid.xy offset).1 ∧ y = (grid.xy offset).2 then grid.palette.shade cell
      else grid.picture grid.palette x y := by
    unfold eventOf
    rw [Palette.color?_eq_shade]
    cases grid.palette.shade cell with
    | none | some => rfl
  have written : ∀ x y, (grid.set offset cell).offset? x y = grid.offset? x y := by
    intro x y
    rw [set, if_pos inside]
    rfl
  rw [painted]
  funext x y
  unfold picture
  rw [written]
  cases found : grid.offset? x y with
  | none =>
    -- No offset leads to a position beside the field.
    have beside : ¬(x = (grid.xy offset).1 ∧ y = (grid.xy offset).2) := by
      rintro ⟨rfl, rfl⟩
      rw [shape.offset?_xy inside] at found
      cases found
    rw [if_neg beside]
    rfl
  | some other =>
    obtain ⟨-, position⟩ := shape.xy_offset? found
    rw [Option.bind_some, Option.bind_some, get_set grid offset other cell inside]
    by_cases same : other = offset
    · rw [if_pos same, if_pos (by rw [← same, position]; exact ⟨rfl, rfl⟩)]
    · have elsewhere : ¬(x = (grid.xy offset).1 ∧ y = (grid.xy offset).2) := by
        rintro ⟨rfl, rfl⟩
        rw [shape.offset?_xy inside] at found
        exact same (Option.some.inj found).symm
      rw [if_neg same, if_neg elsewhere]

theorem Rectangular.watch (shape : grid.Rectangular) : grid.watch.Rectangular :=
  ⟨shape.width, shape.height, shape.cells⟩

/-- The view is told of positions of the field. -/
theorem inside_eventOf (shape : grid.Rectangular) (inside : offset < grid.size) (cell : Cell) :
    (grid.eventOf offset cell).Inside grid.width grid.height := by
  obtain ⟨position, column, row⟩ := shape.xy_eq inside
  unfold eventOf
  rw [position]
  cases grid.palette.color? cell with
  | none | some => exact ⟨column, row⟩

/-- `after` is the grid after cells were set and titles were told. -/
inductive Repainted (grid : Grid) : Grid → Prop where
  | same : Repainted grid grid
  | set {after : Grid} (before : Repainted grid after) (offset : Nat) (cell : Cell) :
      Repainted grid (after.set offset cell)
  | title {after : Grid} (before : Repainted grid after) (text : String) :
      Repainted grid (after.title text)

namespace Repainted

theorem trans {middle : Grid} (first : grid.Repainted middle) (second : middle.Repainted after) :
    grid.Repainted after := by
  induction second with
  | same => exact first
  | set _ offset cell ih => exact ih.set offset cell
  | title _ text ih => exact ih.title text

/-- The field and its colors stay what they are. -/
theorem frame (repainted : grid.Repainted after) :
    after.width = grid.width ∧ after.height = grid.height ∧ after.palette = grid.palette ∧
      after.size = grid.size := by
  induction repainted with
  | same => exact ⟨rfl, rfl, rfl, rfl⟩
  | set _ offset cell ih =>
    obtain ⟨width, height, palette, size⟩ := ih
    refine ⟨?_, ?_, ?_, (size_set _ _ _).trans size⟩
    all_goals
      unfold Grid.set
      split
      · assumption
      · assumption
  | title _ _ ih => exact ih

theorem rectangular (repainted : grid.Repainted after) (shape : grid.Rectangular) :
    after.Rectangular := by
  obtain ⟨width, height, -, size⟩ := repainted.frame
  exact ⟨width ▸ shape.width, height ▸ shape.height, by rw [size, width, height, shape.cells]⟩

/-- What the view was told, painted over the picture at the time it was attached, is the
picture now. Induction on the cells set. -/
theorem shows (repainted : grid.watch.Repainted after) (shape : grid.Rectangular) :
    ∃ told, after.events = some told ∧
      paintAll (grid.picture grid.palette) told.reverse = after.picture grid.palette ∧
      ∀ event ∈ told, event.Inside grid.width grid.height := by
  induction repainted with
  | same => exact ⟨[], rfl, rfl, by simp⟩
  | @set middle before offset cell ih =>
    obtain ⟨told, events, painted, within⟩ := ih
    by_cases inside : offset < middle.size
    · have filled : middle.Rectangular := before.rectangular shape.watch
      obtain ⟨width, height, palette, -⟩ :
        middle.width = grid.width ∧ middle.height = grid.height ∧
          middle.palette = grid.palette ∧ _ := before.frame
      refine ⟨middle.eventOf offset cell :: told, ?_, ?_, ?_⟩
      · rw [Grid.set, if_pos inside, events]
      · have next := picture_set filled inside cell
        rw [palette] at next
        rw [ViewEvent.paintAll_reverse_cons, painted, next]
      · rw [List.forall_mem_cons]
        refine ⟨?_, within⟩
        rw [← width, ← height]
        exact inside_eventOf filled inside cell
    · rw [Grid.set_of_size_le _ _ _ (Nat.le_of_not_lt inside)]
      exact ⟨told, events, painted, within⟩
  | title before text ih =>
    obtain ⟨told, events, painted, within⟩ := ih
    refine ⟨.title text :: told, ?_, ?_, ?_⟩
    · rw [Grid.title, events]
      rfl
    · rw [ViewEvent.paintAll_reverse_cons, painted]
      rfl
    · exact List.forall_mem_cons.mpr ⟨trivial, within⟩

end Repainted

end Grid

end Vivarium
