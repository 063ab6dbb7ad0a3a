import Vivarium.Draw
import Vivarium.Config.Validate
import Vivarium.Storage

/-!
# The grid

A bounded field of cells, stored row after row. A neighbour is found by adding
to the offset, so a step off the end of a row lands on the next one; only
leaving the field altogether leads nowhere. A view that is attached to the grid
hears of every cell that is written.
-/
namespace Vivarium

/-- What a view is told. -/
inductive ViewEvent where
  /-- The cell at `(x, y)` now shows a color. -/
  | dot (x y color : Nat)
  /-- The cell at `(x, y)` is now empty. -/
  | blank (x y : Nat)
  | title (text : String)
  deriving DecidableEq, Repr

structure Palette where
  /-- One color per kind of token. -/
  tokens : List Nat
  organism : Nat
  deriving DecidableEq, Repr

namespace Palette

def white : Nat := 0xffffff

/-- White for everything. -/
def plain : Palette := { tokens := [], organism := white }

/-- The color of an occupant; an empty cell has none. -/
def color? (palette : Palette) : Cell → Option Nat
  | .empty => none
  | .organism _ => some palette.organism
  | .token token => some (palette.tokens[token.kind]?.getD white)

end Palette

/-- The field of cells. -/
structure Grid where
  width : Nat
  height : Nat
  cells : Array Cell
  palette : Palette
  /-- What the attached view was told, newest first; `none` without a view. -/
  events : Option (List ViewEvent)

namespace Grid

/-- An empty field that no view is attached to. -/
def empty (width height : Nat) : Grid :=
  { width, height, cells := Array.replicate (width * height) .empty, palette := .plain,
    events := none }

/-- An empty field, or the reason why there is none of this size. -/
def create (width height : Nat) : Outcome (Except ConfigError Grid) :=
  if width = 0 ∨ height = 0 then .ok (.error .emptyGrid)
  else do
    reserve (width * height) Cell.bytes
    return .ok (empty width height)

def ofConfig (config : Config) : Outcome (Except ConfigError Grid) := do
  let palette : Palette :=
    { tokens := config.surfaces.map (·.color), organism := config.orgColor }
  match ← create config.worldWidth config.worldHeight with
  | .error error => return .error error
  | .ok grid => return .ok { grid with palette }

def size (grid : Grid) : Nat := grid.cells.size

def xy (grid : Grid) (offset : Nat) : Nat × Nat :=
  (offset % grid.width, (offset / grid.width) % limit32)

/-- The offset of a column and a row of the field. -/
def offset? (grid : Grid) (x y : Nat) : Option Nat :=
  if x < grid.width ∧ y < grid.height then some (y * grid.width + x) else none

/-- The occupant of an offset; what lies outside the field is empty. -/
def get (grid : Grid) (offset : Nat) : Cell := grid.cells.getD offset .empty

/-- The eight directions clockwise from straight up, as differences of offsets. -/
def delta (width : Int) : Nat → Int
  | 0 => -width
  | 1 => -width + 1
  | 2 => 1
  | 3 => width + 1
  | 4 => width
  | 5 => width - 1
  | 6 => -1
  | _ => -width - 1

/-- The offset one step in direction `direction % 8` from `offset`, moved on by
`extra`; none outside the field. -/
def neighbor (grid : Grid) (offset direction : Nat) (extra : Int) : Option Nat :=
  let stepped := Amount.clamp (Amount.wrap offset + delta grid.width (direction % 8))
  let target := Amount.clamp (stepped + extra)
  if 0 ≤ target ∧ target < grid.size then some target.toNat else none

/-- An empty offset among at most `attempts` random ones. -/
def randomEmpty {ρ : Type} [DrawSource ρ] (grid : Grid) :
    (attempts : Nat) → ρ → Outcome (Option Nat × ρ)
  | 0, source => .ok (none, source)
  | attempts + 1, source => do
    let (offset, source) ← Draw.position grid.size source
    match grid.cells[offset]? with
    | none => .error .outOfRange
    | some cell =>
      if cell.isEmpty then return (some offset, source)
      else randomEmpty grid attempts source

/-- What a view is told when `cell` is written at `offset`. -/
def eventOf (grid : Grid) (offset : Nat) (cell : Cell) : ViewEvent :=
  let (x, y) := grid.xy offset
  match grid.palette.color? cell with
  | none => .blank x y
  | some color => .dot x y color

/-- Write one cell; nothing happens outside the field. -/
def set (grid : Grid) (offset : Nat) (cell : Cell) : Grid :=
  if offset < grid.size then
    let events := match grid.events with
      | none => none
      | some told => some (grid.eventOf offset cell :: told)
    { grid with cells := grid.cells.setIfInBounds offset cell, events }
  else grid

def clear (grid : Grid) (offset : Nat) : Grid := grid.set offset .empty

/-- Move an organism, leaving `restore` where it was. -/
def moveOrganism (grid : Grid) (origin target slot : Nat) (restore : Cell) : Grid :=
  (grid.set origin restore).set target (.organism slot)

def title (grid : Grid) (text : String) : Grid :=
  { grid with events := grid.events.map (.title text :: ·) }

/-- Attach a view that has heard nothing yet. -/
def watch (grid : Grid) : Grid := { grid with events := some [] }

/-- What the view was told since the last time, oldest first. -/
def drain (grid : Grid) : List ViewEvent × Grid :=
  match grid.events with
  | none => ([], grid)
  | some events => (events.reverse, { grid with events := some [] })

/-- Put the cells below `bound` that are not empty before those already found. -/
def occupiedBelow (grid : Grid) : (bound : Nat) → List (Nat × Cell) → List (Nat × Cell)
  | 0, found => found
  | offset + 1, found =>
    let cell := grid.get offset
    if cell.isEmpty then grid.occupiedBelow offset found
    else grid.occupiedBelow offset ((offset, cell) :: found)

/-- The cells that are not empty, with their offsets. -/
def occupied (grid : Grid) : List (Nat × Cell) := grid.occupiedBelow grid.size []

def describe (grid : Grid) : String :=
  "Grid \x7b width: " ++ toString grid.width ++ ", height: " ++ toString grid.height
    ++ ", occupied: " ++ toString grid.occupied.length ++ " \x7d"

theorem size_set (grid : Grid) (offset : Nat) (cell : Cell) :
    (grid.set offset cell).size = grid.size := by
  unfold set size
  split <;> simp

theorem get_set (grid : Grid) (offset other : Nat) (cell : Cell) (inside : offset < grid.size) :
    (grid.set offset cell).get other = if other = offset then cell else grid.get other := by
  unfold set get
  simp only [inside, if_true, Array.getD_eq_getD_getElem?, Array.getElem?_setIfInBounds]
  unfold size at inside
  by_cases same : other = offset
  · simp [same, inside]
  · simp [same, Ne.symm same]

theorem set_of_size_le (grid : Grid) (offset : Nat) (cell : Cell) (outside : grid.size ≤ offset) :
    grid.set offset cell = grid := by
  simp [set, Nat.not_lt_of_le outside]

end Grid

end Vivarium
