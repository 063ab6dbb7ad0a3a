import Vivarium.Grid
import Vivarium.TokenSet

/-!
# Surfaces

A surface owns the tokens of one kind. It counts them, and the atoms in them,
whether they lie on the grid, lie beneath an organism or are carried by one; its
token set names the offsets of the first two. Tokens enter and leave only
through the operations here, each of which writes the grid, the set and the
counters together.
-/
namespace Vivarium

/-- Heaviest token. -/
def maxAtoms : Nat := 65535

/-- Random cells tried for a new token. -/
def putAttempts : Nat := 8

/-- Random cells tried for a token that must not get lost. -/
def restoreAttempts : Nat := 64

structure Surface where
  kind : Nat
  config : SurfaceConfig
  /-- Tokens alive, carried ones included. -/
  live : Nat
  /-- Atoms in the tokens alive. -/
  atoms : Nat
  /-- Offsets of the tokens that are not carried. -/
  tokens : TokenSet
  /-- Cadence checks since the last move. -/
  waited : Nat

namespace Surface

def create (kind : Nat) (config : SurfaceConfig) : Surface :=
  { kind, config, live := 0, atoms := 0, tokens := .empty, waited := 0 }

/-- The token of this surface that the grid shows at an offset. -/
def ownToken? (surface : Surface) (grid : Grid) (offset : Nat) : Option Token :=
  (grid.get offset).token?.filter (·.kind == surface.kind)

/-- Count one token and its atoms as alive. -/
def count (surface : Surface) (atoms : Nat) : Outcome Surface := do
  let live ← Count.add limit64 surface.live 1
  let atoms ← Count.add limit64 surface.atoms atoms
  return { surface with live, atoms }

/-- A token is no more. -/
def forget (surface : Surface) (token : Token) : Surface :=
  { surface with live := surface.live - 1, atoms := surface.atoms - token.atoms }

/-- Lay a token on an offset. -/
def lay (surface : Surface) (grid : Grid) (offset : Nat) (token : Token) : Surface × Grid :=
  ({ surface with tokens := (surface.tokens.insert offset).2 },
    grid.set offset (.token token))

/-- Drop a carried token on a cell, if the cell is empty. -/
def place (surface : Surface) (grid : Grid) (offset : Nat) (token : Token) :
    Bool × Surface × Grid :=
  if grid.size ≤ offset ∨ !(grid.get offset).isEmpty then (false, surface, grid)
  else (true, surface.lay grid offset token)

/-- Add a new token on a cell, if there is room for it and the cell is empty. -/
def insert (surface : Surface) (grid : Grid) (offset atoms : Nat) :
    Outcome (Bool × Surface × Grid) :=
  if surface.config.capacity ≤ surface.live then .ok (false, surface, grid)
  else
    let token : Token := { kind := surface.kind, atoms := max atoms 1 }
    match surface.place grid offset token with
    | (false, surface, grid) => .ok (false, surface, grid)
    | (true, surface, grid) => do
      let surface ← surface.count token.atoms
      return (true, surface, grid)

/-- Remove the token of this surface at an offset. A token that is picked up
stays alive. -/
def remove (surface : Surface) (grid : Grid) (offset : Nat) (pickedUp : Bool) :
    Outcome (Option Token × Surface × Grid) :=
  match surface.ownToken? grid offset with
  | none => .ok (none, surface, grid)
  | some token => do
    let (_, tokens) ← surface.tokens.erase offset
    let surface := { surface with tokens }
    let surface := if pickedUp then surface else surface.forget token
    return (some token, surface, grid.clear offset)

/-- Fuse a carried token into the token of this surface at an offset. -/
def merge (surface : Surface) (grid : Grid) (offset : Nat) (carried : Token) :
    Outcome (Option Token × Surface × Grid) :=
  match surface.ownToken? grid offset with
  | none => .ok (none, surface, grid)
  | some target => do
    let merged : Token :=
      { kind := target.kind, atoms := min maxAtoms (target.atoms + carried.atoms) }
    -- Atoms beyond the heaviest token are lost, and the count follows.
    let lost ← Count.sub (target.atoms + carried.atoms) merged.atoms
    let surface := { surface with atoms := surface.atoms - lost, live := surface.live - 1 }
    return (some merged, surface, grid.set offset (.token merged))

section Drawing

variable {ρ : Type} [DrawSource ρ]

/-- Drop a new token on a random empty cell, if there is room for it. -/
def put (surface : Surface) (grid : Grid) (source : ρ) :
    Outcome (Option Nat × Surface × Grid × ρ) :=
  if surface.config.capacity ≤ surface.live then .ok (none, surface, grid, source)
  else do
    let (found, source) ← grid.randomEmpty putAttempts source
    match found with
    | none => return (none, surface, grid, source)
    | some offset =>
      let (surface, grid) := surface.lay grid offset (.single surface.kind)
      let surface ← surface.count 1
      return (some offset, surface, grid, source)

/-- Put up to `amount` tokens and count those that found a cell. -/
def putMany : (amount placed : Nat) → Surface → Grid → ρ → Outcome (Nat × Surface × Grid × ρ)
  | 0, placed, surface, grid, source => .ok (placed, surface, grid, source)
  | amount + 1, placed, surface, grid, source => do
    let (landed, surface, grid, source) ← surface.put grid source
    putMany amount (if landed.isSome then placed + 1 else placed) surface grid source

/-- Put the initial tokens, and how many of them found a cell. -/
def seed (surface : Surface) (grid : Grid) (source : ρ) : Outcome (Nat × Surface × Grid × ρ) :=
  putMany surface.config.initial 0 surface grid source

/-- Return a carried token to a random empty cell; without one it is no more. -/
def restore (surface : Surface) (grid : Grid) (token : Token) (source : ρ) :
    Outcome (Option Nat × Surface × Grid × ρ) := do
  let (found, source) ← grid.randomEmpty restoreAttempts source
  match found with
  | none => return (none, surface.forget token, grid, source)
  | some offset =>
    let (surface, grid) := surface.lay grid offset token
    return (some offset, surface, grid, source)

/-- The empty cell that the first of some directions leads to. -/
def firstEmpty (grid : Grid) (offset : Nat) (directions : List Nat) : Option Nat :=
  directions.findSome? fun direction =>
    (grid.neighbor offset direction 0).filter fun target => (grid.get target).isEmpty

/-- Down, then diagonally to the left, then to the right. -/
def settleDirections : List Nat := [4, 5, 3]

/-- Where the token at `offset` goes when it moves. -/
def destination (motion : Motion) (grid : Grid) (offset : Nat) (source : ρ) :
    Outcome (Option Nat × ρ) :=
  match motion with
  | .still => .ok (none, source)
  | .spread => do
    let (direction, source) ← Draw.position 8 source
    return (firstEmpty grid offset [direction], source)
  | .settle => .ok (firstEmpty grid offset settleDirections, source)
  | .evaporate => grid.randomEmpty putAttempts source

/-- Move one random token as the motion says, and whether it moved. A token
beneath an organism stays where it is. -/
def move (surface : Surface) (grid : Grid) (source : ρ) : Outcome (Bool × Surface × Grid × ρ) :=
  if surface.config.motion = .still then .ok (false, surface, grid, source)
  else do
    let (drawn, source) ← surface.tokens.random source
    match drawn with
    | none => return (false, surface, grid, source)
    | some origin =>
      match surface.ownToken? grid origin with
      | none => return (false, surface, grid, source)
      | some token =>
        let (target, source) ← destination surface.config.motion grid origin source
        match target with
        | none => return (false, surface, grid, source)
        | some target =>
          let grid := (grid.clear origin).set target (.token token)
          -- Leaving and coming back makes the token the last member of the set.
          let (_, tokens) ← surface.tokens.erase origin
          let (_, tokens) := tokens.insert target
          return (true, { surface with tokens }, grid, source)

/-- Wait out the delay, then move; whether it moved on this check. -/
def tick (surface : Surface) (grid : Grid) (source : ρ) : Outcome (Bool × Surface × Grid × ρ) :=
  if surface.waited < surface.config.delay then
    .ok (false, { surface with waited := surface.waited + 1 }, grid, source)
  else do
    let (_, surface, grid, source) ← { surface with waited := 0 }.move grid source
    return (true, surface, grid, source)

end Drawing

theorem ownToken?_eq_some_iff (surface : Surface) (grid : Grid) (offset : Nat) (token : Token) :
    surface.ownToken? grid offset = some token ↔
      grid.get offset = .token token ∧ token.kind = surface.kind := by
  simp only [ownToken?, Option.filter_eq_some_iff, Cell.token?_eq_some_iff, beq_iff_eq]

end Surface

end Vivarium
