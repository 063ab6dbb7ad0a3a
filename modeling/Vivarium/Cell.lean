import Vivarium.Register

/-!
# Cells

A cell shows exactly one occupant: nothing, an organism named by its pool slot,
or a token. A token belongs to the surface its kind numbers and weighs a number
of atoms.
-/
namespace Vivarium

def kindCount : Nat := 16

/-- Kind of the tokens that hold energy. -/
def energyKind : Nat := 0

/-- A movable object of one surface. -/
structure Token where
  kind : Nat
  atoms : Nat
  deriving DecidableEq, Repr

namespace Token

/-- The lightest token of a kind. -/
def single (kind : Nat) : Token := { kind, atoms := 1 }

def isEnergy (token : Token) : Bool := token.kind == energyKind

/-- What an organism reads from a token: weight and kind in one number. -/
def raw (token : Token) : Float :=
  Register.ofNat token.atoms * Register.ofNat kindCount + Register.ofNat token.kind

end Token

/-- The occupant of one place of the grid. -/
inductive Cell where
  | empty
  | organism (slot : Nat)
  | token (token : Token)
  deriving DecidableEq, Repr

instance : Inhabited Cell := ⟨.empty⟩

namespace Cell

def bytes : Nat := 16

def isEmpty : Cell → Bool
  | empty => true
  | _ => false

def isOrganism : Cell → Bool
  | organism _ => true
  | _ => false

def token? : Cell → Option Token
  | token t => some t
  | _ => none

/-- What an organism reads from a cell; organisms are as invisible as nothing. -/
def raw (cell : Cell) : Float :=
  match cell.token? with
  | some t => t.raw
  | none => 0.0

theorem isEmpty_iff (cell : Cell) : cell.isEmpty = true ↔ cell = empty := by
  cases cell <;> simp [isEmpty]

theorem token?_eq_some_iff (cell : Cell) (t : Token) :
    cell.token? = some t ↔ cell = token t := by
  cases cell <;> simp [token?]

end Cell

end Vivarium
