import Vivarium.Config
import Vivarium.Genome
import Vivarium.Storage

/-!
# Organisms

The state of one organism: its genome with the block table belonging to it, the
registers, memory and call frames of its program, its place and energy in the
world, and what it passes on to its offspring. Replacing the genome rebuilds the
table, so the two agree as long as the genome is set here.
-/
namespace Vivarium

/-- What a call saves. -/
structure Frame where
  /-- Line to go on with after the return. -/
  ret : Nat
  d : Float
  a : Float
  b : Float
  /-- Line of the end of the function called. -/
  close : Nat

def Frame.bytes : Nat := 40

structure Organism where
  id : Nat
  parent : Option Nat
  code : Genome
  blocks : BlockTable
  d : Float
  a : Float
  b : Float
  /-- The next line to execute. -/
  line : Nat
  mem : Array Float
  /-- Saved callers, the innermost first. -/
  frames : List Frame
  /-- Most frames at once. -/
  stackSize : Nat
  offset : Nat
  energy : Int
  age : Nat
  /-- The token it carries. -/
  packet : Option Token
  /-- What its cell shows again when it leaves. -/
  beneath : Cell
  /-- Steps it has waited since it last moved. -/
  steps : Nat
  /-- Steps it waits before it moves, whatever the terrain. -/
  moves : Nat
  radiation : Float
  /-- Age between two mutations. -/
  period : Nat
  /-- Share of the genome that one mutation touches. -/
  percent : Float
  weights : Weights
  mutations : Nat

namespace Organism

/-- Bytes that an organism takes beside its code, memory and frames. -/
def bytes : Nat := 328

/-- A fresh organism without code. -/
def fresh (id offset : Nat) (energy : Int) (config : Config) : Organism where
  id := id
  parent := none
  code := []
  blocks := .empty
  d := 0.0
  a := 0.0
  b := 0.0
  line := 0
  mem := Array.replicate config.orgMemSize 0.0
  frames := []
  stackSize := config.codeStackSize
  offset := offset
  energy := energy
  age := 0
  packet := none
  beneath := .empty
  steps := 0
  moves := 0
  radiation := 0.0
  period := max config.orgMutationPeriod 1
  percent := config.orgMutationPercent
  weights := config.orgProbs
  mutations := 0

/-- Make room for the memory and the frames of an organism. -/
def reserveRoom (config : Config) : Outcome Unit := do
  reserve config.orgMemSize Register.bytes
  reserve config.codeStackSize Frame.bytes

/-- A fresh organism, if there is room for it. -/
def create (id offset : Nat) (energy : Int) (config : Config) : Outcome Organism := do
  reserveRoom config
  return fresh id offset energy config

/-- Build the block table of the genome anew, with all loops at rest. -/
def rebuild (org : Organism) : Organism := { org with blocks := .ofGenome org.code }

/-- Take on a genome, cut to `maxSize` words. -/
def setCode (org : Organism) (code : Genome) (maxSize : Nat) : Organism :=
  { org with code := code.take maxSize }.rebuild

/-- Pass the genome and the mutation parameters on to a child. -/
def endow (org child : Organism) : Organism :=
  { child with
    parent := some org.id
    code := org.code
    weights := org.weights
    period := org.period
    percent := org.percent
    moves := org.moves }.rebuild

/-- A child with the genome and the mutation parameters of its parent; registers,
memory and frames start fresh. -/
def offspring (org : Organism) (id offset : Nat) (energy : Int) (config : Config) :
    Outcome Organism := do
  let child ← create id offset energy config
  return org.endow child

/-- Save a caller; a full stack is emptied first. -/
def pushFrame (org : Organism) (frame : Frame) : Organism :=
  if org.stackSize ≤ org.frames.length then { org with frames := [frame] }
  else { org with frames := frame :: org.frames }

/-- The innermost saved caller, and the organism without it. -/
def popFrame (org : Organism) : Option Frame × Organism :=
  match org.frames with
  | [] => (none, org)
  | frame :: frames => (some frame, { org with frames })

def isAlive (org : Organism) : Bool := 0 < org.energy

theorem blocks_setCode (org : Organism) (code : Genome) (maxSize : Nat) :
    (org.setCode code maxSize).blocks = .ofGenome (org.setCode code maxSize).code := rfl

theorem length_setCode_le (org : Organism) (code : Genome) (maxSize : Nat) :
    (org.setCode code maxSize).code.length ≤ maxSize := by
  simp only [setCode, rebuild, List.length_take]
  omega

theorem create_eq_ok_iff (id offset : Nat) (energy : Int) (config : Config) (org : Organism) :
    create id offset energy config = .ok org ↔
      reserveRoom config = .ok () ∧ org = fresh id offset energy config := by
  unfold create
  cases reserveRoom config <;> simp [bind, Except.bind, pure, Except.pure, eq_comm]

/-- A child as it is before chance has its way with it. -/
theorem offspring_eq_ok {org child : Organism} {id offset : Nat} {energy : Int} {config : Config}
    (begotten : org.offspring id offset energy config = .ok child) :
    child = org.endow (.fresh id offset energy config) := by
  obtain ⟨fresh, created, answer⟩ := (bind_eq_ok_iff _ _ _).mp begotten
  obtain ⟨-, rfl⟩ := (create_eq_ok_iff _ _ _ _ _).mp created
  cases answer
  rfl

end Organism

end Vivarium
