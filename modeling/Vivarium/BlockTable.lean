import Vivarium.Instruction

/-!
# The block structure of a genome

Blocks are opened by `loop`, the three conditionals and `func`, and closed by
`end`. The table says for each opener the line after its end and for each end
its opener; an opener without an end leads to the end of the code, an end without
an opener to itself. Beside the structure the table keeps one counter per line,
which says how often the loop of that line still runs.
-/
namespace Vivarium

/-- Code words. -/
abbrev Genome := List Int

/-- Where the blocks of a genome begin and end, and how its loops stand. -/
structure BlockTable where
  targets : Array Nat
  /-- Turns left of the loop on each line; negative when it does not run. -/
  counters : Array Int
  /-- First lines of the function bodies, in the order of the code. -/
  functions : List Nat
  deriving DecidableEq

namespace BlockTable

def opcodeAt? (code : Genome) (line : Nat) : Option Opcode :=
  code[line]?.bind fun word => (Instruction.decode word).opcode?

/-- Read one word: an opener waits for its end, an end meets the last opener that waits. -/
def scanWord (targets : Array Nat) (waiting : List Nat) (word : Int) (line : Nat) :
    Array Nat × List Nat :=
  match (Instruction.decode word).opcode? with
  | none => (targets, waiting)
  | some opcode =>
    if opcode.opensBlock then (targets, line :: waiting)
    else if opcode = .close then
      match waiting with
      | [] => (targets.setIfInBounds line line, [])
      | opener :: waiting =>
        ((targets.setIfInBounds opener (line + 1)).setIfInBounds line opener, waiting)
    else (targets, waiting)

/-- Read the rest of the code from a line on. -/
def scan (targets : Array Nat) (waiting : List Nat) : Genome → (line : Nat) → Array Nat
  | [], _ => targets
  | word :: rest, line =>
    let (targets, waiting) := scanWord targets waiting word line
    scan targets waiting rest (line + 1)

/-- The lines after the function headers. -/
def functionStarts : Genome → (line : Nat) → List Nat
  | [], _ => []
  | word :: rest, line =>
    if Instruction.decode word = .op .func then (line + 1) :: functionStarts rest (line + 1)
    else functionStarts rest (line + 1)

/-- The table of a genome, with all loops at rest. -/
def ofGenome (code : Genome) : BlockTable :=
  { targets := scan (Array.replicate code.length code.length) [] code 0
    counters := Array.replicate code.length (-1)
    functions := functionStarts code 0 }

def empty : BlockTable := { targets := #[], counters := #[], functions := [] }

def size (table : BlockTable) : Nat := table.targets.size

def isEmpty (table : BlockTable) : Bool := table.targets.isEmpty

/-- Where the block of a line leads; a line outside the table leads to itself. -/
def target (table : BlockTable) (line : Nat) : Nat := table.targets.getD line line

/-- The counter of a line; outside the table nothing runs. -/
def counter (table : BlockTable) (line : Nat) : Int := table.counters.getD line (-1)

def setCounter (table : BlockTable) (line : Nat) (value : Int) : BlockTable :=
  { table with counters := table.counters.setIfInBounds line value }

@[simp] theorem target_setCounter (table : BlockTable) (line place : Nat) (value : Int) :
    (table.setCounter line value).target place = table.target place := rfl

theorem counter_setCounter (table : BlockTable) (line place : Nat) (value : Int)
    (inside : line < table.counters.size) :
    (table.setCounter line value).counter place =
      if place = line then value else table.counter place := by
  simp only [counter, setCounter, Array.getD_eq_getD_getElem?, Array.getElem?_setIfInBounds]
  by_cases same : line = place
  · subst same
    simp [inside]
  · simp [same, Ne.symm same]

theorem setCounter_setCounter (table : BlockTable) (line : Nat) (first second : Int) :
    (table.setCounter line first).setCounter line second = table.setCounter line second := by
  simp [setCounter]

/-- To set a counter to what it says changes nothing. -/
theorem setCounter_counter (table : BlockTable) (line : Nat) :
    table.setCounter line (table.counter line) = table := by
  have same : table.counters.setIfInBounds line (table.counter line) = table.counters := by
    apply Array.ext_getElem?
    intro place
    rw [Array.getElem?_setIfInBounds]
    split
    next here =>
      subst here
      split
      next inside => simp [counter, inside]
      next outside => rw [Array.getElem?_eq_none (Nat.le_of_not_lt outside)]
    next => rfl
  rw [setCounter, same]

theorem counter_ofGenome (code : Genome) (line : Nat) : (ofGenome code).counter line = -1 := by
  simp only [counter, ofGenome, Array.getD_eq_getD_getElem?, Array.getElem?_replicate]
  split <;> rfl

theorem size_scanWord (targets : Array Nat) (waiting : List Nat) (word : Int) (line : Nat) :
    (scanWord targets waiting word line).1.size = targets.size := by
  unfold scanWord
  split
  · rfl
  · split
    · rfl
    · split
      · split <;> simp
      · rfl

theorem size_scan (targets : Array Nat) (waiting : List Nat) (code : Genome) (line : Nat) :
    (scan targets waiting code line).size = targets.size := by
  induction code generalizing targets waiting line with
  | nil => rfl
  | cons word rest ih => simp only [scan, ih, size_scanWord]

theorem size_ofGenome (code : Genome) : (ofGenome code).size = code.length := by
  simp [size, ofGenome, size_scan]

end BlockTable

end Vivarium
