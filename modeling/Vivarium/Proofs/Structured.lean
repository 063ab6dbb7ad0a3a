import Mathlib.Logic.Function.Iterate
import Vivarium.Proofs.BlockTable.Nesting
import Vivarium.Proofs.Organism.Coherence
import Vivarium.Proofs.Calls

/-!
# Structured programs

A program of computing words, loops and conditionals has a meaning of its own: a
function on the registers, by recursion on the blocks. The machine knows no
blocks. It has a genome, a line, the targets of the block table and one counter
per line. Where the words of a program stand in a genome, the machine computes
its meaning: it comes to the line behind the program with the registers that the
meaning says and with everything else as it was, the loops at rest included.
-/
namespace Vivarium

/-! ### Registers -/

/-- What a computing word reads and writes. -/
structure Registers where
  d : Float
  a : Float
  b : Float
  mem : Array Float

namespace Registers

/-- What a word does to the registers of an organism on a cell. -/
def obey (offset : Nat) (registers : Registers) : Instruction → Registers
  | .literal value => { registers with d := Register.ofInt value }
  | .op .dToA => { registers with a := registers.d }
  | .op .dToB => { registers with b := registers.d }
  | .op .aToD => { registers with d := registers.a }
  | .op .aToB => { registers with b := registers.a }
  | .op .add => { registers with d := Register.saturate (registers.a + registers.b) }
  | .op .sub => { registers with d := Register.saturate (registers.a - registers.b) }
  | .op .mul => { registers with d := Register.saturate (registers.a * registers.b) }
  | .op .div => { registers with d := Register.quotient registers.a registers.b }
  | .op .inc => { registers with d := Register.saturate (registers.d + 1.0) }
  | .op .dec => { registers with d := Register.saturate (registers.d - 1.0) }
  | .op .memGet =>
    match registers.mem[Register.toPosition registers.a]? with
    | some value => { registers with d := value }
    | none => registers
  | .op .memPut =>
    { registers with
      mem := registers.mem.setIfInBounds (Register.toPosition registers.a) registers.d }
  | .op .position => { registers with d := Register.ofNat offset }
  | _ => registers

end Registers

/-- Numbers, words without meaning, and the opcodes that work on registers and memory. -/
def Instruction.computes : Instruction → Bool
  | .literal _ | .invalid _ => true
  | .op opcode =>
    opcode matches .dToA | .dToB | .aToD | .aToB | .add | .sub | .mul | .div | .inc | .dec | .nop
      | .memGet | .memPut | .position

/-- What a block of a program begins with. -/
inductive Header where
  | loop
  | ifGreater
  | ifLess
  | ifEqual
  deriving DecidableEq, Repr

namespace Header

def opcode : Header → Opcode
  | loop => .loop
  | ifGreater => .ifGreater
  | ifLess => .ifLess
  | ifEqual => .ifEqual

/-- How often the body runs. A loop reads it from `d`, once, on entry; the body of a
conditional runs once if `d` compares to `a` as it says. -/
def turns (registers : Registers) : Header → Nat
  | loop => (Amount.magnitude (Register.toInt registers.d)).toNat
  | ifGreater => if registers.a < registers.d then 1 else 0
  | ifLess => if registers.d < registers.a then 1 else 0
  | ifEqual => if registers.d == registers.a then 1 else 0

theorem opensBlock_opcode (header : Header) : header.opcode.opensBlock = true := by
  cases header <;> rfl

theorem turns_of_conditional {header : Header} (conditional : header ≠ loop)
    (registers : Registers) : header.turns registers = 0 ∨ header.turns registers = 1 := by
  cases header
  case loop => exact absurd rfl conditional
  all_goals
    simp only [turns]
    split <;> simp

end Header

/-! ### Programs -/

/-- A well-nested piece of a genome. -/
inductive Program where
  | done
  | compute (word : Int) (computes : (Instruction.decode word).computes = true) (rest : Program)
  | block (header : Header) (body rest : Program)

namespace Program

/-- The words of a program. -/
def code : Program → Genome
  | done => []
  | compute word _ rest => word :: rest.code
  | block header body rest => header.opcode.word :: (body.code ++ Opcode.close.word :: rest.code)

/-- What a program computes on a cell. -/
def eval (offset : Nat) : Program → Registers → Registers
  | done, registers => registers
  | compute word _ rest, registers =>
    rest.eval offset (registers.obey offset (Instruction.decode word))
  | block header body rest, registers =>
    rest.eval offset ((body.eval offset)^[header.turns registers] registers)

end Program

/-- The words stand in the genome from a line on. -/
def Genome.HoldsAt (code : Genome) (line : Nat) (words : Genome) : Prop :=
  ∀ place, place < words.length → code[line + place]? = words[place]?

namespace Genome.HoldsAt

variable {code first second : Genome} {line : Nat} {word : Int}

theorem head (holds : code.HoldsAt line (word :: first)) : code[line]? = some word := by
  simpa using holds 0 (by simp)

theorem tail (holds : code.HoldsAt line (word :: first)) : code.HoldsAt (line + 1) first := by
  intro place inside
  have later := holds (place + 1) (by simpa using inside)
  rwa [List.getElem?_cons_succ, ← Nat.add_assoc, Nat.add_right_comm] at later

theorem append_left (holds : code.HoldsAt line (first ++ second)) : code.HoldsAt line first := by
  intro place inside
  rw [holds place (by simp; omega), List.getElem?_append_left inside]

theorem append_right (holds : code.HoldsAt line (first ++ second)) :
    code.HoldsAt (line + first.length) second := by
  intro place inside
  rw [Nat.add_assoc, holds (first.length + place) (by simpa using inside),
    List.getElem?_append_right (Nat.le_add_right _ _), Nat.add_sub_cancel_left]

/-- The first line reads as the instruction that the first word encodes. -/
theorem opcodeAt? {opcode : Opcode} (holds : code.HoldsAt line (opcode.word :: first)) :
    BlockTable.opcodeAt? code line = some opcode := by
  rw [BlockTable.opcodeAt?, holds.head, Option.bind_some, Instruction.decode_word]
  rfl

end Genome.HoldsAt

/-! ### Programs are well nested -/

namespace BlockTable

theorem plain_of_computes {code : Genome} {line : Nat} {word : Int}
    (read : code[line]? = some word) (computes : (Instruction.decode word).computes = true) :
    Plain code line := by
  intro opcode found
  rw [opcodeAt?_of_getElem? read] at found
  cases decoded : Instruction.decode word with
  | literal => simp [decoded, Instruction.opcode?] at found
  | invalid => simp [decoded, Instruction.opcode?] at found
  | op own =>
    simp only [decoded, Instruction.opcode?, Option.some.injEq] at computes found
    subst found
    cases own <;> simp_all [Instruction.computes, Opcode.opensBlock]

/-- Behind a program those openers wait that waited before it. -/
theorem waiting_program (program : Program) {code : Genome} {line : Nat}
    (holds : code.HoldsAt line program.code) :
    waiting code (line + program.code.length) = waiting code line := by
  induction program generalizing line with
  | done => simp [Program.code]
  | compute word computes rest ih =>
    rw [Program.code, List.length_cons, Nat.add_comm _ 1, ← Nat.add_assoc, ih holds.tail]
    exact waiting_of_plain (plain_of_computes holds.head computes)
  | block header body rest body_ih rest_ih =>
    have opens : Opens code line := ⟨_, holds.opcodeAt?, header.opensBlock_opcode⟩
    have behind := holds.tail.append_right
    have stack := body_ih holds.tail.append_left
    rw [waiting_of_opens opens] at stack
    have length : line + (Program.block header body rest).code.length =
        line + 1 + body.code.length + 1 + rest.code.length := by
      simp [Program.code]
      omega
    rw [length, rest_ih behind.tail]
    exact waiting_after_close behind.opcodeAt? stack

/-- The header of a block leads behind its end, and the end leads to the header. -/
theorem target_block {header : Header} {body rest : Program} {code : Genome} {line : Nat}
    (holds : code.HoldsAt line (Program.block header body rest).code) :
    (ofGenome code).target line = line + 1 + body.code.length + 1 ∧
      (ofGenome code).target (line + 1 + body.code.length) = line := by
  have opens : Opens code line := ⟨_, holds.opcodeAt?, header.opensBlock_opcode⟩
  have stack := waiting_program body holds.tail.append_left
  rw [waiting_of_opens opens] at stack
  have targets := target_of_close holds.tail.append_right.opcodeAt? stack
  exact ⟨targets.2, targets.1⟩

end BlockTable

/-! ### The machine -/

namespace Organism

def registers (org : Organism) : Registers :=
  { d := org.d, a := org.a, b := org.b, mem := org.mem }

/-- The organism on another line, with other registers. -/
def onLine (org : Organism) (line : Nat) (registers : Registers) : Organism :=
  { org with
    line := line
    d := registers.d
    a := registers.a
    b := registers.b
    mem := registers.mem }

@[simp] theorem line_onLine (org : Organism) (line : Nat) (registers : Registers) :
    (org.onLine line registers).line = line := rfl

@[simp] theorem registers_onLine (org : Organism) (line : Nat) (registers : Registers) :
    (org.onLine line registers).registers = registers := rfl

@[simp] theorem onLine_onLine (org : Organism) (first second : Nat) (before after : Registers) :
    (org.onLine first before).onLine second after = org.onLine second after := rfl

@[simp] theorem onLine_registers (org : Organism) : org.onLine org.line org.registers = org := rfl

/-- All loops of so many lines from one on are at rest. -/
def AtRest (org : Organism) (line length : Nat) : Prop :=
  ∀ place, line ≤ place → place < line + length → org.blocks.counter place = -1

theorem AtRest.mono {org : Organism} {line length inner shorter : Nat}
    (rest : org.AtRest line length) (after : line ≤ inner)
    (within : inner + shorter ≤ line + length) : org.AtRest inner shorter :=
  fun place first last => rest place (by omega) (by omega)

def setCounter (org : Organism) (line : Nat) (value : Int) : Organism :=
  { org with blocks := org.blocks.setCounter line value }

theorem setCounter_of_counter {org : Organism} {line : Nat} {value : Int}
    (counter : org.blocks.counter line = value) : org.setCounter line value = org := by
  rw [setCounter, ← counter, BlockTable.setCounter_counter]

/-- How often the loop of this line runs from now on: a loop at rest reads it from `d`. -/
def pending (org : Organism) : Int :=
  if org.blocks.counter org.line < 0 ∧ org.line + 1 < org.blocks.target org.line then
    Amount.magnitude (Register.toInt org.d)
  else org.blocks.counter org.line

/-- One turn is taken off, or the loop comes to rest. -/
theorem runLoop_eq (org : Organism) (some : 0 ≤ org.pending) (most : org.pending ≤ maxAmount) :
    org.runLoop =
      .ok ((org.onLine (if org.pending = 0 then org.blocks.target org.line else org.line + 1)
        org.registers).setCounter org.line (org.pending - 1)) := by
  have fewer : Amount.guard .turnsOverflow (org.pending - 1) = .ok (org.pending - 1) := by
    rw [Amount.guard_eq_ok_iff, isAmount_iff]
    unfold minAmount
    exact ⟨by omega, rfl⟩
  have out : org.pending - 1 < 0 ↔ org.pending = 0 := by omega
  rw [pending] at fewer out ⊢
  simp only [runLoop, fewer, out, bind, Except.bind, pure, Except.pure]
  rfl

end Organism

namespace World

variable {ρ : Type} [DrawSource ρ]

/-- Some number of lines brings an organism alive from one state to another and leaves the
world as it is; a slice that has these lines and more does with those what it does from the
second state. -/
def Brings (world : World ρ) (slot : Nat) (org after : Organism) : Prop :=
  ∃ lines, executeLines slot lines org world = .ok (.alive, after, world) ∧
    ∀ more, executeLines slot (more + lines) org world = executeLines slot more after world

variable {world : World ρ} {slot line : Nat} {org between after : Organism}

theorem Brings.refl (world : World ρ) (slot : Nat) (org : Organism) :
    world.Brings slot org org := ⟨0, rfl, fun _ => rfl⟩

theorem Brings.trans (first : world.Brings slot org between)
    (second : world.Brings slot between after) : world.Brings slot org after := by
  obtain ⟨early, -, first⟩ := first
  obtain ⟨late, ends, second⟩ := second
  refine ⟨late + early, (first late).trans ends, fun more => ?_⟩
  rw [← Nat.add_assoc, first, second]

theorem Brings.of_line (executed : world.executeLine slot org = .ok (.next, after, world)) :
    world.Brings slot org after := by
  have goesOn : ∀ more,
      executeLines slot (more + 1) org world = executeLines slot more after world := by
    intro more
    rw [executeLines, executed]
    rfl
  exact ⟨1, goesOn 0, goesOn⟩

theorem executeLine_of_opcode {opcode : Opcode}
    (here : BlockTable.opcodeAt? org.code org.line = some opcode) :
    world.executeLine slot org = world.runOpcode slot org opcode := by
  unfold BlockTable.opcodeAt? at here
  unfold executeLine Organism.fetch
  cases read : org.code[org.line]? with
  | none => simp [read] at here
  | some word =>
    rw [read, Option.bind_some] at here
    cases decoded : Instruction.decode word <;> simp_all [Instruction.opcode?]

/-- A computing word does to the registers what it says, and the next line is next. -/
theorem executeLine_computes {word : Int} (read : org.code[org.line]? = some word)
    (computes : (Instruction.decode word).computes = true) :
    world.executeLine slot org =
      .ok (.next,
        org.onLine (org.line + 1) (org.registers.obey org.offset (Instruction.decode word)),
        world) := by
  unfold executeLine Organism.fetch
  rw [read, Option.map_some]
  cases decoded : Instruction.decode word with
  | literal value => rfl
  | invalid word => rfl
  | op opcode =>
    rw [decoded] at computes
    cases opcode
    case memGet =>
      -- Memory may be read at a position that it does not have.
      simp only [runOpcode, Organism.execute, Organism.compute, Registers.obey,
        Organism.registers, Array.getD_eq_getD_getElem?]
      cases org.mem[Register.toPosition org.a]? <;> rfl
    all_goals first | exact absurd computes (by decide) | rfl

/-- A conditional goes on in its body or behind its end. -/
theorem executeLine_conditional {header : Header} (conditional : header ≠ .loop)
    (here : BlockTable.opcodeAt? org.code org.line = some header.opcode) :
    world.executeLine slot org =
      .ok (.next,
        if header.turns org.registers = 1 then org.onLine (org.line + 1) org.registers
        else org.onLine (org.blocks.target org.line) org.registers, world) := by
  rw [executeLine_of_opcode here]
  cases header
  case loop => exact absurd rfl conditional
  all_goals
    simp only [Header.opcode, runOpcode, Organism.execute, Organism.runConditional, Header.turns,
      Organism.registers]
    split <;> simp_all [bind, Except.bind, pure, Except.pure, Organism.onLine]

variable {code : Genome} {body rest : Program}

/-- A loop goes on in its body with one turn less, or comes to rest and goes on behind
its end. -/
theorem executeLine_loop (coherent : org.Coherent)
    (holds : org.code.HoldsAt org.line (Program.block .loop body rest).code)
    (some : 0 ≤ org.pending) (most : org.pending ≤ maxAmount) :
    world.executeLine slot org =
      .ok (.next,
        (org.onLine
          (if org.pending = 0 then org.line + 1 + body.code.length + 1 else org.line + 1)
          org.registers).setCounter org.line (org.pending - 1),
        world) := by
  have target : org.blocks.target org.line = org.line + 1 + body.code.length + 1 := by
    rw [coherent.target]
    exact (BlockTable.target_block holds).1
  rw [executeLine_of_opcode holds.opcodeAt?, ← target]
  simp only [runOpcode, Header.opcode, Organism.execute, org.runLoop_eq some most]
  rfl

/-- The end of a loop leads back to the loop, that of a conditional is passed by. -/
theorem executeLine_close {header : Header} (coherent : org.Coherent)
    (holds : org.code.HoldsAt line (Program.block header body rest).code)
    (atEnd : org.line = line + 1 + body.code.length) :
    world.executeLine slot org =
      .ok (.next, org.onLine (if header = .loop then line else org.line + 1) org.registers,
        world) := by
  have target : org.blocks.target org.line = line := by
    rw [coherent.target, atEnd]
    exact (BlockTable.target_block holds).2
  have closes : BlockTable.opcodeAt? org.code org.line = some .close := by
    rw [atEnd]
    exact holds.tail.append_right.opcodeAt?
  have opener : BlockTable.opcodeAt? org.code line = some header.opcode := holds.opcodeAt?
  have other : line ≠ org.line := by omega
  rw [executeLine_of_opcode closes]
  simp only [runOpcode, Organism.execute, Organism.runClose, target, other, opener, if_false]
  cases header <;> rfl

/-- What is to be shown of a program: wherever its words stand, with its loops at rest,
the machine brings an organism behind it with the registers that it computes. -/
def Faithful (world : World ρ) (slot : Nat) (program : Program) : Prop :=
  ∀ org : Organism, org.Coherent → org.code.HoldsAt org.line program.code →
    org.AtRest org.line program.code.length →
    world.Brings slot org
      (org.onLine (org.line + program.code.length) (program.eval org.offset org.registers))

/-- By induction on the turns left: each one is taken off the counter, the body is run
and its end leads back; the last one leaves the counter at rest. -/
theorem brings_loop (faithful : world.Faithful slot body) (left : Nat)
    (most : (left : Int) ≤ maxAmount) {org : Organism} (pending : org.pending = left)
    (coherent : org.Coherent)
    (holds : org.code.HoldsAt org.line (Program.block .loop body rest).code)
    (atRest : org.AtRest (org.line + 1) body.code.length) :
    world.Brings slot org
      ((org.onLine (org.line + 1 + body.code.length + 1)
        ((body.eval org.offset)^[left] org.registers)).setCounter org.line (-1)) := by
  induction left generalizing org with
  | zero =>
    apply Brings.of_line
    rw [executeLine_loop coherent holds (by omega) (by omega), pending]
    rfl
  | succ left ih =>
    have within : org.line < org.blocks.counters.size := by
      rw [coherent.counters]
      exact BlockTable.Opens.lt_length ⟨_, holds.opcodeAt?, rfl⟩
    -- Inside the body the counter of the loop holds the turns left.
    let inside := (org.onLine (org.line + 1) org.registers).setCounter org.line left
    let behind := inside.onLine (org.line + 1 + body.code.length)
      (body.eval org.offset org.registers)
    let again := behind.onLine org.line behind.registers
    have enters : world.Brings slot org inside := by
      apply Brings.of_line
      rw [executeLine_loop coherent holds (by omega) (by omega), pending, if_neg (by omega),
        Int.natCast_succ, Int.add_sub_cancel]
    have counters : ∀ place, inside.blocks.counter place =
        if place = org.line then (left : Int) else org.blocks.counter place :=
      fun place => BlockTable.counter_setCounter _ _ _ _ within
    have resting : inside.AtRest (org.line + 1) body.code.length := by
      intro place first last
      rw [counters, if_neg (by omega)]
      exact atRest place first last
    have runs : world.Brings slot inside behind :=
      faithful inside (coherent.setCounter _ _) holds.tail.append_left resting
    have fits : behind.Coherent := coherent.setCounter _ _
    have returns : world.Brings slot behind again := by
      apply Brings.of_line
      rw [executeLine_close fits holds rfl, if_pos rfl]
    have pendingAgain : again.pending = left := by
      have stored : again.blocks.counter again.line = left := (counters org.line).trans (if_pos rfl)
      rw [Organism.pending, stored, if_neg (by omega)]
    have goesOn := ih (by omega) pendingAgain (coherent.setCounter _ _) holds resting
    have sameCounter :
        again.blocks.setCounter org.line (-1) = org.blocks.setCounter org.line (-1) :=
      BlockTable.setCounter_setCounter _ _ _ _
    have sameResult : (again.onLine (org.line + 1 + body.code.length + 1)
        ((body.eval org.offset)^[left] again.registers)).setCounter org.line (-1) =
        (org.onLine (org.line + 1 + body.code.length + 1)
          ((body.eval org.offset)^[left + 1] org.registers)).setCounter org.line (-1) := by
      unfold Organism.setCounter
      rw [Function.iterate_succ_apply]
      congr 1
    exact sameResult ▸ ((enters.trans runs).trans returns).trans goesOn

/-- A loop at rest runs as often as `d` says and is at rest again. -/
theorem brings_block_loop (faithful : world.Faithful slot body) (coherent : org.Coherent)
    (holds : org.code.HoldsAt org.line (Program.block .loop body rest).code)
    (atRest : org.AtRest org.line (body.code.length + 1)) :
    world.Brings slot org
      (org.onLine (org.line + 1 + body.code.length + 1)
        ((body.eval org.offset)^[Header.loop.turns org.registers] org.registers)) := by
  have bounds := Amount.magnitude_mem (Register.toInt org.d)
  have counter : org.blocks.counter org.line = -1 := atRest _ (Nat.le_refl _) (by omega)
  have target : org.blocks.target org.line = org.line + 1 + body.code.length + 1 := by
    rw [coherent.target]
    exact (BlockTable.target_block holds).1
  have turns : ((Header.loop.turns org.registers : Nat) : Int) =
      Amount.magnitude (Register.toInt org.d) := Int.toNat_of_nonneg bounds.1
  have pending : org.pending = (Header.loop.turns org.registers : Nat) := by
    rw [turns, Organism.pending, if_pos (by omega)]
  have run := brings_loop faithful _ (by omega) pending coherent holds
    (atRest.mono (by omega) (by omega))
  rwa [Organism.setCounter_of_counter (by exact counter)] at run

/-- A conditional runs its body once or not at all. -/
theorem brings_block_conditional {header : Header} (conditional : header ≠ .loop)
    (faithful : world.Faithful slot body) (coherent : org.Coherent)
    (holds : org.code.HoldsAt org.line (Program.block header body rest).code)
    (atRest : org.AtRest org.line (body.code.length + 1)) :
    world.Brings slot org
      (org.onLine (org.line + 1 + body.code.length + 1)
        ((body.eval org.offset)^[header.turns org.registers] org.registers)) := by
  have target : org.blocks.target org.line = org.line + 1 + body.code.length + 1 := by
    rw [coherent.target]
    exact (BlockTable.target_block holds).1
  rcases Header.turns_of_conditional conditional org.registers with none | one
  · apply Brings.of_line
    rw [executeLine_conditional conditional holds.opcodeAt?, none, target]
    rfl
  · let inside := org.onLine (org.line + 1) org.registers
    let behind := inside.onLine (org.line + 1 + body.code.length)
      (body.eval org.offset org.registers)
    have enters : world.Brings slot org inside := by
      apply Brings.of_line
      rw [executeLine_conditional conditional holds.opcodeAt?, if_pos one]
    have resting : org.AtRest (org.line + 1) body.code.length :=
      atRest.mono (by omega) (by omega)
    have runs : world.Brings slot inside behind :=
      faithful inside coherent holds.tail.append_left resting
    have fits : behind.Coherent := coherent
    have leaves : world.Brings slot behind (behind.onLine (behind.line + 1) behind.registers) := by
      apply Brings.of_line
      rw [executeLine_close fits holds rfl, if_neg conditional]
    rw [one]
    exact (enters.trans runs).trans leaves

theorem faithful (world : World ρ) (slot : Nat) (program : Program) :
    world.Faithful slot program := by
  -- A word takes one line and a block its turns; what follows starts behind it, where its loops
  -- are still at rest.
  induction program with
  | done => exact fun org _ _ _ => .refl world slot org
  | compute word computes rest ih =>
    intro org coherent holds atRest
    have first : world.Brings slot org _ := .of_line (executeLine_computes holds.head computes)
    have others := ih (org.onLine (org.line + 1) (org.registers.obey org.offset (.decode word)))
      coherent holds.tail (atRest.mono (by simp) (by simp [Program.code]; omega))
    have length : org.line + (Program.compute word computes rest).code.length =
        org.line + 1 + rest.code.length := by
      simp [Program.code]
      omega
    rw [length]
    exact first.trans others
  | block header body rest body_ih rest_ih =>
    intro org coherent holds atRest
    have length : org.line + (Program.block header body rest).code.length =
        org.line + 1 + body.code.length + 1 + rest.code.length := by
      simp [Program.code]
      omega
    have restsHere : org.AtRest org.line (body.code.length + 1) :=
      atRest.mono (Nat.le_refl _) (by omega)
    have restsBehind : org.AtRest (org.line + 1 + body.code.length + 1) rest.code.length :=
      atRest.mono (by omega) (by omega)
    let behind := org.onLine (org.line + 1 + body.code.length + 1)
      ((body.eval org.offset)^[header.turns org.registers] org.registers)
    have runs : world.Brings slot org behind := by
      by_cases isLoop : header = .loop
      · subst isLoop
        exact brings_block_loop body_ih coherent holds restsHere
      · exact brings_block_conditional isLoop body_ih coherent holds restsHere
    have others := rest_ih behind coherent holds.tail.append_right.tail restsBehind
    rw [length]
    exact runs.trans others

/-- Where a well-nested program stands in a genome, with its loops at rest, a number of
lines brings the organism from its first line behind its last one. The registers and
the memory are then what the program computes, its loops are at rest again, and
nothing else has changed, neither of the organism nor of the world. -/
theorem brings_program (world : World ρ) (slot : Nat) (org : Organism) (coherent : org.Coherent)
    (program : Program) (before after : Genome)
    (stands : org.code = before ++ program.code ++ after) (entry : org.line = before.length)
    (atRest : org.AtRest before.length program.code.length) :
    ∃ behind : Organism,
      behind = org.onLine (before.length + program.code.length)
        (program.eval org.offset org.registers) ∧
      world.Brings slot org behind ∧
      behind.AtRest before.length program.code.length := by
  have holds : org.code.HoldsAt org.line program.code := by
    intro place inside
    rw [stands, entry, List.append_assoc, List.getElem?_append_right (Nat.le_add_right _ _),
      Nat.add_sub_cancel_left, List.getElem?_append_left inside]
  rw [← entry] at atRest ⊢
  exact ⟨_, rfl, faithful world slot program org coherent holds atRest, atRest⟩

end World

/-- Three turns of counting up in `d`, each with a loop inside a conditional. -/
def Program.nested : Program :=
  .compute 3 (by decide)
    (.block .loop
      (.compute Opcode.inc.word (by decide)
        (.block .ifGreater
          (.block .loop (.compute Opcode.dToB.word (by decide) .done) .done) .done))
      .done)

/-- An organism on the first line of that program, between a stray end and a header. -/
def Organism.nested : Organism :=
  { fresh 0 0 1 .small with
    code := [Opcode.close.word] ++ Program.nested.code ++ [Opcode.func.word]
    line := 1 }.rebuild

theorem World.brings_program_nested :
    ∃ start : World Generator, create .small (.ofSeed 7) false = .ok (.ok start) ∧
      Organism.nested.Coherent ∧ Organism.nested.AtRest 1 9 ∧
      ∃ behind : Organism,
        behind = Organism.nested.onLine 10 (Program.nested.eval 0 Organism.nested.registers) ∧
        start.Brings 0 Organism.nested behind ∧ behind.AtRest 1 9 := by
  obtain ⟨start, -, created, -⟩ := performAll_small
  have coherent : Organism.nested.Coherent := BlockTable.fits_ofGenome _
  have atRest : Organism.nested.AtRest 1 9 := fun place _ _ => BlockTable.counter_ofGenome _ place
  exact ⟨start, created, coherent, atRest,
    brings_program start 0 Organism.nested coherent Program.nested [Opcode.close.word]
      [Opcode.func.word] rfl rfl atRest⟩

end Vivarium
