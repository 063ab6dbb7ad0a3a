/-!
# Instructions

A genome is a list of code words. The words around zero are numbers, thirty
words above them are opcodes, and every other word does nothing. Decoding keeps
the word in each of the three cases, so encoding gives it back.
-/
namespace Vivarium

/-- What an organism can be told to do, in the order of the code words. -/
inductive Opcode where
  | step
  | eat
  | clone
  | see
  | dToA
  | dToB
  | aToD
  | aToB
  | add
  | sub
  | mul
  | div
  | inc
  | dec
  | loop
  | ifGreater
  | ifLess
  | ifEqual
  | nop
  | memGet
  | memPut
  | position
  | rand
  | call
  | func
  | ret
  | close
  | get
  | put
  | mix
  deriving DecidableEq, Repr

namespace Opcode

def all : Array Opcode :=
  #[.step, .eat, .clone, .see, .dToA, .dToB, .aToD, .aToB, .add, .sub, .mul, .div, .inc, .dec,
    .loop, .ifGreater, .ifLess, .ifEqual, .nop, .memGet, .memPut, .position, .rand, .call, .func,
    .ret, .close, .get, .put, .mix]

def ofIndex? (index : Nat) : Option Opcode := all[index]?

def index (opcode : Opcode) : Nat := opcode.ctorIdx

def mnemonic : Opcode → String
  | step => "step"
  | eat => "eat"
  | clone => "clone"
  | see => "see"
  | dToA => "dtoa"
  | dToB => "dtob"
  | aToD => "atod"
  | aToB => "atob"
  | add => "add"
  | sub => "sub"
  | mul => "mul"
  | div => "div"
  | inc => "inc"
  | dec => "dec"
  | loop => "loop"
  | ifGreater => "ifdga"
  | ifLess => "ifdla"
  | ifEqual => "ifdea"
  | nop => "nop"
  | memGet => "mget"
  | memPut => "mput"
  | position => "offs"
  | rand => "rand"
  | call => "call"
  | func => "func"
  | ret => "ret"
  | close => "end"
  | get => "get"
  | put => "put"
  | mix => "mix"

def ofMnemonic? (text : String) : Option Opcode :=
  all.toList.find? (·.mnemonic == text)

/-- The opcodes that a matching `end` closes. -/
def opensBlock : Opcode → Bool
  | loop | ifGreater | ifLess | ifEqual | func => true
  | _ => false

theorem ofIndex?_index (opcode : Opcode) : ofIndex? opcode.index = some opcode := by
  cases opcode <;> rfl

theorem index_lt (opcode : Opcode) : opcode.index < 30 := by
  cases opcode <;> decide

end Opcode

/-- The numbers that words can stand for lie strictly within this distance of zero;
it is also the word of the first opcode. -/
def literalBound : Int := 1024

def opcodeCount : Int := 30

/-- Random register values lie within this distance of zero. -/
def randomBound : Int := literalBound + opcodeCount

/-- One decoded word. -/
inductive Instruction where
  /-- Load a number into `d`. -/
  | literal (value : Int)
  | op (opcode : Opcode)
  /-- A word without meaning; it does nothing. -/
  | invalid (word : Int)
  deriving DecidableEq, Repr

def Opcode.word (opcode : Opcode) : Int := literalBound + opcode.index

namespace Instruction

def decode (word : Int) : Instruction :=
  if -literalBound < word ∧ word < literalBound then literal word
  else if word < literalBound then invalid word
  else
    match Opcode.ofIndex? (word - literalBound).toNat with
    | some opcode => op opcode
    | none => invalid word

def encode : Instruction → Int
  | literal value => value
  | op opcode => opcode.word
  | invalid word => word

def opcode? : Instruction → Option Opcode
  | op opcode => some opcode
  | _ => none

def text : Instruction → String
  | literal value => toString value
  | op opcode => opcode.mnemonic
  | invalid word => "?" ++ toString word

def assemble (program : List Instruction) : List Int := program.map encode

def disassemble (code : List Int) : String :=
  " ".intercalate (code.map fun word => (decode word).text)

theorem decode_word (opcode : Opcode) : decode opcode.word = op opcode := by
  have bound := opcode.index_lt
  have notLow : ¬ opcode.word < literalBound := by unfold Opcode.word literalBound; omega
  have back : (opcode.word - literalBound).toNat = opcode.index := by
    unfold Opcode.word literalBound; omega
  simp [decode, notLow, back, Opcode.ofIndex?_index]

end Instruction

end Vivarium
