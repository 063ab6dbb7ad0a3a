import Vivarium.Organism
import Vivarium.Bounded

/-!
# What a program does to its own organism

Registers, memory, blocks and calls: the instructions whose effect stays inside
the organism. A conditional or a loop that is not entered goes to the target of
its line; the end of a loop goes back to it. A call saves its caller, and there
are four ways back: `ret`, the end of the function called, a function header,
and the end of the code. Only the function header gives `d` back as well.
-/
namespace Vivarium.Organism

/-- What a line of the genome says; none after the last line. -/
def fetch (org : Organism) : Option Instruction := org.code[org.line]?.map Instruction.decode

def advance (org : Organism) : Organism := { org with line := org.line + 1 }

/-- Go back to a caller and keep `d`. -/
def returnTo (org : Organism) (frame : Frame) : Organism :=
  { org with line := frame.ret, a := frame.a, b := frame.b }

/-- After the last line: leave the innermost call, else start over. -/
def leaveCode (org : Organism) : Organism :=
  match org.popFrame with
  | (some frame, org) => org.returnTo frame
  | (none, org) => { org with line := 0 }

/-- Enter the loop of this line or leave it. A loop at rest that has a body reads
how often it runs from `d`. -/
def runLoop (org : Organism) : Outcome Organism := do
  let line := org.line
  let target := org.blocks.target line
  let counter := org.blocks.counter line
  let counter :=
    if counter < 0 ∧ line + 1 < target then Amount.magnitude (Register.toInt org.d) else counter
  let counter ← Amount.guard .turnsOverflow (counter - 1)
  return { org with
    blocks := org.blocks.setCounter line counter
    line := if counter < 0 then target else line + 1 }

/-- Enter the block of this line if the condition holds, else pass it by. -/
def runConditional (org : Organism) (enter : Bool) : Organism :=
  { org with line := if enter then org.line + 1 else org.blocks.target org.line }

/-- Call the function that `d` selects; without functions nothing happens. -/
def runCall (org : Organism) : Outcome Organism :=
  let functions := org.blocks.functions
  if functions.length = 0 then .ok org.advance
  else do
    let selected ← Count.rem (Register.toPosition org.d) functions.length
    -- The header, whose target gives the end, is the line before the body.
    let start ← entryAt functions selected
    let header ← Count.sub start 1
    let frame : Frame :=
      { ret := org.line + 1, d := org.d, a := org.a, b := org.b
        close := org.blocks.target header - 1 }
    return { org.pushFrame frame with line := start }

/-- Reaching a function header inside a call returns from it; outside of calls the
function is passed by. -/
def runHeader (org : Organism) : Organism :=
  match org.popFrame with
  | (some frame, org) => { org with line := frame.ret, d := frame.d, a := frame.a, b := frame.b }
  | (none, org) => { org with line := org.blocks.target org.line }

/-- Return from the innermost call, if there is one. -/
def runReturn (org : Organism) : Organism :=
  match org.popFrame with
  | (some frame, org) => org.returnTo frame
  | (none, org) => org.advance

/-- Whether the innermost call was made to the function that ends on this line. -/
def endsCall (org : Organism) : Bool :=
  match org.frames with
  | [] => false
  | frame :: _ => frame.close == org.line

/-- The end of a block: back to its loop, or out of the call it ends. -/
def runClose (org : Organism) : Organism :=
  let opener := org.blocks.target org.line
  if opener = org.line then org.advance
  else
    match BlockTable.opcodeAt? org.code opener with
    | some .loop => { org with line := opener }
    | some .func =>
      if org.endsCall then
        match org.popFrame with
        | (some frame, org) => org.returnTo frame
        | (none, org) => org.advance
      else org.advance
    | _ => org.advance

/-- Instructions that compute; the others leave the organism as it is. -/
def compute (org : Organism) : Opcode → Organism
  | .dToA => { org with a := org.d }
  | .dToB => { org with b := org.d }
  | .aToD => { org with d := org.a }
  | .aToB => { org with b := org.a }
  | .add => { org with d := Register.saturate (org.a + org.b) }
  | .sub => { org with d := Register.saturate (org.a - org.b) }
  | .mul => { org with d := Register.saturate (org.a * org.b) }
  | .div => { org with d := Register.quotient org.a org.b }
  | .inc => { org with d := Register.saturate (org.d + 1.0) }
  | .dec => { org with d := Register.saturate (org.d - 1.0) }
  | .memGet => { org with d := org.mem.getD (Register.toPosition org.a) org.d }
  | .memPut => { org with mem := org.mem.setIfInBounds (Register.toPosition org.a) org.d }
  | .position => { org with d := Register.ofNat org.offset }
  | _ => org

/-- Execute an instruction whose effect stays inside the organism. -/
def execute (org : Organism) : Opcode → Outcome Organism
  | .loop => org.runLoop
  | .ifGreater => .ok (org.runConditional (org.a < org.d))
  | .ifLess => .ok (org.runConditional (org.d < org.a))
  | .ifEqual => .ok (org.runConditional (org.d == org.a))
  | .call => org.runCall
  | .func => .ok org.runHeader
  | .ret => .ok org.runReturn
  | .close => .ok org.runClose
  | opcode => .ok (org.compute opcode).advance

end Vivarium.Organism
