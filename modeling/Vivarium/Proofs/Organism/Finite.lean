import Vivarium.Proofs.Callers
import Vivarium.Proofs.Register.Finite

/-!
# Finite organisms

The numbers of an organism are those of its registers, of its memory and of its saved callers.
Arithmetic is saturated before it is stored, a quotient is kept if it is finite, and everything
else that a line stores is a count, an amount, what a token or a cell reads as, or a number that
the organism had before. So all numbers are finite from the birth of an organism on.
-/
namespace Vivarium

open Register (isFinite_ofNat isFinite_ofInt isFinite_raw isFinite_cell_raw isFinite_saturate
  isFinite_quotient)

structure Frame.AllFinite (frame : Frame) : Prop where
  d : frame.d.isFinite = true
  a : frame.a.isFinite = true
  b : frame.b.isFinite = true

namespace Organism

/-- No register, no place of the memory and no saved register is an infinity or no number. -/
structure AllFinite (org : Organism) : Prop where
  d : org.d.isFinite = true
  a : org.a.isFinite = true
  b : org.b.isFinite = true
  mem : ∀ value ∈ org.mem, value.isFinite = true
  frames : ∀ frame ∈ org.frames, frame.AllFinite

variable {org after : Organism}

theorem AllFinite.setD (finite : org.AllFinite) {value : Float} (isFinite : value.isFinite = true) :
    ({ org with d := value } : Organism).AllFinite := { finite with d := isFinite }

/-! ### Programs -/

theorem AllFinite.pushFrame (finite : org.AllFinite) {frame : Frame} (saved : frame.AllFinite) :
    (org.pushFrame frame).AllFinite := by
  unfold Organism.pushFrame
  split
  · exact { finite with frames := List.forall_mem_singleton.mpr saved }
  · exact { finite with frames := List.forall_mem_cons.mpr ⟨saved, finite.frames⟩ }

/-- A way back takes the registers from the innermost caller. -/
theorem AllFinite.returnTo (finite : org.AllFinite) {frame : Frame} {callers : List Frame}
    (saved : org.frames = frame :: callers) :
    ({ org with frames := callers }.returnTo frame).AllFinite ∧ frame.AllFinite := by
  have numbers := finite.frames
  rw [saved, List.forall_mem_cons] at numbers
  exact ⟨{ finite with a := numbers.1.a, b := numbers.1.b, frames := numbers.2 }, numbers.1⟩

theorem AllFinite.leaveCode (finite : org.AllFinite) : org.leaveCode.AllFinite := by
  cases saved : org.frames with
  | nil =>
    rw [leaveCode_of_nil saved]
    exact { finite with }
  | cons frame callers =>
    rw [leaveCode_of_frames saved]
    exact (finite.returnTo saved).1

theorem AllFinite.runHeader (finite : org.AllFinite) : org.runHeader.AllFinite := by
  cases saved : org.frames with
  | nil =>
    rw [runHeader_of_nil saved]
    exact { finite with }
  | cons frame callers =>
    rw [runHeader_of_frames saved]
    obtain ⟨returned, numbers⟩ := finite.returnTo saved
    exact { returned with d := numbers.d }

theorem AllFinite.runReturn (finite : org.AllFinite) : org.runReturn.AllFinite := by
  cases saved : org.frames with
  | nil =>
    rw [runReturn_of_nil saved]
    exact { finite with }
  | cons frame callers =>
    rw [runReturn_of_frames saved]
    exact (finite.returnTo saved).1

theorem AllFinite.runClose (finite : org.AllFinite)
    (closes : BlockTable.opcodeAt? org.code org.line = some .close) :
    org.runClose.AllFinite := by
  rcases runClose_cases closes with ⟨-, back⟩ | ⟨frame, callers, saved, -, back⟩ | ⟨-, -, onward⟩
  · rw [back]
    exact { finite with }
  · rw [back]
    exact (finite.returnTo saved).1
  · rw [onward]
    exact { finite with }

theorem AllFinite.compute (finite : org.AllFinite) (opcode : Opcode) :
    (org.compute opcode).AllFinite := by
  cases opcode with
  | dToA => exact { finite with a := finite.d }
  | dToB => exact { finite with b := finite.d }
  | aToD => exact { finite with d := finite.a }
  | aToB => exact { finite with b := finite.a }
  | add | sub | mul | inc | dec => exact { finite with d := isFinite_saturate _ }
  | div => exact { finite with d := isFinite_quotient _ _ }
  | position => exact { finite with d := isFinite_ofNat _ }
  | memGet =>
    refine { finite with d := ?_ }
    change (org.mem.getD (Register.toPosition org.a) org.d).isFinite = true
    -- Behind the memory there is nothing to read, and the register stays as it is.
    rw [Array.getD_eq_getD_getElem?]
    cases read : org.mem[Register.toPosition org.a]? with
    | none => exact finite.d
    | some value => exact finite.mem value (Array.mem_of_getElem? read)
  | memPut =>
    refine { finite with mem := ?_ }
    intro value member
    rcases Array.mem_or_eq_of_mem_setIfInBounds member with old | rfl
    · exact finite.mem value old
    · exact finite.d
  | _ => exact finite

theorem AllFinite.execute (finite : org.AllFinite) {opcode : Opcode}
    (fetched : org.fetch = some (.op opcode)) (ran : org.execute opcode = .ok after) :
    after.AllFinite := by
  have computed : (org.compute opcode).advance.AllFinite := { finite.compute opcode with }
  cases opcode
  case loop =>
    obtain ⟨counter, -, answer⟩ := (bind_eq_ok_iff _ _ _).mp ran
    cases answer
    exact { finite with }
  case ifGreater | ifLess | ifEqual =>
    cases ran
    exact { finite with }
  case call =>
    rcases runCall_cases ran with ⟨-, rfl⟩ | ⟨start, frame, -, -, same, rfl⟩
    · exact { finite with }
    · -- A call saves registers, and those are finite.
      have saved : frame.AllFinite := by
        rw [same]
        exact ⟨finite.d, finite.a, finite.b⟩
      exact { finite.pushFrame saved with }
  case func =>
    cases ran
    exact finite.runHeader
  case ret =>
    cases ran
    exact finite.runReturn
  case close =>
    cases ran
    exact finite.runClose (fetch_eq_op_iff.mp fetched)
  all_goals
    cases ran
    exact computed

end Organism

end Vivarium
