import Mathlib.Logic.Relation
import Vivarium.Proofs.Lines
import Vivarium.Proofs.Organism.Coherence

/-!
# Saved callers

A line leaves the saved callers alone, saves one more or goes back to the innermost
one. Whoever is saved above a caller is gone before that caller can be, so the first
line that brings the stack back to the height that a call found goes back to this
call: the callers below are those that it found, and the registers that a return
gives back are those that it saved.
-/
namespace Vivarium.Organism

variable {org after : Organism} {frame : Frame} {callers : List Frame}

/-! ### The ways back -/

theorem leaveCode_of_frames (saved : org.frames = frame :: callers) :
    org.leaveCode = { org with frames := callers }.returnTo frame := by
  simp [leaveCode, popFrame, saved]

theorem leaveCode_of_nil (none : org.frames = []) : org.leaveCode = { org with line := 0 } := by
  simp [leaveCode, popFrame, none]

theorem runHeader_of_frames (saved : org.frames = frame :: callers) :
    org.runHeader = { { org with frames := callers }.returnTo frame with d := frame.d } := by
  simp [runHeader, popFrame, saved, returnTo]

theorem runHeader_of_nil (none : org.frames = []) :
    org.runHeader = { org with line := org.blocks.target org.line } := by
  simp [runHeader, popFrame, none]

theorem runReturn_of_frames (saved : org.frames = frame :: callers) :
    org.runReturn = { org with frames := callers }.returnTo frame := by
  simp [runReturn, popFrame, saved]

theorem runReturn_of_nil (none : org.frames = []) : org.runReturn = org.advance := by
  simp [runReturn, popFrame, none]

/-- The end of a block goes back to its loop, or out of the call that it ends, or on. -/
theorem runClose_cases (closes : BlockTable.opcodeAt? org.code org.line = some .close) :
    let opener := BlockTable.opcodeAt? org.code (org.blocks.target org.line)
    (opener = some .loop ∧ org.runClose = { org with line := org.blocks.target org.line }) ∨
      (∃ frame callers, org.frames = frame :: callers ∧ opener = some .func ∧
        org.runClose = { org with frames := callers }.returnTo frame) ∨
      (opener ≠ some .loop ∧
        (opener = some .func → ∀ frame callers, org.frames = frame :: callers →
          frame.close ≠ org.line) ∧
        org.runClose = org.advance) := by
  simp only [runClose]
  split
  next stray => exact .inr (.inr (by simp [stray, closes]))
  next =>
    split
    next isLoop => exact .inl ⟨isLoop, rfl⟩
    next isFunc =>
      cases saved : org.frames with
      | nil => exact .inr (.inr (by simp [endsCall, saved, isFunc]))
      | cons frame callers =>
        by_cases ends : frame.close = org.line
        · exact .inr (.inl ⟨frame, callers, rfl, isFunc, by simp [endsCall, popFrame, saved, ends]⟩)
        · refine .inr (.inr ⟨by simp [isFunc], fun _ top rest same => ?_, ?_⟩)
          · cases same
            exact ends
          · simp [endsCall, saved, ends]
    next noLoop noFunc =>
      exact .inr (.inr ⟨noLoop, fun isFunc => absurd isFunc noFunc, rfl⟩)

/-- What a call does: nothing without functions, else it enters one of them. -/
theorem runCall_cases (ran : org.runCall = .ok after) :
    (org.blocks.functions = [] ∧ after = org.advance) ∨
      ∃ (start : Nat) (frame : Frame),
        start ∈ org.blocks.functions ∧ 1 ≤ start ∧
        frame = { ret := org.line + 1, d := org.d, a := org.a, b := org.b,
                  close := org.blocks.target (start - 1) - 1 } ∧
        after = { org.pushFrame frame with line := start } := by
  simp only [runCall] at ran
  split at ran
  next none =>
    cases ran
    exact .inl ⟨List.length_eq_zero_iff.mp none, rfl⟩
  next =>
    obtain ⟨selected, -, ran⟩ := (bind_eq_ok_iff _ _ _).mp ran
    obtain ⟨start, entry, ran⟩ := (bind_eq_ok_iff _ _ _).mp ran
    obtain ⟨header, before, ran⟩ := (bind_eq_ok_iff _ _ _).mp ran
    obtain ⟨positive, rfl⟩ := (Count.sub_eq_ok_iff _ _ _).mp before
    cases ran
    rw [entryAt_eq_ok_iff] at entry
    exact .inr ⟨start, _, List.mem_of_getElem? entry, positive, rfl, rfl⟩

theorem frames_pushFrame (org : Organism) (frame : Frame) :
    (org.pushFrame frame).frames =
      if org.stackSize ≤ org.frames.length then [frame] else frame :: org.frames := by
  unfold pushFrame
  split <;> rfl

/-- What a steering instruction leaves as it is. It may set a loop counter of the table. -/
structure KeepsGenome (org after : Organism) : Prop where
  code : after.code = org.code
  period : after.period = org.period
  stackSize : after.stackSize = org.stackSize
  coherent : org.Coherent → after.Coherent

theorem KeepsGenome.refl (org : Organism) : org.KeepsGenome org where
  code := rfl
  period := rfl
  stackSize := rfl
  coherent := fun coherent => coherent

theorem keepsGenome_pushFrame (org : Organism) (frame : Frame) :
    org.KeepsGenome (org.pushFrame frame) := by
  unfold pushFrame
  split <;> exact { KeepsGenome.refl org with }

/-! ### Heights -/

/-- What a line does to the saved callers. -/
inductive CallersChange (org after : Organism) : Prop where
  | kept (frames : after.frames = org.frames)
  /-- A call was made; a full stack has been emptied first. -/
  | pushed (frame : Frame) (fetched : org.fetch = some (.op .call))
      (functions : org.blocks.functions ≠ [])
      (saved : frame.ret = org.line + 1 ∧ frame.d = org.d ∧ frame.a = org.a ∧ frame.b = org.b)
      (frames : after.frames =
        if org.stackSize ≤ org.frames.length then [frame] else frame :: org.frames)
  /-- A call was left; only a function header gives `d` back. -/
  | popped (frame : Frame) (frames : org.frames = frame :: after.frames)
      (line : after.line = frame.ret) (a : after.a = frame.a) (b : after.b = frame.b)
      (d : after.d = if org.fetch = some (.op .func) then frame.d else org.d)

/-- A way back that keeps `d`. -/
theorem callersChange_returnTo (frames : org.frames = frame :: callers)
    (back : after = { org with frames := callers }.returnTo frame)
    (noHeader : org.fetch ≠ some (.op .func)) :
    CallersChange org after ∧ KeepsGenome org after := by
  subst back
  exact ⟨.popped frame frames rfl rfl rfl (if_neg noHeader).symm,
    { KeepsGenome.refl org with }⟩

/-- A steering instruction changes the saved callers in one of the three ways. -/
theorem callersChange_execute {opcode : Opcode} (fetched : org.fetch = some (.op opcode))
    (steers : opcode.steers = true) (ran : org.execute opcode = .ok after) :
    CallersChange org after ∧ KeepsGenome org after := by
  cases opcode
  case loop =>
    obtain ⟨counter, -, answer⟩ := (bind_eq_ok_iff _ _ _).mp ran
    cases answer
    exact ⟨.kept rfl, ⟨rfl, rfl, rfl, fun coherent => coherent.setCounter _ _⟩⟩
  case ifGreater | ifLess | ifEqual =>
    cases ran
    exact ⟨.kept rfl, { KeepsGenome.refl org with }⟩
  case call =>
    rcases runCall_cases ran with ⟨-, rfl⟩ | ⟨start, frame, member, -, rfl, rfl⟩
    · exact ⟨.kept rfl, { KeepsGenome.refl org with }⟩
    · exact ⟨.pushed _ fetched (List.ne_nil_of_mem member) ⟨rfl, rfl, rfl, rfl⟩
        (org.frames_pushFrame _), { org.keepsGenome_pushFrame _ with }⟩
  case func =>
    cases ran
    cases saved : org.frames with
    | nil =>
      rw [runHeader_of_nil saved]
      exact ⟨.kept rfl, { KeepsGenome.refl org with }⟩
    | cons frame callers =>
      rw [runHeader_of_frames saved]
      exact ⟨.popped frame saved rfl rfl rfl (if_pos fetched).symm,
        { KeepsGenome.refl org with }⟩
  case ret =>
    cases ran
    cases saved : org.frames with
    | nil =>
      rw [runReturn_of_nil saved]
      exact ⟨.kept rfl, { KeepsGenome.refl org with }⟩
    | cons frame callers =>
      exact callersChange_returnTo saved (runReturn_of_frames saved) (by simp [fetched])
  case close =>
    cases ran
    rcases runClose_cases (fetch_eq_op_iff.mp fetched) with
      ⟨-, back⟩ | ⟨frame, callers, saved, -, back⟩ | ⟨-, -, onward⟩
    · rw [back]
      exact ⟨.kept rfl, { KeepsGenome.refl org with }⟩
    · exact callersChange_returnTo saved back (by simp [fetched])
    · rw [onward]
      exact ⟨.kept rfl, { KeepsGenome.refl org with }⟩
  all_goals cases steers

/-- A line keeps the course from the next line on, or it changes the saved callers in
one of the three ways and keeps the genome. -/
theorem Executes.callers_or_course (executes : org.Executes after) :
    CallersChange org after ∧ KeepsGenome org after ∨ org.advance.KeepsCourse after := by
  rcases executes.cases with ⟨nothing, rfl⟩ | ⟨opcode, fetched, steers, ran⟩ | ⟨-, kept⟩
  · left
    cases saved : org.frames with
    | nil =>
      rw [leaveCode_of_nil saved]
      exact ⟨.kept rfl, { KeepsGenome.refl org with }⟩
    | cons frame callers =>
      exact callersChange_returnTo saved (leaveCode_of_frames saved) (by simp [nothing])
  · exact .inl (callersChange_execute fetched steers ran)
  · exact .inr kept

theorem Executes.callersChange (executes : org.Executes after) : CallersChange org after := by
  rcases executes.callers_or_course with ⟨change, -⟩ | kept
  · exact change
  · exact .kept kept.frames

/-! ### Sound organisms -/

theorem KeepsCourse.coherent (kept : org.KeepsCourse after) (coherent : org.Coherent) :
    after.Coherent := by
  unfold Coherent at coherent ⊢
  rcases kept.blocks with ⟨code, blocks⟩ | rebuilt
  · rwa [code, blocks]
  · rw [rebuilt]
    exact BlockTable.fits_ofGenome _

theorem Executes.coherent (executes : org.Executes after) (coherent : org.Coherent) :
    after.Coherent := by
  rcases executes.callers_or_course with ⟨-, genome⟩ | kept
  · exact genome.coherent coherent
  · exact kept.coherent coherent

/-- What holds of an organism from its birth on. -/
structure Sound (org : Organism) : Prop where
  coherent : org.Coherent
  period : 1 ≤ org.period
  room : 1 ≤ org.stackSize
  frames : org.frames.length ≤ org.stackSize

theorem KeepsCourse.sound (kept : org.KeepsCourse after) (sound : org.Sound) : after.Sound where
  coherent := kept.coherent sound.coherent
  period := kept.period sound.period
  room := kept.stackSize ▸ sound.room
  frames := by
    rw [kept.frames, kept.stackSize]
    exact sound.frames

/-- No line saves more callers than there is room for. -/
theorem Executes.sound (executes : org.Executes after) (sound : org.Sound) :
    after.Sound ∧ after.stackSize = org.stackSize := by
  have room := sound.room
  have frames := sound.frames
  rcases executes.callers_or_course with ⟨change, genome⟩ | kept
  · refine ⟨⟨genome.coherent sound.coherent, genome.period ▸ sound.period,
      genome.stackSize ▸ room, ?_⟩, genome.stackSize⟩
    rw [genome.stackSize]
    cases change with
    | kept same => rwa [same]
    | pushed frame _ _ _ pushed =>
      rw [pushed]
      split
      -- A full stack is emptied, and there is room for the one caller then saved.
      next => simpa using room
      next notFull =>
        rw [List.length_cons]
        omega
    | popped frame popped =>
      rw [popped, List.length_cons] at frames
      omega
  · have advanced : org.advance.Sound := { sound with }
    exact ⟨kept.sound advanced, kept.stackSize⟩

/-- The second organism is what lines, and events that keep the course, make of the
first one. -/
def Becomes : Organism → Organism → Prop :=
  Relation.ReflTransGen fun early late => early.Executes late ∨ early.KeepsCourse late

/-- By induction on the life of an organism. -/
theorem Becomes.sound (becomes : org.Becomes after) (sound : org.Sound) :
    after.Sound ∧ after.stackSize = org.stackSize := by
  induction becomes with
  | refl => exact ⟨sound, rfl⟩
  | tail _ event ih =>
    obtain ⟨sound, same⟩ := ih
    rcases event with executes | kept
    · obtain ⟨sound, stackSize⟩ := executes.sound sound
      exact ⟨sound, stackSize.trans same⟩
    · exact ⟨kept.sound sound, kept.stackSize.trans same⟩

/-! ### Between a call and its return -/

/-- A call is about to be made on a full stack, which empties the stack first. -/
def Overflows (org : Organism) : Prop :=
  org.fetch = some (.op .call) ∧ org.blocks.functions ≠ [] ∧ org.stackSize ≤ org.frames.length

/-- The life of an organism goes on without an overflow and without a stack of this
height: it executes a line, or something happens to it that keeps its course. -/
def GoesOn (height : Nat) (org after : Organism) : Prop :=
  (org.Executes after ∧ ¬ org.Overflows ∨ org.KeepsCourse after) ∧ after.frames.length ≠ height

/-- While the stack does not come down to the height of its callers, a frame stays. -/
theorem GoesOn.stays (goesOn : GoesOn callers.length org after)
    (saved : frame :: callers <:+ org.frames) : frame :: callers <:+ after.frames := by
  obtain ⟨⟨executes, room⟩ | kept, height⟩ := goesOn
  · cases executes.callersChange with
    | kept same => rwa [same]
    | pushed new fetched functions _ frames =>
      have notFull : ¬ org.stackSize ≤ org.frames.length :=
        fun full => room ⟨fetched, functions, full⟩
      rw [frames, if_neg notFull]
      exact saved.trans (List.suffix_cons _ _)
    | popped top frames _ _ _ _ =>
      -- Were the frame the one taken off, its callers would be left, and no more.
      rw [frames, List.suffix_cons_iff] at saved
      rcases saved with same | below
      · exact absurd (congrArg List.length (List.cons.inj same).2).symm height
      · exact below
  · rwa [kept.frames]

theorem stays_of_goesOn (goesOn : Relation.ReflTransGen (GoesOn callers.length) org after)
    (saved : frame :: callers <:+ org.frames) : frame :: callers <:+ after.frames := by
  induction goesOn with
  | refl => exact saved
  | tail _ step ih => exact step.stays ih

/-- A call with room for it saves the registers and the next line. -/
theorem Executes.of_call (calls : org.fetch = some (.op .call))
    (functions : org.blocks.functions ≠ []) (room : org.frames.length < org.stackSize)
    (executes : org.Executes after) :
    ∃ frame : Frame, frame.ret = org.line + 1 ∧ frame.d = org.d ∧ frame.a = org.a ∧
      frame.b = org.b ∧ after.frames = frame :: org.frames := by
  rcases runCall_cases (executes.of_steers calls rfl) with
    ⟨none, -⟩ | ⟨start, frame, -, -, saves, rfl⟩
  · exact absurd none functions
  · refine ⟨frame, by rw [saves], by rw [saves], by rw [saves], by rw [saves], ?_⟩
    change (org.pushFrame frame).frames = _
    rw [frames_pushFrame, if_neg (Nat.not_le_of_lt room)]

/-- The line that first brings the stack back to the height that a call found returns
from this call. -/
theorem returns_of_goesOn {entered before : Organism} (calls : org.fetch = some (.op .call))
    (functions : org.blocks.functions ≠ []) (room : org.frames.length < org.stackSize)
    (enters : org.Executes entered)
    (goesOn : Relation.ReflTransGen (GoesOn org.frames.length) entered before)
    (executes : before.Executes after) (noOverflow : ¬ before.Overflows)
    (height : after.frames.length = org.frames.length) :
    after.frames = org.frames ∧ after.line = org.line + 1 ∧ after.a = org.a ∧ after.b = org.b ∧
      after.d = if before.fetch = some (.op .func) then org.d else before.d := by
  obtain ⟨frame, ret, savedD, savedA, savedB, frames⟩ := enters.of_call calls functions room
  have saved : frame :: org.frames <:+ before.frames :=
    stays_of_goesOn goesOn (frames ▸ List.suffix_refl _)
  have above : org.frames.length < before.frames.length := saved.length_le
  cases executes.callersChange with
  | kept same =>
    rw [same] at height
    omega
  | pushed new fetched someFunctions _ pushed =>
    have notFull : ¬ before.stackSize ≤ before.frames.length :=
      fun full => noOverflow ⟨fetched, someFunctions, full⟩
    rw [pushed, if_neg notFull, List.length_cons] at height
    omega
  | popped top popped line a b d =>
    -- The stack has come down to the frame of the call, so this is the one taken off.
    have same : frame :: org.frames = top :: after.frames := by
      rw [popped] at saved
      exact saved.eq_of_length (by simp [height])
    obtain ⟨rfl, callers⟩ := List.cons.inj same
    exact ⟨callers.symm, line.trans ret, a.trans savedA, b.trans savedB, by rw [d, savedD]⟩

end Vivarium.Organism
