import Vivarium.Proofs.Callers
import Vivarium.Proofs.Calls
import Vivarium.Proofs.BlockTable.Nesting

/-!
# The ends of functions

A saved caller remembers on which line the function called ends, and an unclosed
function is taken to end on the last line of the genome, where another function may
end. Still no end is taken for that of another function. While a call is open, the
program stays within the body of the function called: headers that it reaches make
it return, ends lead within the innermost block, and every line to which a return
leads lies within the body of the function below.
-/
namespace Vivarium

namespace BlockTable

/-- The header of the innermost function in whose body a line lies. -/
def enclosing (code : Genome) (line : Nat) : Option Nat :=
  (waiting code line).find? fun opener => opcodeAt? code opener == some .func

/-- The line lies in the body of this function, or behind the genome. -/
def Within (code : Genome) (header line : Nat) : Prop :=
  code.length ≤ line ∨ enclosing code line = some header

variable {code : Genome} {line opener header : Nat}

theorem enclosing_of_func (isFunc : opcodeAt? code header = some .func) :
    enclosing code (header + 1) = some header := by
  have opens : Opens code header := ⟨_, isFunc, rfl⟩
  simp [enclosing, waiting_of_opens opens, isFunc]

theorem enclosing_of_opens (opens : Opens code line) (noFunc : opcodeAt? code line ≠ some .func) :
    enclosing code (line + 1) = enclosing code line := by
  simp [enclosing, waiting_of_opens opens, noFunc]

theorem enclosing_of_plain (plain : Plain code line) :
    enclosing code (line + 1) = enclosing code line := by
  rw [enclosing, waiting_of_plain plain, enclosing]

/-- Before a block that is no function the same function encloses as at its end. -/
theorem enclosing_opener {rest : List Nat} (stack : waiting code line = opener :: rest)
    (noFunc : opcodeAt? code opener ≠ some .func) :
    enclosing code opener = enclosing code line := by
  rw [enclosing, enclosing, stack, ← waiting_eq_cons stack]
  simp [noFunc]

theorem Within.of_eq {next : Nat} (within : Within code header line) (later : line ≤ next)
    (same : enclosing code next = enclosing code line) : Within code header next := by
  rcases within with behind | inside
  · exact .inl (Nat.le_trans behind later)
  · exact .inr (same.trans inside)

/-- The block of an opener that is no function leads to a line within the same function. -/
theorem Within.target (within : Within code header line) (opens : Opens code line)
    : Within code header ((ofGenome code).target line) := by
  have inside := opens.lt_length
  rcases target_of_opens opens with behind | same
  · exact .inl (Nat.le_of_eq behind.symm)
  · refine .inr ?_
    rw [enclosing, same]
    rcases within with behind | enclosed
    · omega
    · exact enclosed

/-- The end of a function lies in the body of that function only. -/
theorem target_of_within_close (closes : opcodeAt? code line = some .close)
    (within : Within code header line)
    (isFunc : opcodeAt? code ((ofGenome code).target line) = some .func) :
    (ofGenome code).target line = header ∧ (ofGenome code).target header = line + 1 := by
  have inside := lt_length_of_close closes
  cases stack : waiting code line with
  | nil =>
    rw [target_of_stray closes stack, closes] at isFunc
    cases isFunc
  | cons opener rest =>
    obtain ⟨leads, back⟩ := target_of_close closes stack
    rw [leads] at isFunc ⊢
    have enclosed : enclosing code line = some opener := by simp [enclosing, stack, isFunc]
    rcases within with behind | own
    · omega
    · rw [enclosed, Option.some.injEq] at own
      exact ⟨own, own ▸ back⟩

/-- An end that is passed by leads on within the same function, unless it is the end of
this function. -/
theorem Within.close (within : Within code header line)
    (closes : opcodeAt? code line = some .close)
    (noFunc : opcodeAt? code ((ofGenome code).target line) ≠ some .func) :
    Within code header (line + 1) ∧ Within code header ((ofGenome code).target line) := by
  have inside := lt_length_of_close closes
  have enclosed := within.resolve_left (Nat.not_le_of_lt inside)
  cases stack : waiting code line with
  | nil => simp [enclosing, stack] at enclosed
  | cons opener rest =>
    have leads := (target_of_close closes stack).1
    rw [leads] at noFunc ⊢
    have same := enclosing_opener stack noFunc
    have next : enclosing code (line + 1) = enclosing code opener := by
      rw [enclosing, waiting_after_close closes stack, enclosing]
    exact ⟨.inr (next.trans (same.trans enclosed)), .inr (same.trans enclosed)⟩

end BlockTable

namespace Organism

open BlockTable (Within enclosing opcodeAt?)

variable {start org after : Organism} {header : Nat} {frame : Frame} {callers : List Frame}

/-- On the first line, without callers and with all loops at rest. -/
def StartsFresh (org : Organism) : Prop :=
  org.line = 0 ∧ org.frames = [] ∧ org.blocks = .ofGenome org.code

/-- The life of an organism goes on with the same genome. -/
def Proceeds (org after : Organism) : Prop :=
  (org.Executes after ∨ org.KeepsCourse after) ∧ after.code = org.code

/-- Since the start a call has entered the function of a header and has saved this frame
on top of these callers, and there it has stayed. -/
def Called (start org : Organism) (header : Nat) (frame : Frame) (callers : List Frame) : Prop :=
  ∃ caller entered : Organism,
    Relation.ReflTransGen Proceeds start caller ∧
    caller.fetch = some (.op .call) ∧ caller.Executes entered ∧
    entered = { caller.pushFrame frame with line := header + 1 } ∧
    entered.frames = frame :: callers ∧
    Relation.ReflTransGen (fun early late => Proceeds early late ∧ frame :: callers <:+ late.frames)
      entered org

theorem Called.proceeds (called : Called start org header frame callers)
    (proceeds : Proceeds org after) (stays : frame :: callers <:+ after.frames) :
    Called start after header frame callers := by
  obtain ⟨caller, entered, run, calls, enters, pushed, saved, since⟩ := called
  exact ⟨caller, entered, run, calls, enters, pushed, saved, since.tail ⟨proceeds, stays⟩⟩

/-- Each caller saved is one of the function on a line, and the line lies within this
function; where it goes on lies within the function of the next caller. -/
inductive Nested (start org : Organism) : (line : Nat) → List Frame → Prop where
  | outside (line : Nat) : Nested start org line []
  | inside {line header : Nat} {frame : Frame} {callers : List Frame}
      (within : Within org.code header line)
      (close : frame.close = (BlockTable.ofGenome org.code).target header - 1)
      (called : Called start org header frame callers)
      (below : Nested start org frame.ret callers) : Nested start org line (frame :: callers)

theorem Nested.proceeds {line : Nat} {frames : List Frame} (nested : Nested start org line frames)
    (proceeds : Proceeds org after) (stay : frames <:+ after.frames) :
    Nested start after line frames := by
  induction nested with
  | outside line => exact .outside line
  | inside within close called below ih =>
    exact .inside (proceeds.2 ▸ within) (proceeds.2 ▸ close) (called.proceeds proceeds stay)
      (ih ((List.suffix_cons _ _).trans stay))

/-- To another line within the same function. -/
theorem Nested.onLine {line next : Nat} {frames : List Frame}
    (nested : Nested start org line frames)
    (leads : ∀ header, Within org.code header line → Within org.code header next) :
    Nested start org next frames := by
  cases nested with
  | outside => exact .outside next
  | inside within close called below => exact .inside (leads _ within) close called below

/-- Nothing of the callers has changed, and the next line lies within the same function. -/
theorem Nested.kept (nested : Nested start org org.line org.frames) (proceeds : Proceeds org after)
    (frames : after.frames = org.frames)
    (leads : ∀ header, Within org.code header org.line → Within org.code header after.line) :
    Nested start after after.line after.frames := by
  rw [frames]
  exact (nested.onLine leads).proceeds proceeds (frames ▸ List.suffix_refl _)

/-- The innermost caller is gone back to. -/
theorem Nested.popped (nested : Nested start org org.line org.frames)
    (proceeds : Proceeds org after) (frames : org.frames = frame :: after.frames)
    (line : after.line = frame.ret) : Nested start after after.line after.frames := by
  rw [frames] at nested
  cases nested with
  | inside _ _ _ below =>
    rw [line]
    exact below.proceeds proceeds (List.suffix_refl _)

/-- What goes back to the innermost caller, if there is one, keeps calls nested. -/
theorem Nested.back (nested : Nested start org org.line org.frames) (proceeds : Proceeds org after)
    (none : org.frames = [] → after.frames = [])
    (some : ∀ frame callers, org.frames = frame :: callers →
      after.frames = callers ∧ after.line = frame.ret) :
    Nested start after after.line after.frames := by
  cases saved : org.frames with
  | nil =>
    rw [none saved]
    exact .outside _
  | cons frame callers =>
    obtain ⟨frames, line⟩ := some frame callers saved
    exact nested.popped proceeds (by rw [saved, frames]) line

/-- A block that is no function is entered or passed by within the same function. -/
theorem leads_of_opens {opcode : Opcode} (coherent : org.Coherent)
    (here : opcodeAt? org.code org.line = some opcode) (opens : opcode.opensBlock = true)
    (noFunc : opcode ≠ .func) (within : Within org.code header org.line) :
    Within org.code header (org.line + 1) ∧
      Within org.code header (org.blocks.target org.line) := by
  have opensHere : BlockTable.Opens org.code org.line := ⟨opcode, here, opens⟩
  have noHeader : opcodeAt? org.code org.line ≠ some .func := by simpa [here] using noFunc
  rw [coherent.target]
  exact ⟨within.of_eq (Nat.le_succ _) (BlockTable.enclosing_of_opens opensHere noHeader),
    within.target opensHere⟩

/-- A call enters the body of a function. -/
theorem Nested.call (nested : Nested start org org.line org.frames) (coherent : org.Coherent)
    (run : Relation.ReflTransGen Proceeds start org) (proceeds : Proceeds org after)
    (calls : org.fetch = some (.op .call)) (executes : org.Executes after) :
    Nested start after after.line after.frames := by
  have plain : BlockTable.Plain org.code org.line := by
    intro opcode here
    rw [fetch_eq_op_iff.mp calls] at here
    cases here
    exact ⟨rfl, by decide⟩
  have onward : ∀ header, Within org.code header org.line → Within org.code header (org.line + 1) :=
    fun header within => within.of_eq (Nat.le_succ _) (BlockTable.enclosing_of_plain plain)
  rcases runCall_cases (executes.of_steers calls rfl) with
    ⟨-, passed⟩ | ⟨first, frame, member, -, saves, enters⟩
  · have kept : after.frames = org.frames := by rw [passed]; rfl
    have next : after.line = org.line + 1 := by rw [passed]; rfl
    exact nested.kept proceeds kept (next ▸ onward)
  · -- What is selected is the first line of the body of some function.
    rw [coherent.functions] at member
    obtain ⟨header, place, isFunc⟩ := BlockTable.mem_functionStarts.mp member
    obtain rfl : first = header + 1 := by omega
    have line : after.line = header + 1 := by rw [enters]
    have frames : after.frames =
        if org.stackSize ≤ org.frames.length then [frame] else frame :: org.frames := by
      rw [enters]
      exact org.frames_pushFrame frame
    have entered : ∀ callers, after.frames = frame :: callers →
        Nested start after frame.ret callers → Nested start after after.line after.frames := by
      intro callers saved below
      have within : Within after.code header (header + 1) := by
        rw [proceeds.2]
        exact .inr (BlockTable.enclosing_of_func isFunc)
      have close : frame.close = (BlockTable.ofGenome after.code).target header - 1 := by
        rw [proceeds.2, saves, ← coherent.target]
        rfl
      rw [line, saved]
      exact .inside within close
        ⟨org, after, run, calls, executes, enters, saved, .refl⟩ below
    split at frames
    · exact entered [] frames (.outside _)
    · refine entered org.frames frames ?_
      rw [saves]
      exact (nested.onLine onward).proceeds proceeds (frames ▸ List.suffix_cons _ _)

/-- While a call is open, an end of a function is the end of the function called. -/
theorem Nested.close_eq (nested : Nested start org org.line org.frames) (coherent : org.Coherent)
    (closes : opcodeAt? org.code org.line = some .close)
    (isFunc : opcodeAt? org.code (org.blocks.target org.line) = some .func)
    (saved : org.frames = frame :: callers) :
    frame.close = org.line ∧ Called start org (org.blocks.target org.line) frame callers := by
  rw [saved] at nested
  cases nested with
  | inside within close called below =>
    rw [coherent.target] at isFunc ⊢
    obtain ⟨rfl, back⟩ := BlockTable.target_of_within_close closes within isFunc
    exact ⟨by omega, called⟩

/-- The end of a block leads to a line within the same function, or out of it. -/
theorem Nested.close (nested : Nested start org org.line org.frames) (coherent : org.Coherent)
    (proceeds : Proceeds org after) (closes : opcodeAt? org.code org.line = some .close)
    (ran : after = org.runClose) : Nested start after after.line after.frames := by
  have within : opcodeAt? org.code (org.blocks.target org.line) ≠ some .func →
      ∀ header, Within org.code header org.line →
        Within org.code header (org.line + 1) ∧
          Within org.code header (org.blocks.target org.line) := by
    intro noFunc header within
    rw [coherent.target] at noFunc ⊢
    exact within.close closes noFunc
  rcases runClose_cases closes with
    ⟨isLoop, back⟩ | ⟨frame, callers, saved, -, back⟩ | ⟨-, ends, onward⟩
  · rw [back] at ran
    subst ran
    exact nested.kept proceeds rfl fun header inside => (within (by simp [isLoop]) header inside).2
  · rw [back] at ran
    subst ran
    exact nested.popped proceeds saved rfl
  · rw [onward] at ran
    subst ran
    cases saved : org.frames with
    | nil =>
      have none : org.advance.frames = [] := saved
      rw [none]
      exact .outside _
    | cons frame callers =>
      -- A function that ends here has been called last, so its end is not passed by.
      have noFunc : opcodeAt? org.code (org.blocks.target org.line) ≠ some .func :=
        fun isFunc => ends isFunc frame callers saved
          (nested.close_eq coherent closes isFunc saved).1
      exact nested.kept proceeds rfl fun header inside => (within noFunc header inside).1

/-- What steers keeps within the function of the innermost caller. -/
theorem Nested.execute {opcode : Opcode} (nested : Nested start org org.line org.frames)
    (coherent : org.Coherent) (run : Relation.ReflTransGen Proceeds start org)
    (proceeds : Proceeds org after) (executes : org.Executes after)
    (fetched : org.fetch = some (.op opcode)) (steers : opcode.steers = true) :
    Nested start after after.line after.frames := by
  have ran := executes.of_steers fetched steers
  have here := fetch_eq_op_iff.mp fetched
  cases opcode
  case loop =>
    obtain ⟨counter, -, answer⟩ := (bind_eq_ok_iff _ _ _).mp ran
    cases answer
    refine nested.kept proceeds rfl fun header within => ?_
    have leads := leads_of_opens coherent here rfl (by decide) within
    simp only
    split
    · exact leads.2
    · exact leads.1
  case ifGreater | ifLess | ifEqual =>
    cases ran
    refine nested.kept proceeds rfl fun header within => ?_
    have leads := leads_of_opens coherent here rfl (by decide) within
    simp only [runConditional]
    split
    · exact leads.1
    · exact leads.2
  case call => exact nested.call coherent run proceeds fetched executes
  case func =>
    cases ran
    refine nested.back proceeds (fun none => ?_) fun frame callers saved => ?_
    · rw [runHeader_of_nil none]
      exact none
    · rw [runHeader_of_frames saved]
      exact ⟨rfl, rfl⟩
  case ret =>
    cases ran
    refine nested.back proceeds (fun none => ?_) fun frame callers saved => ?_
    · rw [runReturn_of_nil none]
      exact none
    · rw [runReturn_of_frames saved]
      exact ⟨rfl, rfl⟩
  case close =>
    cases ran
    exact nested.close coherent proceeds here rfl
  all_goals cases steers

/-- Whatever happens next, calls stay nested. -/
theorem Nested.step (nested : Nested start org org.line org.frames) (coherent : org.Coherent)
    (run : Relation.ReflTransGen Proceeds start org) (proceeds : Proceeds org after) :
    Nested start after after.line after.frames := by
  rcases proceeds.1 with executes | kept
  -- Behind the last line a call is left; what does not steer stays in its function.
  · rcases executes.cases with ⟨nothing, rfl⟩ | ⟨opcode, fetched, steers, -⟩ | ⟨straight, kept⟩
    · refine nested.back proceeds (fun none => ?_) fun frame callers saved => ?_
      · rw [leaveCode_of_nil none]
        exact none
      · rw [leaveCode_of_frames saved]
        exact ⟨rfl, rfl⟩
    · exact nested.execute coherent run proceeds executes fetched steers
    · have plain : BlockTable.Plain org.code org.line := by
        intro opcode here
        exact Opcode.plain_of_straight (straight opcode (fetch_eq_op_iff.mpr here))
      refine nested.kept proceeds kept.frames fun header within => ?_
      rw [kept.line]
      exact within.of_eq (Nat.le_succ _) (BlockTable.enclosing_of_plain plain)
  · refine nested.kept proceeds kept.frames fun header within => ?_
    rwa [kept.line]

/-- By induction on the run: the table belongs to the genome and calls are nested. -/
theorem nested_of_run (fresh : start.StartsFresh) (run : Relation.ReflTransGen Proceeds start org) :
    org.Coherent ∧ Nested start org org.line org.frames := by
  induction run with
  | refl =>
    obtain ⟨-, none, rebuilt⟩ := fresh
    rw [none]
    refine ⟨?_, .outside _⟩
    unfold Coherent
    rw [rebuilt]
    exact BlockTable.fits_ofGenome _
  | tail run proceeds ih =>
    obtain ⟨coherent, nested⟩ := ih
    refine ⟨?_, nested.step coherent run proceeds⟩
    rcases proceeds.1 with executes | kept
    · exact executes.coherent coherent
    · exact kept.coherent coherent

/-- The end of a function that is reached inside a call returns from this call, and the
call was made to this function; no other end goes back to a caller. -/
theorem close_returns_from_own_call (fresh : start.StartsFresh)
    (run : Relation.ReflTransGen Proceeds start org) (closes : org.fetch = some (.op .close))
    (executes : org.Executes after) :
    (∀ frame callers, org.frames = frame :: callers →
        opcodeAt? org.code (org.blocks.target org.line) = some .func →
        Called start org (org.blocks.target org.line) frame callers ∧
          after.frames = callers ∧ after.line = frame.ret) ∧
      (after.frames ≠ org.frames →
        opcodeAt? org.code (org.blocks.target org.line) = some .func ∧
          ∃ frame, org.frames = frame :: after.frames ∧
            Called start org (org.blocks.target org.line) frame after.frames) := by
  obtain ⟨coherent, nested⟩ := nested_of_run fresh run
  have closesHere := fetch_eq_op_iff.mp closes
  have ran : after = org.runClose := (Except.ok.inj (executes.of_steers closes rfl)).symm
  subst ran
  rcases runClose_cases closesHere with
    ⟨isLoop, back⟩ | ⟨frame, callers, saved, isFunc, back⟩ | ⟨-, ends, onward⟩
  · rw [back]
    refine ⟨fun frame callers _ isFunc => ?_, fun changed => absurd rfl changed⟩
    simp [isLoop] at isFunc
  · have called := (nested.close_eq coherent closesHere isFunc saved).2
    rw [back]
    refine ⟨fun top rest same _ => ?_, fun _ => ⟨isFunc, frame, saved, called⟩⟩
    rw [saved, List.cons.injEq] at same
    obtain ⟨rfl, rfl⟩ := same
    exact ⟨called, rfl, rfl⟩
  · rw [onward]
    refine ⟨fun frame callers saved isFunc => ?_, fun changed => absurd rfl changed⟩
    -- An end that is passed by is not the end of the function called.
    have own := (nested.close_eq coherent closesHere isFunc saved).1
    exact absurd own (ends isFunc frame callers saved)

/-- A program that calls the second of two functions. The first one is not closed, so
both are taken to end on the last line. -/
def calling : Organism :=
  { fresh 0 0 1 .small with
    code := [1, Opcode.call.word, Opcode.func.word, Opcode.func.word, Opcode.close.word] }.rebuild

/-- It has selected the second function. -/
def callingLoaded : Organism := { calling with line := 1, d := Register.ofInt 1 }

/-- What the call saves. -/
def callingFrame : Frame := { ret := 2, d := Register.ofInt 1, a := 0.0, b := 0.0, close := 4 }

/-- It has entered the function. -/
def callingEntered : Organism := { callingLoaded with line := 4, frames := [callingFrame] }

/-- It has come back. -/
def callingReturned : Organism := { callingLoaded with line := 2 }

theorem close_returns_from_own_call_calling :
    calling.StartsFresh ∧ Relation.ReflTransGen Proceeds calling callingEntered ∧
      callingEntered.fetch = some (.op .close) ∧ callingEntered.Executes callingReturned ∧
      callingEntered.frames = [callingFrame] ∧ Called calling callingEntered 3 callingFrame [] ∧
      callingReturned.frames = [] ∧ callingReturned.line = 2 := by
  obtain ⟨world, -, -, -⟩ := World.performAll_small
  have loads : world.executeLine 0 calling = .ok (.next, callingLoaded, world) := by rfl
  have enters : world.executeLine 0 callingLoaded = .ok (.next, callingEntered, world) := by rfl
  have returns : world.executeLine 0 callingEntered = .ok (.next, callingReturned, world) := by rfl
  have run : Relation.ReflTransGen Proceeds calling callingEntered :=
    (Relation.ReflTransGen.single ⟨.inl (.of_ok loads), rfl⟩).tail ⟨.inl (.of_ok enters), rfl⟩
  have fresh : calling.StartsFresh := ⟨rfl, rfl, rfl⟩
  have result :=
    (close_returns_from_own_call fresh run rfl (.of_ok returns)).1 callingFrame [] rfl rfl
  exact ⟨fresh, run, rfl, .of_ok returns, rfl, result⟩

end Organism

end Vivarium
