import Vivarium.Proofs.Safety

/-!
# Calls and returns

Whatever happens during a call, once the stack of callers is as high again as the call
found it, the program is back behind this call, with the callers that were there. And
however an organism lives, it never saves more callers than its configuration has room
for.
-/
namespace Vivarium

variable {config : Config} {ρ : Type}

namespace World

variable [DrawSource ρ] [LawfulDrawSource ρ] {source : ρ} {recording : Bool}
  {start world : World ρ} {calls : List Call}

theorem sound_of_performAll (valid : config.validate = .ok none)
    (created : create config source recording = .ok (.ok start))
    (performed : performAll calls start = .ok world) : world.Sound config none 0 := by
  have accepted := Config.accepted_of_validate valid
  have sound : start.Sound config none 0 :=
    (create_world_endsWell valid source recording).answer _ created start rfl
  exact (performAll_endsWell accepted calls sound).answer world performed

end World

namespace Organism

theorem frames_le_of_becomes (accepted : config.Accepted) {id offset : Nat} {energy : Int}
    {org : Organism} (becomes : (fresh id offset energy config).Becomes org) :
    org.frames.length ≤ config.codeStackSize := by
  have belongs := belongs_fresh accepted id offset energy
  obtain ⟨sound, stackSize⟩ := becomes.sound belongs.sound
  have frames := sound.frames
  rwa [stackSize, belongs.stackSize] at frames

/-- An organism makes a call to a function, with room for one more caller. What follows
are lines and events that keep the course of the program, among them mutations, and no
call on a full stack. The line that first leaves as many callers as the call found has
returned from this call. Only a function header gives `d` back.

Apart from that, at every moment since it was fresh an organism has no more callers than
its configuration says; and so have all organisms of all worlds, for all of them were
fresh once. -/
theorem returns_from_calls [DrawSource ρ] [LawfulDrawSource ρ] :
    (∀ org entered before after : Organism,
      org.fetch = some (.op .call) → org.blocks.functions ≠ [] →
      org.frames.length < org.stackSize → org.Executes entered →
      Relation.ReflTransGen (GoesOn org.frames.length) entered before →
      before.Executes after → ¬ before.Overflows → after.frames.length = org.frames.length →
        after.frames = org.frames ∧ after.line = org.line + 1 ∧
          after.a = org.a ∧ after.b = org.b ∧
          after.d = if before.fetch = some (.op .func) then org.d else before.d) ∧
    ∀ config : Config, config.validate = .ok none →
      (∀ id offset energy org, (fresh id offset energy config).Becomes org →
        org.frames.length ≤ config.codeStackSize) ∧
      ∀ (source : ρ) (recording : Bool) (start world : World ρ) (calls : List Call),
        World.create config source recording = .ok (.ok start) →
        World.performAll calls start = .ok world →
        ∀ slot org, world.pool.get? slot = some org →
          (∃ id offset energy, (fresh id offset energy config).Becomes org) ∧
            org.frames.length ≤ config.codeStackSize := by
  refine ⟨?_, fun config valid => ?_⟩
  · intro org entered before after calls functions room enters goesOn executes noOverflow height
    exact returns_of_goesOn calls functions room enters goesOn executes noOverflow height
  · have accepted := Config.accepted_of_validate valid
    refine ⟨fun id offset energy org => frames_le_of_becomes accepted, ?_⟩
    intro source recording start world calls created performed slot org live
    have sound := World.sound_of_performAll valid created performed
    obtain ⟨id, offset, energy, becomes⟩ := (sound.pool.residents slot org live).born
    exact ⟨⟨id, offset, energy, becomes⟩, frames_le_of_becomes accepted becomes⟩

/-- A program with two functions, of which the second one calls the first one before it
gets to the header of a third one. -/
def nesting (line : Nat) (d : Float) (frames : List Frame) : Organism :=
  { fresh 0 0 1 .small with
    code := [1, Opcode.call.word, Opcode.func.word, Opcode.close.word, Opcode.func.word, 0,
      Opcode.call.word, Opcode.func.word]
    stackSize := 2
    line
    d
    frames }.rebuild

/-- What the call of the second function saves. -/
def nestingOuter : Frame := { ret := 2, d := Register.ofInt 1, a := 0.0, b := 0.0, close := 7 }

/-- What the call of the first function saves. -/
def nestingInner : Frame := { ret := 7, d := Register.ofInt 0, a := 0.0, b := 0.0, close := 3 }

/-- The second function has been selected. -/
def nestingCalls : Organism := nesting 1 (Register.ofInt 1) []

def nestingEntered : Organism := nesting 5 (Register.ofInt 1) [nestingOuter]

/-- The first function has been selected. -/
def nestingCallsInner : Organism := nesting 6 (Register.ofInt 0) [nestingOuter]

def nestingEnteredInner : Organism := nesting 3 (Register.ofInt 0) [nestingInner, nestingOuter]

/-- The first function has returned; the header is next. -/
def nestingHeader : Organism := nesting 7 (Register.ofInt 0) [nestingOuter]

/-- The second function has returned, with the `d` that selected it. -/
def nestingReturned : Organism := nesting 2 (Register.ofInt 1) []

set_option maxRecDepth 20000 in
theorem returns_from_calls_nesting :
    (nestingCalls.Executes nestingEntered ∧
      Relation.ReflTransGen (GoesOn 0) nestingEntered nestingHeader ∧
      nestingHeader.Executes nestingReturned ∧ nestingReturned.frames = nestingCalls.frames ∧
      nestingReturned.line = 2 ∧ nestingReturned.d = nestingCalls.d) ∧
    ∃ (start : World Generator) (org : Organism),
      World.create .small (.ofSeed 7) false = .ok (.ok start) ∧ start.pool.get? 0 = some org ∧
        org.frames.length ≤ 1 := by
  obtain ⟨world, -, created, -⟩ := World.performAll_small
  have valid := ((World.create_eq_ok_iff _ _ _ _).mp created).1.valid
  have enters : world.executeLine 0 nestingCalls = .ok (.next, nestingEntered, world) := by rfl
  have reads : world.executeLine 0 nestingEntered = .ok (.next, nestingCallsInner, world) := by rfl
  have entersInner : world.executeLine 0 nestingCallsInner =
      .ok (.next, nestingEnteredInner, world) := by rfl
  have returnsInner : world.executeLine 0 nestingEnteredInner =
      .ok (.next, nestingHeader, world) := by rfl
  have returns : world.executeLine 0 nestingHeader = .ok (.next, nestingReturned, world) := by rfl
  -- Only the innermost state has a full stack, and there no call is next.
  have roomy : ¬ nestingEntered.Overflows ∧ ¬ nestingCallsInner.Overflows ∧
      ¬ nestingEnteredInner.Overflows ∧ ¬ nestingHeader.Overflows :=
    ⟨fun full => absurd full.2.2 (by decide), fun full => absurd full.2.2 (by decide),
      fun full => (nomatch full.1), fun full => absurd full.2.2 (by decide)⟩
  have goesOn : Relation.ReflTransGen (GoesOn 0) nestingEntered nestingHeader :=
    ((Relation.ReflTransGen.single ⟨.inl ⟨.of_ok reads, roomy.1⟩, nofun⟩).tail
      ⟨.inl ⟨.of_ok entersInner, roomy.2.1⟩, nofun⟩).tail
        ⟨.inl ⟨.of_ok returnsInner, roomy.2.2.1⟩, nofun⟩
  obtain ⟨symmetric, bounded⟩ := returns_from_calls (ρ := Generator)
  have result := symmetric nestingCalls nestingEntered nestingHeader nestingReturned rfl nofun
    (by decide) (.of_ok enters) goesOn (.of_ok returns) roomy.2.2.2 rfl
  refine ⟨⟨.of_ok enters, goesOn, .of_ok returns, result.1, result.2.1, result.2.2.2.2⟩, ?_⟩
  refine ⟨_, _, rfl, rfl, ?_⟩
  exact ((bounded .small valid).2 (.ofSeed 7) false _ _ [] rfl rfl 0 _ rfl).2

end Organism

end Vivarium
