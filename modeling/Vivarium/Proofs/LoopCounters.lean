import Vivarium.Proofs.BlockTable.Matching
import Vivarium.Proofs.Residents
import Vivarium.Proofs.Structured

/-!
# Loop counters

A loop at rest reads its turns from `d` before it takes one off, so it comes to rest on -1
and goes no lower. Only a loop on the last line, whose block is the loop alone, reads none: it
takes turns off that it never had, and does not run either. No other instruction touches a
counter, and a mutation sets all of them to rest.
-/
namespace Vivarium

namespace BlockTable

variable {table : BlockTable} {code : Genome} {line opener : Nat}

/-- A loop on the last line: its block has neither an end nor a line. -/
def Bodiless (code : Genome) (line : Nat) : Prop :=
  opcodeAt? code line = some .loop ∧ line + 1 = code.length

theorem opens_of_loop (isLoop : opcodeAt? code line = some .loop) : Opens code line :=
  ⟨.loop, isLoop, rfl⟩

/-- The next line is the target of an opener only if there is no next line. -/
theorem lt_target_iff (opens : Opens code opener) :
    opener + 1 < (ofGenome code).target opener ↔ opener + 1 ≠ code.length := by
  rcases waits_or_closed opens opens.lt_length with waits | ⟨close, later, inside, ends, stack⟩
  · rw [target_of_unclosed waits]
    have inside := opens.lt_length
    omega
  · rw [(target_of_close ends stack).2]
    omega

/-- How the counters of a table stand. -/
structure Counts (table : BlockTable) (code : Genome) : Prop where
  /-- Only loops count. -/
  loops : ∀ line, opcodeAt? code line ≠ some .loop → table.counter line = -1
  /-- The turns of a loop can be taken off, the last of them too. -/
  turns : ∀ line, ¬ Bodiless code line → -1 ≤ table.counter line ∧ table.counter line ≤ maxAmount
  /-- A loop without a body has no turns. -/
  bodiless : ∀ line, Bodiless code line → table.counter line ≤ -1

theorem counts_ofGenome (code : Genome) : (ofGenome code).Counts code where
  loops := fun line _ => counter_ofGenome code line
  turns := by
    intro line _
    rw [counter_ofGenome]
    decide
  bodiless := fun line _ => Int.le_of_eq (counter_ofGenome code line)

/-- A loop sets its counter. -/
theorem Counts.setCounter (counts : table.Counts code) (fits : table.Fits code) {value : Int}
    (isLoop : opcodeAt? code line = some .loop)
    (turns : ¬ Bodiless code line → -1 ≤ value ∧ value ≤ maxAmount)
    (bodiless : Bodiless code line → value ≤ -1) : (table.setCounter line value).Counts code := by
  have inside : line < table.counters.size :=
    fits.counters ▸ (opens_of_loop isLoop).lt_length
  have read := fun place => counter_setCounter table line place value inside
  constructor
  case loops =>
    intro place noLoop
    rw [read]
    split
    next here =>
      subst here
      exact absurd isLoop noLoop
    next => exact counts.loops place noLoop
  case turns =>
    intro place body
    rw [read]
    split
    next here =>
      subst here
      exact turns body
    next => exact counts.turns place body
  case bodiless =>
    intro place none
    rw [read]
    split
    next here =>
      subst here
      exact bodiless none
    next => exact counts.bodiless place none

end BlockTable

namespace Organism

open BlockTable (Bodiless opcodeAt?)

variable {start org after : Organism}

/-! ### What a line does to the table -/

/-- A steering instruction other than a loop leaves the table alone. -/
theorem blocks_execute {opcode : Opcode} (fetched : org.fetch = some (.op opcode))
    (steers : opcode.steers = true) (noLoop : opcode ≠ .loop)
    (ran : org.execute opcode = .ok after) :
    after.code = org.code ∧ after.blocks = org.blocks := by
  cases opcode
  case loop => exact absurd rfl noLoop
  case ifGreater | ifLess | ifEqual =>
    cases ran
    exact ⟨rfl, rfl⟩
  case call =>
    rcases runCall_cases ran with ⟨-, rfl⟩ | ⟨start, frame, -, -, -, rfl⟩
    · exact ⟨rfl, rfl⟩
    · unfold pushFrame
      split <;> exact ⟨rfl, rfl⟩
  case func =>
    cases ran
    cases saved : org.frames with
    | nil =>
      rw [runHeader_of_nil saved]
      exact ⟨rfl, rfl⟩
    | cons frame callers =>
      rw [runHeader_of_frames saved]
      exact ⟨rfl, rfl⟩
  case ret =>
    cases ran
    cases saved : org.frames with
    | nil =>
      rw [runReturn_of_nil saved]
      exact ⟨rfl, rfl⟩
    | cons frame callers =>
      rw [runReturn_of_frames saved]
      exact ⟨rfl, rfl⟩
  case close =>
    cases ran
    rcases runClose_cases (fetch_eq_op_iff.mp fetched) with
      ⟨-, back⟩ | ⟨frame, callers, -, -, back⟩ | ⟨-, -, back⟩ <;>
    · rw [back]
      exact ⟨rfl, rfl⟩
  all_goals cases steers

/-- A line is a loop, leaves the table alone, or mutates the organism. -/
theorem Executes.blocks_cases (executes : org.Executes after) :
    (org.fetch = some (.op .loop) ∧ org.runLoop = .ok after) ∨
      (after.code = org.code ∧ after.blocks = org.blocks) ∨
      after.blocks = .ofGenome after.code := by
  rcases executes.cases with ⟨-, rfl⟩ | ⟨opcode, fetched, steers, ran⟩ | ⟨-, kept⟩
  · right; left
    cases saved : org.frames with
    | nil =>
      rw [leaveCode_of_nil saved]
      exact ⟨rfl, rfl⟩
    | cons frame callers =>
      rw [leaveCode_of_frames saved]
      exact ⟨rfl, rfl⟩
  · by_cases isLoop : opcode = .loop
    · subst isLoop
      exact .inl ⟨fetched, ran⟩
    · exact .inr (.inl (blocks_execute fetched steers isLoop ran))
  · exact .inr kept.blocks

/-- A loop takes one off the turns that are left. -/
theorem runLoop_eq_ok (ran : org.runLoop = .ok after) :
    after.code = org.code ∧ after.blocks = org.blocks.setCounter org.line (org.pending - 1) := by
  obtain ⟨counter, taken, answer⟩ := (bind_eq_ok_iff _ _ _).mp ran
  obtain ⟨-, rfl⟩ := (Amount.guard_eq_ok_iff _ _ _).mp taken
  cases answer
  exact ⟨rfl, rfl⟩

/-! ### Counting -/

/-- The table belongs to the genome, and so do its counters. -/
structure Counting (org : Organism) : Prop where
  coherent : org.Coherent
  counts : org.blocks.Counts org.code

namespace Counting

theorem of_rebuilt (rebuilt : org.blocks = .ofGenome org.code) : org.Counting where
  coherent := by
    unfold Coherent
    rw [rebuilt]
    exact BlockTable.fits_ofGenome org.code
  counts := by
    rw [rebuilt]
    exact BlockTable.counts_ofGenome org.code

theorem of_blocks (counting : org.Counting)
    (blocks : after.code = org.code ∧ after.blocks = org.blocks ∨
      after.blocks = .ofGenome after.code) : after.Counting := by
  rcases blocks with ⟨code, same⟩ | rebuilt
  · obtain ⟨coherent, counts⟩ := counting
    unfold Coherent at coherent
    constructor
    · unfold Coherent
      rwa [code, same]
    · rwa [code, same]
  · exact of_rebuilt rebuilt

/-- A loop that has a body starts from turns that are none or more: those left, or those
just read. -/
theorem pending_mem (counting : org.Counting)
    (isLoop : opcodeAt? org.code org.line = some .loop) (body : ¬ Bodiless org.code org.line) :
    0 ≤ org.pending ∧ org.pending ≤ maxAmount := by
  have leadsOn : org.line + 1 < org.blocks.target org.line := by
    rw [counting.coherent.target, BlockTable.lt_target_iff (BlockTable.opens_of_loop isLoop)]
    exact fun last => body ⟨isLoop, last⟩
  unfold pending
  split
  next => exact Amount.magnitude_mem _
  next running =>
    -- Not at rest, since the block leads on; so there are turns left.
    have bounds := counting.counts.turns org.line body
    omega

/-- A loop without a body starts from what its last turn left. -/
theorem pending_of_bodiless (counting : org.Counting) (none : Bodiless org.code org.line) :
    org.pending = org.blocks.counter org.line := by
  apply if_neg
  rw [counting.coherent.target, BlockTable.lt_target_iff (BlockTable.opens_of_loop none.1)]
  exact fun reads => reads.2 none.2

/-- A loop that has a body takes its turn, and comes to rest on -1. -/
theorem runLoop (counting : org.Counting) (isLoop : opcodeAt? org.code org.line = some .loop)
    (body : ¬ Bodiless org.code org.line) :
    ∃ after, org.runLoop = .ok after ∧ -1 ≤ after.blocks.counter org.line := by
  obtain ⟨some, most⟩ := counting.pending_mem isLoop body
  have inside : org.line < org.blocks.counters.size :=
    counting.coherent.counters ▸ (BlockTable.opens_of_loop isLoop).lt_length
  refine ⟨_, org.runLoop_eq some most, ?_⟩
  change -1 ≤ (org.blocks.setCounter org.line (org.pending - 1)).counter org.line
  rw [BlockTable.counter_setCounter _ _ _ _ inside, if_pos rfl]
  omega

theorem executes (counting : org.Counting) (executes : org.Executes after) : after.Counting := by
  rcases executes.blocks_cases with ⟨fetched, ran⟩ | kept
  · have isLoop := fetch_eq_op_iff.mp fetched
    obtain ⟨code, blocks⟩ := runLoop_eq_ok ran
    have counts : (org.blocks.setCounter org.line (org.pending - 1)).Counts org.code := by
      refine counting.counts.setCounter counting.coherent isLoop (fun body => ?_) fun none => ?_
      · have bounds := counting.pending_mem isLoop body
        omega
      -- Nothing has been read here, so the counter sinks below what it was.
      · have atRest := counting.counts.bodiless org.line none
        rw [counting.pending_of_bodiless none]
        omega
    refine ⟨executes.coherent counting.coherent, ?_⟩
    rwa [code, blocks]
  · exact counting.of_blocks kept

theorem keepsCourse (counting : org.Counting) (kept : org.KeepsCourse after) : after.Counting :=
  counting.of_blocks kept.blocks

/-- By induction on the life of an organism. -/
theorem becomes (counting : org.Counting) (becomes : org.Becomes after) : after.Counting := by
  induction becomes with
  | refl => exact counting
  | tail _ event ih =>
    rcases event with executes | kept
    · exact ih.executes executes
    · exact ih.keepsCourse kept

end Counting

/-- Whatever has happened to an organism since its loops were at rest: a loop that has a body
comes to rest on -1, and no turn brings it lower; one without a body never has a turn, and
nothing else counts. -/
theorem becomes_counts (fresh : start.blocks = .ofGenome start.code) (becomes : start.Becomes org) :
    (∀ line, opcodeAt? org.code line ≠ some .loop → org.blocks.counter line = -1) ∧
      (∀ line, ¬ Bodiless org.code line → -1 ≤ org.blocks.counter line) ∧
      (∀ line, Bodiless org.code line → org.blocks.counter line ≤ -1) ∧
      (opcodeAt? org.code org.line = some .loop → ¬ Bodiless org.code org.line →
        ∃ after, org.runLoop = .ok after ∧ -1 ≤ after.blocks.counter org.line) := by
  have counting : org.Counting := (Counting.of_rebuilt fresh).becomes becomes
  refine ⟨counting.counts.loops, fun line body => ?_, counting.counts.bodiless, ?_⟩
  · exact (counting.counts.turns line body).1
  · exact counting.runLoop

/-- A program with one loop, which turns once. -/
def turning : Organism :=
  { fresh 0 0 1 .small with
    code := [1, Opcode.loop.word, Opcode.close.word] }.rebuild

def turningLoaded : Organism := { turning with line := 1, d := Register.ofInt 1 }

/-- The one turn has been taken off. -/
def turningInside : Organism :=
  { turningLoaded with line := 2, blocks := turning.blocks.setCounter 1 0 }

def turningBack : Organism := { turningInside with line := 1 }

theorem becomes_counts_turning :
    turning.blocks = .ofGenome turning.code ∧ turning.Becomes turningBack ∧
      turningBack.blocks.counter 0 = -1 ∧ turningBack.blocks.counter 1 = 0 ∧
      (∀ line, -1 ≤ turningBack.blocks.counter line) ∧
      ∃ after, turningBack.runLoop = .ok after ∧ -1 ≤ after.blocks.counter 1 := by
  obtain ⟨world, -, -, -⟩ := World.performAll_small
  have loads : world.executeLine 0 turning = .ok (.next, turningLoaded, world) := by rfl
  have enters : world.executeLine 0 turningLoaded = .ok (.next, turningInside, world) := by rfl
  have back : world.executeLine 0 turningInside = .ok (.next, turningBack, world) := by rfl
  have becomes : turning.Becomes turningBack :=
    ((Relation.ReflTransGen.single (.inl (.of_ok loads))).tail (.inl (.of_ok enters))).tail
      (.inl (.of_ok back))
  obtain ⟨loops, turns, -, goesOn⟩ := becomes_counts rfl becomes
  -- The last line is an end, so the loop has a body.
  have bodies : ∀ line, ¬ Bodiless turningBack.code line := by
    rintro line ⟨isLoop, last⟩
    obtain rfl : line = 2 := Nat.succ.inj last
    exact absurd isLoop (by decide)
  exact ⟨rfl, becomes, loops 0 (by decide), rfl, fun line => turns line (bodies line),
    goesOn rfl (bodies 1)⟩

/-- A loop, and nothing else. -/
def lone : Organism := { fresh 0 0 1 .small with code := [Opcode.loop.word] }.rebuild

/-- The loop has taken off a turn that it never had. -/
def loneAfter : Organism := { lone with line := 1, blocks := lone.blocks.setCounter 0 (-2) }

theorem counter_below_rest_lone :
    lone.blocks = .ofGenome lone.code ∧ lone.Becomes loneAfter ∧
      ¬ ∀ line, -1 ≤ loneAfter.blocks.counter line := by
  obtain ⟨world, -, -, -⟩ := World.performAll_small
  have turn : world.executeLine 0 lone = .ok (.next, loneAfter, world) := by rfl
  exact ⟨rfl, .single (.inl (.of_ok turn)), fun domain => absurd (domain 0) (by decide)⟩

/-- What holds of the counters holds for life. -/
theorem lifelong_counting : Lifelong Counting where
  placed := fun _ _ _ _ _ => .of_rebuilt rfl
  endowed := fun _ _ _ _ _ => .of_rebuilt rfl
  executes := Counting.executes
  varies := by
    intro org after counting varies
    cases varies with
    | mutates mutated => exact counting.keepsCourse (keepsCourse_mutate mutated)
    | crosses crossed => exact counting.keepsCourse (keepsCourse_crossover crossed)
  lives := fun counting _ _ => { counting with }

end Organism

/-- Whatever is called, the counters of each organism in a world are in their domain. -/
theorem World.performAll_counting {ρ : Type} [DrawSource ρ] {config : Config} {source : ρ}
    {recording : Bool} {start world : World ρ} {calls : List Call}
    (created : create config source recording = .ok (.ok start))
    (performed : performAll calls start = .ok world) : world.pool.All Organism.Counting :=
  all_of_performAll Organism.lifelong_counting created performed

end Vivarium
