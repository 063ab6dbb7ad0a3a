import Vivarium.Proofs.Safety.Worlds
import Vivarium.Proofs.BlockTable.Nesting

/-!
# Lines and slices end well

What an instruction can meet is decided by what it reads: a call selects an entry of
the functions of its own genome, none of which is on the first line, and a meal or a
fusion asks for the surface of energy, which is there.
-/
namespace Vivarium

variable {config : Config}

/-! ### Instructions of the program -/

namespace Organism

theorem runLoop_endsWell (org : Organism) : EndsWell config org.runLoop (fun _ => True) :=
  (Amount.guard_endsWell rfl _).bind fun _ _ _ => .pure trivial

theorem Coherent.one_le_start {org : Organism} (coherent : org.Coherent) {start : Nat}
    (member : start ∈ org.blocks.functions) : 1 ≤ start := by
  rw [coherent.functions] at member
  obtain ⟨header, place, -⟩ := BlockTable.mem_functionStarts.mp member
  omega

/-- The function selected is one of the table, and its body has a header before it. -/
theorem runCall_endsWell {org : Organism} (coherent : org.Coherent) :
    EndsWell config org.runCall (fun _ => True) := by
  unfold runCall
  simp only
  split
  next => exact .ok trivial
  next some =>
    refine (Count.rem_endsWell some).bind fun selected _ rest => ?_
    have inside : selected < org.blocks.functions.length := by
      rw [rest]
      exact Nat.mod_lt _ (Nat.pos_of_ne_zero some)
    have entry : entryAt org.blocks.functions selected = .ok org.blocks.functions[selected] := by
      rw [entryAt_eq_ok_iff]
      exact List.getElem?_eq_getElem inside
    rw [entry]
    have positive := coherent.one_le_start (List.getElem_mem inside)
    exact (Count.sub_endsWell positive).bind fun _ _ _ => .pure trivial

theorem execute_endsWell {org : Organism} (coherent : org.Coherent) (opcode : Opcode) :
    EndsWell config (org.execute opcode) (fun _ => True) := by
  unfold execute
  split
  next => exact org.runLoop_endsWell
  case h_5 => exact runCall_endsWell coherent
  all_goals exact .ok trivial

end Organism

namespace World

variable {ρ : Type} {world : World ρ} {out : Option Nat} {lines : Nat}

/-! ### Instructions on the world -/

theorem walk_endsWell (sound : world.Sound config out lines) (slot : Nat) (org : Organism)
    (delay : Nat) :
    EndsWell config (world.walk slot org delay) (fun done => done.2.2.Sound config out lines) := by
  unfold walk
  refine (Count.add_endsWell _ _ _).bind fun steps _ _ => ?_
  split
  next => exact (charge_endsWell sound _ _).bind fun ⟨_, _⟩ _ paid => .pure paid
  next =>
    simp only
    split
    next => exact .pure sound
    next target _ =>
      split
      next => exact .pure sound
      next =>
        have moved : { world with
            grid := world.grid.moveOrganism org.offset target slot org.beneath }.Sound config out
              lines :=
          { sound with kept := ⟨sound.kept.1, (sound.kept.2.set _ _).set _ _⟩ }
        exact (charge_endsWell moved _ _).bind fun ⟨_, _⟩ _ paid => .pure paid

theorem eatToken_endsWell (sound : world.Sound config out lines) (org : Organism) (target : Nat)
    (token : Token) :
    EndsWell config (world.eatToken org target token)
      (fun done => done.2.2.Sound config out lines) := by
  refine (onSurface_endsWell (fun surface grid consistent wide =>
    Surface.remove_endsWell ⟨consistent, wide⟩ target false) sound.kept energyKind).bind
      fun ⟨eaten, _, _⟩ _ done => ?_
  obtain ⟨removed, rfl⟩ := Option.isSome_iff_exists.mp (done.2.2 sound.energy)
  exact (credit_endsWell (sound.ground done.1 done.2.1) _ _).bind fun ⟨_, _⟩ _ fed => .pure fed

theorem runGet_endsWell (sound : world.Sound config out lines) (org : Organism) :
    EndsWell config (world.runGet org) (fun done => done.2.Sound config out lines) := by
  unfold runGet
  simp only
  split
  next => exact .ok sound
  next target kind _ =>
    refine (onSurface_endsWell (fun surface grid consistent wide =>
      Surface.remove_endsWell ⟨consistent, wide⟩ target true) sound.kept kind).bind
        fun ⟨_, _, _⟩ _ done => ?_
    have ground := sound.ground done.1 done.2.1
    simp only
    split <;> exact .pure ground

theorem putAt_endsWell (sound : world.Sound config out lines) (org : Organism)
    (packet : Option Token) (target : Option Nat) :
    EndsWell config (world.putAt org packet target)
      (fun done => done.2.Sound config out lines) := by
  unfold putAt
  split
  next packet target =>
    refine (onSurface_endsWell (fun surface grid consistent wide => ?_) sound.kept
      packet.kind).bind fun ⟨_, _, _⟩ _ done => ?_
    · have kept : surface.Kept grid := ⟨consistent, wide⟩
      exact .ok (kept.place target packet)
    · have ground := sound.ground done.1 done.2.1
      simp only
      split <;> exact .pure ground
  next => exact .ok sound

theorem runMix_endsWell (sound : world.Sound config out lines) (org : Organism) :
    EndsWell config (world.runMix org) (fun done => done.2.Sound config out lines) := by
  unfold runMix
  simp only
  split
  next => exact .ok sound
  next target packet _ =>
    refine (onSurface_endsWell (fun surface grid consistent wide =>
      Surface.merge_endsWell ⟨consistent, wide⟩ target packet) sound.kept energyKind).bind
        fun ⟨fused, _, _⟩ _ done => ?_
    have ground := sound.ground done.1 done.2.1
    obtain ⟨merged, rfl⟩ := Option.isSome_iff_exists.mp (done.2.2 sound.energy)
    simp only
    split
    next none => cases none
    all_goals exact .pure ground

variable [DrawSource ρ] [LawfulDrawSource ρ]

theorem irradiate_endsWell (sound : world.Sound config out lines) (org : Organism)
    (radiation : Float) :
    EndsWell config (world.irradiate org radiation)
      (fun done => done.2.Sound config out lines) := by
  unfold irradiate
  simp only
  split
  next =>
    exact (Organism.mutate_endsWell _ _).bind fun ⟨_, _, _⟩ _ _ => .pure { sound with }
  next => exact .ok sound

theorem runStep_endsWell (sound : world.Sound config out lines) (slot : Nat) (org : Organism) :
    EndsWell config (world.runStep slot org) (fun done => done.2.2.Sound config out lines) := by
  unfold runStep
  simp only
  split
  next => exact walk_endsWell sound _ _ _
  next =>
    refine (charge_endsWell sound _ _).bind fun ⟨_, _⟩ _ paid => ?_
    simp only
    split
    next =>
      refine (irradiate_endsWell paid _ _).bind fun ⟨_, _⟩ _ dosed => ?_
      exact walk_endsWell dosed _ _ _
    next => exact .pure paid

theorem eatOrganism_endsWell (sound : world.Sound config out lines) (org : Organism)
    (victim : Nat) (amount : Int) :
    EndsWell config (world.eatOrganism org victim amount)
      (fun done => done.2.2.Sound config out lines) := by
  unfold eatOrganism
  split
  next => exact .ok sound
  next prey live =>
    refine (Amount.sub_endsWell _ _).bind fun left _ _ => ?_
    refine (Amount.add_endsWell _ _).bind fun energy _ _ => ?_
    have kept : prey.KeepsCourse { prey with energy := left } :=
      { Organism.KeepsCourse.refl prey with }
    have bitten : { world with
        pool := world.pool.update victim { prey with energy := left } }.Sound config out lines :=
      { sound with
        pool := sound.pool.update live (kept.belongs (sound.pool.residents victim prey live)) }
    simp only
    split
    next => exact (kill_endsWell bitten victim).bind fun ⟨_, _⟩ _ killed => .pure killed
    next => exact .pure bitten

theorem eatAt_endsWell (sound : world.Sound config out lines) (org : Organism)
    (target : Option Nat) :
    EndsWell config (world.eatAt org target) (fun done => done.2.2.Sound config out lines) := by
  cases target with
  | none => exact .ok sound
  | some target =>
    unfold eatAt
    simp only
    split
    next => exact .ok sound
    next =>
      split
      next => exact eatOrganism_endsWell sound _ _ _
      next => exact .ok sound
    next =>
      split
      next => exact eatToken_endsWell sound _ _ _
      next => exact .ok sound

theorem oneIn_endsWell (every : Nat) (source : ρ) :
    EndsWell config (oneIn every source) (fun _ => True) := by
  unfold oneIn
  split
  next => exact .ok trivial
  next some =>
    exact (Draw.below_endsWell _ (Nat.pos_of_ne_zero some) _).bind fun ⟨_, _⟩ _ _ => .pure trivial

/-- What becomes of a child before it is adopted keeps it, and the world. -/
theorem mutateClone_endsWell (sound : world.Sound config out lines) {child : Organism}
    (belongs : child.Belongs config) :
    EndsWell config (world.mutateClone child)
      (fun done => done.1.Belongs config ∧ done.2.Sound config out lines) := by
  refine (oneIn_endsWell _ _).bind fun ⟨chosen, _⟩ _ _ => ?_
  simp only
  split
  next =>
    refine (Organism.mutate_endsWell _ _).bind fun ⟨_, _, _⟩ mutated _ => ?_
    exact .pure ⟨(Organism.keepsCourse_mutate mutated).belongs belongs, { sound with }⟩
  next => exact .pure ⟨belongs, { sound with }⟩

theorem crossClone_endsWell (sound : world.Sound config out lines) {child : Organism}
    (belongs : child.Belongs config) :
    EndsWell config (world.crossClone child)
      (fun done => done.1.Belongs config ∧ done.2.Sound config out lines) := by
  refine (oneIn_endsWell _ _).bind fun ⟨chosen, _⟩ _ _ => ?_
  simp only
  split
  next =>
    refine (Draw.position_endsWell sound.pool.capacity _).bind fun ⟨slot, _⟩ _ _ => ?_
    simp only
    split
    next => exact .pure ⟨belongs, { sound with }⟩
    next =>
      refine (Organism.crossover_endsWell _ _ _).bind fun ⟨_, _, _⟩ crossed _ => ?_
      exact .pure ⟨(Organism.keepsCourse_crossover crossed).belongs belongs, { sound with }⟩
  next => exact .pure ⟨belongs, { sound with }⟩

theorem offspring_endsWell (accepted : config.Accepted) {org : Organism}
    (positive : 1 ≤ org.period) (id offset : Nat) (energy : Int) :
    EndsWell config (org.offspring id offset energy config)
      (fun child => child.Belongs config) := by
  refine (create_endsWell accepted id offset energy).bind fun fresh _ belongs => .pure ?_
  -- A child takes the genome over before its first line, with a table of its own.
  have endowed : fresh.KeepsCourse (org.endow fresh) :=
    { line := rfl
      frames := rfl
      stackSize := rfl
      blocks := .inr rfl
      period := fun _ => positive }
  exact endowed.belongs belongs

theorem bear_endsWell (accepted : config.Accepted) (sound : world.Sound config out lines)
    {org : Organism} (positive : 1 ≤ org.period) (target : Nat) :
    EndsWell config (world.bear org target) (fun done => done.2.2.Sound config out lines) := by
  unfold bear
  simp only
  split
  next => exact .ok sound
  next =>
    refine (allocateId_endsWell sound).bind fun ⟨id, named⟩ _ sound => ?_
    simp only at sound ⊢
    rw [sound.settings]
    refine (offspring_endsWell accepted positive _ _ _).bind fun child _ belongs => ?_
    refine (charge_endsWell sound _ _).bind fun ⟨_, _⟩ _ paid => ?_
    refine (mutateClone_endsWell paid belongs).bind fun ⟨_, _⟩ _ mutated => ?_
    refine (crossClone_endsWell mutated.2 mutated.1).bind fun ⟨_, _⟩ _ crossed => ?_
    exact (adopt_endsWell crossed.2 crossed.1).bind fun ⟨_, _⟩ _ adopted => .pure adopted

theorem runClone_endsWell (accepted : config.Accepted) (sound : world.Sound config out lines)
    {org : Organism} (positive : 1 ≤ org.period) :
    EndsWell config (world.runClone org) (fun done => done.2.2.Sound config out lines) := by
  have silent : 1 ≤ ({ org.advance with b := 0.0 } : Organism).period := positive
  unfold runClone
  simp only
  split
  next => exact .ok sound
  next =>
    split
    next => exact .ok sound
    next =>
      split
      next => exact bear_endsWell accepted sound silent _
      next => exact .ok sound

omit [LawfulDrawSource ρ] in
theorem runRand_endsWell (sound : world.Sound config out lines) (org : Organism) :
    EndsWell config (world.runRand org) (fun done => done.2.Sound config out lines) :=
  (Draw.between_endsWell _ (by decide) _).bind fun ⟨_, _⟩ _ _ => .pure { sound with }

omit [DrawSource ρ] [LawfulDrawSource ρ] in
theorem goOn_endsWell {done : Outcome (Organism × World ρ)}
    (well : EndsWell config done (fun done => done.2.Sound config out lines)) :
    EndsWell config (goOn done) (fun done => done.2.2.Sound config out lines) :=
  well.bind fun ⟨_, _⟩ _ sound => .pure sound

/-! ### Lines -/

theorem runOpcode_endsWell (accepted : config.Accepted) (sound : world.Sound config out lines)
    {org : Organism} (own : org.Sound) (slot : Nat) (opcode : Opcode) :
    EndsWell config (world.runOpcode slot org opcode)
      (fun done => done.2.2.Sound config out lines) := by
  unfold runOpcode
  split
  next => exact runStep_endsWell sound _ _
  next =>
    unfold runEat
    exact eatAt_endsWell sound _ _
  next => exact runClone_endsWell accepted sound own.period
  next => exact .ok sound
  next => exact goOn_endsWell (runRand_endsWell sound _)
  next => exact goOn_endsWell (runGet_endsWell sound _)
  next => exact goOn_endsWell (putAt_endsWell sound org.advance org.packet _)
  next => exact goOn_endsWell (runMix_endsWell sound _)
  next => exact (Organism.execute_endsWell own.coherent _).bind fun _ _ _ => .pure sound

theorem executeLine_endsWell (accepted : config.Accepted) (sound : world.Sound config out lines)
    {org : Organism} (belongs : org.Belongs config) (slot : Nat) :
    EndsWell config (world.executeLine slot org)
      (fun done => done.2.1.Belongs config ∧ done.2.2.Sound config out lines) := by
  have ends : EndsWell config (world.executeLine slot org)
      (fun done => done.2.2.Sound config out lines) := by
    unfold executeLine
    split
    next => exact .ok sound
    next => exact .ok sound
    next => exact .ok sound
    next => exact runOpcode_endsWell accepted sound belongs.sound _ _
  refine ends.mono fun ⟨_, _, _⟩ executed sound => ⟨?_, sound⟩
  have executes : org.Executes _ := .of_ok executed
  exact executes.belongs belongs

theorem executeLines_endsWell (accepted : config.Accepted) (slot count : Nat) {org : Organism}
    (sound : world.Sound config out lines) (belongs : org.Belongs config) :
    EndsWell config (executeLines slot count org world)
      (fun done => done.2.1.Belongs config ∧ done.2.2.Sound config out lines) := by
  induction count generalizing org world with
  | zero => exact .ok ⟨belongs, sound⟩
  | succ count ih =>
    refine (executeLine_endsWell accepted sound belongs slot).bind fun ⟨flow, _, _⟩ _ done => ?_
    cases flow with
    | next => exact ih done.2 done.1
    | stop => exact .pure done
    | die => exact .pure done

/-! ### Slices -/

theorem settle_endsWell {slot : Nat} (sound : world.Sound config (some slot) lines)
    {org : Organism} (belongs : org.Belongs config) (fate : Fate) :
    EndsWell config (world.settle slot org fate) (fun next => next.Sound config none lines) := by
  cases fate with
  | alive => exact .ok { sound with pool := sound.pool.restore belongs }
  | dead =>
    refine (bury_endsWell sound org).bind fun buried _ sound => ?_
    refine (Pool.release_endsWell sound.pool).bind fun pool released _ => .pure ?_
    exact { sound with pool := sound.pool.release released }

theorem runOrganism_endsWell (accepted : config.Accepted) (sound : world.Sound config none lines)
    (slot count : Nat) :
    EndsWell config (world.runOrganism slot count)
      (fun done => done.2.Sound config none lines) := by
  unfold runOrganism
  split
  next => exact .ok sound
  next org pool taken =>
    obtain ⟨lent, belongs⟩ := sound.pool.take taken
    have taken : { world with pool }.Sound config (some slot) lines := { sound with pool := lent }
    refine (executeLines_endsWell accepted slot count taken belongs).bind
      fun ⟨_, _, _⟩ _ executed => ?_
    exact (settle_endsWell executed.2 executed.1 _).bind fun _ _ settled => .pure settled

end World

end Vivarium
