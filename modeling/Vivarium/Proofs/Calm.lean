import Vivarium.World.Population

/-!
# Operations that are calm about energy

An operation is calm if no fault it meets comes from adding or subtracting energy. An
operation is taken apart at its binds, and what comes after may rely on the answer before
it. Here are all the operations that leave energy alone; counts, draws, positions and
storage have faults of their own.
-/
namespace Vivarium

/-- No fault of the operation comes from adding or subtracting energy. -/
def Calm {α : Type} (outcome : Outcome α) : Prop :=
  ∀ fault, outcome = .error fault → fault.isEnergy = false

namespace Calm

variable {α β : Type} {outcome : Outcome α}

theorem ok (answer : α) : Calm (.ok answer) := nofun

theorem of_ok {answer : α} (answered : outcome = .ok answer) : Calm outcome :=
  answered ▸ ok answer

theorem pure (answer : α) : Calm (Pure.pure answer : Outcome α) := ok answer

theorem error {fault : Fault} (other : fault.isEnergy = false) :
    Calm (.error fault : Outcome α) := by
  rintro _ ⟨⟩
  exact other

theorem bind {rest : α → Outcome β} (first : Calm outcome)
    (next : ∀ answer, outcome = .ok answer → Calm (rest answer)) : Calm (outcome >>= rest) := by
  cases outcome with
  | error fault => exact error (first fault rfl)
  | ok answer => exact next answer rfl

end Calm

/-! ### Arithmetic and room -/

/-- The range of amounts goes one further down than up. -/
theorem minAmount_eq : minAmount = -maxAmount - 1 := rfl

theorem Amount.guard_calm {fault : Fault} {value : Int}
    (able : minAmount ≤ value ∧ value ≤ maxAmount ∨ fault.isEnergy = false) :
    Calm (Amount.guard fault value) := by
  unfold Amount.guard
  split
  · exact .ok value
  next outside =>
    rw [isAmount_iff] at outside
    exact .error (able.resolve_left outside)

theorem Amount.add_calm {a b : Int} (least : minAmount ≤ a + b) (most : a + b ≤ maxAmount) :
    Calm (Amount.add a b) := Amount.guard_calm (.inl ⟨least, most⟩)

theorem Amount.sub_calm {a b : Int} (least : minAmount ≤ a - b) (most : a - b ≤ maxAmount) :
    Calm (Amount.sub a b) := Amount.guard_calm (.inl ⟨least, most⟩)

theorem Count.add_calm (limit a b : Nat) : Calm (Count.add limit a b) := by
  unfold Count.add
  split
  · exact .ok _
  · exact .error rfl

theorem Count.sub_calm (a b : Nat) : Calm (Count.sub a b) := by
  unfold Count.sub
  split
  · exact .ok _
  · exact .error rfl

theorem Count.rem_calm (a b : Nat) : Calm (Count.rem a b) := by
  unfold Count.rem
  split
  · exact .error rfl
  · exact .ok _

theorem reserve_calm (entries bytes : Nat) : Calm (reserve entries bytes) := by
  unfold reserve
  split
  · exact .ok ()
  · exact .error rfl

theorem entryAt_calm {α : Type} (entries : List α) (position : Nat) :
    Calm (entryAt entries position) := by
  unfold entryAt
  split
  · exact .ok _
  · exact .error rfl

/-! ### Draws -/

namespace Draw

variable {ρ : Type} [DrawSource ρ]

theorem below_calm (size : WordSize) (bound : Nat) (source : ρ) :
    Calm (below size bound source) := by
  unfold below
  split
  · exact .error rfl
  · exact .ok _

theorem between_calm (size : WordSize) (low high : Int) (source : ρ) :
    Calm (between size low high source) :=
  (below_calm _ _ _).bind fun _ _ => .pure _

theorem position_calm (length : Nat) (source : ρ) : Calm (position length source) :=
  below_calm _ _ _

theorem positionFrom_calm (start length : Nat) (source : ρ) :
    Calm (positionFrom start length source) := (below_calm _ _ _).bind fun _ _ => .pure _

theorem gap_calm (length : Nat) (source : ρ) : Calm (gap length source) := below_calm _ _ _

end Draw

/-! ### Genomes -/

namespace Genome

variable (code : Genome)

theorem replaceAt_calm (line : Nat) (word : Int) : Calm (replaceAt code line word) := by
  unfold replaceAt
  split
  · exact .ok _
  · exact .error rfl

theorem removeAt_calm (line : Nat) : Calm (removeAt code line) := by
  unfold removeAt
  split
  · exact .ok _
  · exact .error rfl

theorem fragment_calm (start stop : Nat) : Calm (fragment code start stop) := by
  unfold fragment
  split
  · exact .ok _
  · exact .error rfl

theorem insertAt_calm (gap : Nat) (words : List Int) : Calm (insertAt code gap words) := by
  unfold insertAt
  split
  · exact .ok _
  · exact .error rfl

theorem cut_calm (start stop : Nat) : Calm (cut code start stop) := by
  unfold cut
  split
  · exact .ok _
  · exact .error rfl

end Genome

namespace Mutation

theorem kindAt?_calm (kinds : List (Mutation × Nat)) (roll : Nat) : Calm (kindAt? kinds roll) := by
  induction kinds generalizing roll with
  | nil => exact .ok none
  | cons kind rest ih =>
    unfold kindAt?
    split
    · exact .ok _
    · exact (Count.sub_calm _ _).bind fun lower _ => ih lower

theorem totalWeight_calm (weights : List Nat) : Calm (totalWeight weights) := by
  unfold totalWeight
  generalize 0 = total
  induction weights generalizing total with
  | nil => exact .ok total
  | cons weight rest ih =>
    rw [List.foldlM_cons]
    exact (Count.add_calm _ _ _).bind fun sum _ => ih sum

variable {ρ : Type} [DrawSource ρ]

theorem pick_calm (weights : Weights) (source : ρ) : Calm (pick weights source) := by
  apply Calm.bind (totalWeight_calm _)
  intro total _
  split
  · exact .pure _
  · apply Calm.bind (Draw.below_calm _ _ _)
    intro ⟨roll, next⟩ _
    exact (kindAt?_calm _ _).bind fun kind _ => .pure _

theorem randomWord_calm (opcodeChance : Float) (source : ρ) :
    Calm (randomWord opcodeChance source) := by
  unfold randomWord
  split
  split
  · exact (Draw.between_calm _ _ _ _).bind fun _ _ => .pure _
  · exact Draw.between_calm _ _ _ _

theorem drawWords_calm (opcodeChance : Float) (length : Nat) (drawn : Genome) (source : ρ) :
    Calm (drawWords opcodeChance length drawn source) := by
  induction length generalizing drawn source with
  | zero => exact .ok _
  | succ length ih => exact (randomWord_calm _ _).bind fun _ _ => ih _ _

theorem randomCode_calm (opcodeChance : Float) (length : Nat) (source : ρ) :
    Calm (randomCode opcodeChance length source) :=
  (reserve_calm _ _).bind fun _ _ => drawWords_calm _ _ _ _

theorem randomFragment_calm (length : Nat) (source : ρ) : Calm (randomFragment length source) :=
  (Draw.position_calm _ _).bind fun _ _ => (Draw.positionFrom_calm _ _ _).bind fun _ _ => .pure _

theorem applyEvent_calm (config : Config) (kind : Mutation) (org : Organism) (code : Genome)
    (source : ρ) : Calm (applyEvent config kind org code source) := by
  unfold applyEvent
  cases kind with
  | change =>
    apply Calm.bind (randomWord_calm _ _)
    intro ⟨word, next⟩ _
    simp only
    split
    · exact .pure _
    · apply Calm.bind (Draw.position_calm _ _)
      intro ⟨line, next⟩ _
      exact (Genome.replaceAt_calm _ _ _).bind fun _ _ => .pure _
  | delete =>
    simp only
    split
    · exact .ok _
    · apply Calm.bind (Draw.position_calm _ _)
      intro ⟨line, next⟩ _
      exact (Genome.removeAt_calm _ _).bind fun _ _ => .pure _
  | period => exact (Draw.between_calm _ _ _ _).bind fun _ _ => .pure _
  | amount => exact .ok _
  | weight =>
    apply Calm.bind (Draw.position_calm _ _)
    intro ⟨index, next⟩ _
    apply Calm.bind (Draw.below_calm _ _ _)
    intro ⟨value, next⟩ _
    simp only
    split
    · exact .pure _
    · exact .error rfl
  | insert =>
    simp only
    split
    · apply Calm.bind (randomWord_calm _ _)
      intro ⟨word, next⟩ _
      apply Calm.bind (Draw.gap_calm _ _)
      intro ⟨gap, next⟩ _
      exact (Genome.insertAt_calm _ _ _).bind fun _ _ => .pure _
    · exact .ok _
  | copy =>
    simp only
    split
    · apply Calm.bind (randomFragment_calm _ _)
      intro ⟨start, stop, next⟩ _
      apply Calm.bind (Genome.fragment_calm _ _ _)
      intro piece _
      apply Calm.bind (Draw.gap_calm _ _)
      intro ⟨gap, next⟩ _
      exact (Genome.insertAt_calm _ _ _).bind fun _ _ => .pure _
    · exact .ok _
  | cut =>
    simp only
    split
    · exact .ok _
    · apply Calm.bind (randomFragment_calm _ _)
      intro ⟨start, stop, next⟩ _
      exact (Genome.cut_calm _ _ _).bind fun _ _ => .pure _

theorem applyEvents_calm (config : Config) (events : Nat) (org : Organism) (code : Genome)
    (source : ρ) : Calm (applyEvents config events org code source) := by
  induction events generalizing org code source with
  | zero => exact .ok _
  | succ events ih =>
    apply Calm.bind (pick_calm _ _)
    intro ⟨kind, next⟩ _
    exact (applyEvent_calm _ _ _ _ _).bind fun ⟨org, code, next⟩ _ => ih _ _ _

end Mutation

/-! ### Organisms -/

namespace Organism

variable {ρ : Type} [DrawSource ρ]

theorem mutate_calm (org : Organism) (config : Config) (source : ρ) :
    Calm (org.mutate config source) := by
  apply Calm.bind (Mutation.applyEvents_calm _ _ _ _ _)
  intro ⟨edited, code, next⟩ _
  refine Calm.bind ?_ fun _ _ => .pure _
  exact (Count.add_calm _ _ _).bind fun _ _ => .pure _

theorem crossover_calm (org : Organism) (donor : Genome) (config : Config) (source : ρ) :
    Calm (org.crossover donor config source) := by
  unfold crossover
  split
  · exact .ok _
  · apply Calm.bind (Mutation.randomFragment_calm _ _)
    intro ⟨start, stop, next⟩ _
    apply Calm.bind (Genome.fragment_calm _ _ _)
    intro piece _
    apply Calm.bind (Draw.gap_calm _ _)
    intro ⟨gap, next⟩ _
    exact (Genome.insertAt_calm _ _ _).bind fun _ _ => .pure _

theorem create_calm (id offset : Nat) (energy : Int) (config : Config) :
    Calm (create id offset energy config) := by
  refine Calm.bind ?_ fun _ _ => .pure _
  exact (reserve_calm _ _).bind fun _ _ => reserve_calm _ _

theorem offspring_calm (org : Organism) (id offset : Nat) (energy : Int) (config : Config) :
    Calm (org.offspring id offset energy config) := (create_calm _ _ _ _).bind fun _ _ => .pure _

/-- The turns of a loop are no energy. -/
theorem runLoop_calm (org : Organism) : Calm org.runLoop :=
  (Amount.guard_calm (.inr rfl)).bind fun _ _ => .pure _

theorem runCall_calm (org : Organism) : Calm org.runCall := by
  unfold runCall
  simp only
  split
  · exact .ok _
  · apply Calm.bind (Count.rem_calm _ _)
    intro selected _
    apply Calm.bind (entryAt_calm _ _)
    intro start _
    exact (Count.sub_calm _ _).bind fun _ _ => .pure _

theorem execute_calm (org : Organism) (opcode : Opcode) : Calm (org.execute opcode) := by
  unfold execute
  split
  case h_1 => exact org.runLoop_calm
  case h_5 => exact org.runCall_calm
  all_goals exact .ok _

end Organism

/-! ### Pools -/

namespace Pool

variable (pool : Pool)

theorem insert_calm (org : Organism) : Calm (pool.insert org) := by
  unfold insert
  split
  · exact .ok _
  · split
    · exact (Count.add_calm _ _ _).bind fun _ _ => .pure _
    · exact .error rfl

theorem freeSlot_calm (slot : Nat) : Calm (pool.freeSlot slot) :=
  (Count.sub_calm _ _).bind fun _ _ => .pure _

theorem remove_calm (slot : Nat) : Calm (pool.remove slot) := by
  unfold remove
  split
  · exact .ok _
  · exact (pool.freeSlot_calm _).bind fun _ _ => .pure _

theorem release_calm (slot : Nat) : Calm (pool.release slot) := by
  unfold release
  split
  · exact pool.freeSlot_calm _
  · exact .ok _

end Pool

/-! ### Surfaces -/

theorem TokenSet.erase_calm (set : TokenSet) (offset : Nat) : Calm (set.erase offset) := by
  unfold erase
  split
  · exact .ok _
  · split
    · simp only
      split <;> exact .ok _
    · exact .error rfl

theorem TokenSet.random_calm {ρ : Type} [DrawSource ρ] (set : TokenSet) (source : ρ) :
    Calm (set.random source) := by
  unfold random
  split
  · exact .ok _
  · apply Calm.bind (Draw.position_calm _ _)
    intro ⟨place, next⟩ _
    simp only
    split
    · exact .error rfl
    · exact .pure _

theorem Grid.randomEmpty_calm {ρ : Type} [DrawSource ρ] (grid : Grid) (attempts : Nat)
    (source : ρ) : Calm (grid.randomEmpty attempts source) := by
  induction attempts generalizing source with
  | zero => exact .ok _
  | succ attempts ih =>
    apply Calm.bind (Draw.position_calm _ _)
    intro ⟨offset, next⟩ _
    simp only
    split
    · exact .error rfl
    · split
      · exact .pure _
      · exact ih next

namespace Surface

variable (surface : Surface) (grid : Grid)

theorem count_calm (atoms : Nat) : Calm (surface.count atoms) :=
  (Count.add_calm _ _ _).bind fun _ _ => (Count.add_calm _ _ _).bind fun _ _ => .pure _

theorem remove_calm (offset : Nat) (pickedUp : Bool) :
    Calm (surface.remove grid offset pickedUp) := by
  unfold remove
  split
  · exact .ok _
  · exact (TokenSet.erase_calm _ _).bind fun _ _ => .pure _

theorem merge_calm (offset : Nat) (carried : Token) :
    Calm (surface.merge grid offset carried) := by
  unfold merge
  split
  · exact .ok _
  · exact (Count.sub_calm _ _).bind fun _ _ => .pure _

variable {ρ : Type} [DrawSource ρ] (source : ρ)

theorem put_calm : Calm (surface.put grid source) := by
  unfold put
  split
  · exact .ok _
  · apply Calm.bind (grid.randomEmpty_calm _ _)
    intro ⟨found, next⟩ _
    cases found with
    | none => exact .pure _
    | some offset => exact (count_calm _ _).bind fun _ _ => .pure _

theorem putMany_calm (amount placed : Nat) : Calm (putMany amount placed surface grid source) := by
  induction amount generalizing placed surface grid source with
  | zero => exact .ok _
  | succ amount ih => exact (surface.put_calm grid source).bind fun _ _ => ih _ _ _ _

theorem restore_calm (token : Token) : Calm (surface.restore grid token source) := by
  apply Calm.bind (grid.randomEmpty_calm _ _)
  intro ⟨found, next⟩ _
  cases found with
  | none => exact .pure _
  | some offset => exact .pure _

theorem destination_calm (motion : Motion) (offset : Nat) :
    Calm (destination motion grid offset source) := by
  cases motion with
  | still => exact .ok _
  | spread => exact (Draw.position_calm _ _).bind fun _ _ => .pure _
  | settle => exact .ok _
  | evaporate => exact grid.randomEmpty_calm _ _

theorem move_calm : Calm (surface.move grid source) := by
  unfold move
  split
  · exact .ok _
  · apply Calm.bind (TokenSet.random_calm _ _)
    intro ⟨drawn, next⟩ _
    cases drawn with
    | none => exact .pure _
    | some origin =>
      simp only
      split
      · exact .pure _
      · apply Calm.bind (destination_calm grid _ _ _)
        intro ⟨target, next⟩ _
        cases target with
        | none => exact .pure _
        | some target => exact (TokenSet.erase_calm _ _).bind fun _ _ => .pure _

theorem tick_calm : Calm (surface.tick grid source) := by
  unfold tick
  split
  · exact .ok _
  · exact (move_calm _ grid source).bind fun _ _ => .pure _

end Surface

section Surfaces

variable {σ α : Type} {operation : Surface → σ → Outcome (α × Surface × σ)}

theorem onSurface_calm (calm : ∀ surface state, Calm (operation surface state))
    (surfaces : List Surface) (kind : Nat) (state : σ) :
    Calm (onSurface operation surfaces kind state) := by
  induction surfaces generalizing kind with
  | nil => exact .ok _
  | cons surface rest ih =>
    cases kind with
    | zero => exact (calm surface state).bind fun _ _ => .pure _
    | succ kind => exact (ih kind).bind fun _ _ => .pure _

theorem onSurfaces_calm (calm : ∀ surface state, Calm (operation surface state))
    (surfaces : List Surface) (state : σ) : Calm (onSurfaces operation surfaces state) := by
  induction surfaces generalizing state with
  | nil => exact .ok _
  | cons surface rest ih =>
    exact (calm surface state).bind fun _ _ => (ih _).bind fun _ _ => .pure _

end Surfaces

/-! ### Worlds -/

namespace World

variable {ρ : Type} (world : World ρ) (org : Organism)

theorem allocateId_calm : Calm world.allocateId := (Count.add_calm _ _ _).bind fun _ _ => .pure _

theorem putAt_calm (packet : Option Token) (target : Option Nat) :
    Calm (world.putAt org packet target) := by
  unfold putAt
  split
  · apply Calm.bind (onSurface_calm (fun _ _ => .ok _) _ _ _)
    intro ⟨placed, surfaces, grid⟩ _
    simp only
    split <;> exact .pure _
  · exact .ok _

theorem runGet_calm : Calm (world.runGet org) := by
  unfold runGet
  simp only
  split
  · exact .ok _
  · apply Calm.bind (onSurface_calm (fun surface grid => surface.remove_calm grid _ _) _ _ _)
    intro ⟨taken, surfaces, grid⟩ _
    simp only
    split <;> exact .pure _

theorem runMix_calm : Calm (world.runMix org) := by
  unfold runMix
  simp only
  split
  · exact .ok _
  · apply Calm.bind (onSurface_calm (fun surface grid => surface.merge_calm grid _ _) _ _ _)
    intro ⟨merged, surfaces, grid⟩ _
    simp only
    split
    · exact .error rfl
    · exact .pure _
    · exact .pure _

theorem goOn_calm {done : Outcome (Organism × World ρ)} (calm : Calm done) : Calm (goOn done) :=
  calm.bind fun _ _ => .pure _

theorem growOlder_calm : Calm (growOlder org) := (Count.add_calm _ _ _).bind fun _ _ => .pure _

theorem sample_calm (a b : Genome) : Calm (world.sample a b) := by
  apply Calm.bind (Count.add_calm _ _ _)
  intro distance _
  apply Calm.bind (Count.add_calm _ _ _)
  intro size _
  exact (Count.add_calm _ _ _).bind fun samples _ => .pure _

variable [DrawSource ρ]

theorem randomCode_calm : Calm world.randomCode :=
  (Mutation.randomCode_calm _ _ _).bind fun _ _ => .pure _

theorem irradiate_calm (radiation : Float) : Calm (world.irradiate org radiation) := by
  unfold irradiate
  simp only
  split
  · exact (Organism.mutate_calm _ _ _).bind fun _ _ => .pure _
  · exact .ok _

theorem runRand_calm : Calm (world.runRand org) :=
  (Draw.between_calm _ _ _ _).bind fun _ _ => .pure _

theorem oneIn_calm (every : Nat) (source : ρ) : Calm (oneIn every source) := by
  unfold oneIn
  split
  · exact .ok _
  · exact (Draw.below_calm _ _ _).bind fun _ _ => .pure _

theorem mutateClone_calm : Calm (world.mutateClone org) := by
  apply Calm.bind (oneIn_calm _ _)
  intro ⟨chosen, source⟩ _
  simp only
  split
  · exact (Organism.mutate_calm _ _ _).bind fun _ _ => .pure _
  · exact .pure _

theorem crossClone_calm : Calm (world.crossClone org) := by
  apply Calm.bind (oneIn_calm _ _)
  intro ⟨chosen, source⟩ _
  simp only
  split
  · apply Calm.bind (Draw.position_calm _ _)
    intro ⟨slot, source⟩ _
    simp only
    split
    · exact .pure _
    · exact (Organism.crossover_calm _ _ _ _).bind fun _ _ => .pure _
  · exact .pure _

theorem mutateByAge_calm : Calm (world.mutateByAge org) := by
  unfold mutateByAge
  split
  · exact .ok _
  · apply Calm.bind (Count.rem_calm _ _)
    intro phase _
    simp only
    split
    · exact (Organism.mutate_calm _ _ _).bind fun _ _ => .pure _
    · exact .pure _

theorem compareTwo_calm : Calm world.compareTwo := by
  apply Calm.bind (Draw.position_calm _ _)
  intro ⟨first, source⟩ _
  apply Calm.bind (Draw.position_calm _ _)
  intro ⟨second, source⟩ _
  simp only
  split
  · exact (sample_calm _ _ _).bind fun _ _ => .pure _
  · exact .pure _

theorem tickSurfaces_calm : Calm world.tickSurfaces :=
  (onSurfaces_calm (fun surface _ => surface.tick_calm _ _) _ _).bind fun _ _ => .pure _

end World

end Vivarium
