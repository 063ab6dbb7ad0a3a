import Vivarium.Proofs.Safety.EndsWell

/-!
# Mutations end well

An event draws the lines that it edits from the genome that it edits, at the moment
when it does, so every edit lies within the genome. A weighted roll is drawn below the
sum of the weights, and what it is lowered by on the way has been passed by before.
-/
namespace Vivarium

variable {config settings : Config}

/-! ### Edits -/

namespace Genome

variable {code : Genome}

theorem replaceAt_endsWell {line : Nat} (inside : line < code.length) (word : Int) :
    EndsWell config (replaceAt code line word) (fun _ => True) := by
  rw [replaceAt, if_pos inside]
  exact .ok trivial

theorem removeAt_endsWell {line : Nat} (inside : line < code.length) :
    EndsWell config (removeAt code line) (fun _ => True) := by
  rw [removeAt, if_pos inside]
  exact .ok trivial

theorem fragment_endsWell {start stop : Nat} (bounds : start ≤ stop ∧ stop ≤ code.length) :
    EndsWell config (fragment code start stop) (fun _ => True) := by
  rw [fragment, if_pos bounds]
  exact .ok trivial

theorem insertAt_endsWell {gap : Nat} (inside : gap ≤ code.length) (words : List Int) :
    EndsWell config (insertAt code gap words) (fun _ => True) := by
  rw [insertAt, if_pos inside]
  exact .ok trivial

theorem cut_endsWell {start stop : Nat} (bounds : start ≤ stop ∧ stop ≤ code.length) :
    EndsWell config (cut code start stop) (fun _ => True) := by
  rw [cut, if_pos bounds]
  exact .ok trivial

end Genome

/-! ### Events -/

namespace Mutation

theorem kindAt?_endsWell (kinds : List (Mutation × Nat)) (roll : Nat) :
    EndsWell config (kindAt? kinds roll) (fun _ => True) := by
  induction kinds generalizing roll with
  | nil => exact .ok trivial
  | cons kind rest ih =>
    unfold kindAt?
    split
    next => exact .ok trivial
    next passed =>
      exact (Count.sub_endsWell (Nat.le_of_not_lt passed)).bind fun lower _ _ => ih lower

theorem totalWeight_endsWell (weights : List Nat) :
    EndsWell config (totalWeight weights) (fun _ => True) := by
  unfold totalWeight
  generalize 0 = total
  induction weights generalizing total with
  | nil => exact .ok trivial
  | cons weight rest ih =>
    rw [List.foldlM_cons]
    exact (Count.add_endsWell _ _ _).bind fun sum _ _ => ih sum

variable {ρ : Type} [DrawSource ρ] [LawfulDrawSource ρ]

theorem pick_endsWell (weights : Weights) (source : ρ) :
    EndsWell config (pick weights source) (fun _ => True) := by
  refine (totalWeight_endsWell _).bind fun total _ _ => ?_
  split
  next => exact .ok trivial
  next nonzero =>
    refine (Draw.below_endsWell _ (Nat.pos_of_ne_zero nonzero) _).bind fun ⟨roll, next⟩ _ _ => ?_
    exact (kindAt?_endsWell _ _).bind fun kind _ _ => .pure trivial

omit [LawfulDrawSource ρ] in
theorem randomWord_endsWell (opcodeChance : Float) (source : ρ) :
    EndsWell config (randomWord opcodeChance source) (fun _ => True) := by
  unfold randomWord
  split
  split
  · exact (Draw.between_endsWell _ (by decide) _).bind fun ⟨index, next⟩ _ _ => .pure trivial
  · exact Draw.between_endsWell _ (by decide) _

omit [LawfulDrawSource ρ] in
theorem drawWords_endsWell (opcodeChance : Float) (length : Nat) (drawn : Genome) (source : ρ) :
    EndsWell config (drawWords opcodeChance length drawn source) (fun _ => True) := by
  induction length generalizing drawn source with
  | zero => exact .ok trivial
  | succ length ih =>
    exact (randomWord_endsWell _ _).bind fun ⟨word, next⟩ _ _ => ih _ _

omit [LawfulDrawSource ρ] in
theorem randomCode_endsWell {length : Nat}
    (roomy : config.Roomy → reserve length Genome.wordBytes = .ok ()) (opcodeChance : Float)
    (source : ρ) : EndsWell config (randomCode opcodeChance length source) (fun _ => True) :=
  (reserve_endsWell roomy).bind fun _ _ _ => drawWords_endsWell _ _ _ _

/-- A random fragment of a genome lies within it. -/
theorem randomFragment_endsWell {length : Nat} (positive : 0 < length) (source : ρ) :
    EndsWell config (randomFragment length source)
      (fun drawn => drawn.1 ≤ drawn.2.1 ∧ drawn.2.1 ≤ length) := by
  refine (Draw.position_endsWell positive _).bind fun ⟨start, next⟩ _ inside => ?_
  refine (Draw.positionFrom_endsWell inside _).bind fun ⟨last, next⟩ _ bounds => ?_
  simp only at bounds
  exact .pure ⟨by simp only; omega, by simp only; omega⟩

theorem applyEvent_endsWell (kind : Mutation) (org : Organism) (code : Genome) (source : ρ) :
    EndsWell config (applyEvent settings kind org code source) (fun _ => True) := by
  unfold applyEvent
  cases kind with
  | change =>
    refine (randomWord_endsWell _ _).bind fun ⟨word, next⟩ _ _ => ?_
    simp only
    split
    next => exact .pure trivial
    next some =>
      refine (Draw.position_endsWell (Nat.pos_of_ne_zero some) _).bind
        fun ⟨line, next⟩ _ inside => ?_
      exact (Genome.replaceAt_endsWell inside _).bind fun code _ _ => .pure trivial
  | delete =>
    simp only
    split
    next => exact .ok trivial
    next some =>
      refine (Draw.position_endsWell (Nat.pos_of_ne_zero some) _).bind
        fun ⟨line, next⟩ _ inside => ?_
      exact (Genome.removeAt_endsWell inside).bind fun code _ _ => .pure trivial
  | period =>
    exact (Draw.between_endsWell _ (by omega) _).bind fun ⟨drawn, next⟩ _ _ => .pure trivial
  | amount => exact .ok trivial
  | weight =>
    refine (Draw.position_endsWell (by decide) _).bind fun ⟨index, next⟩ _ inside => ?_
    refine (Draw.below_endsWell _ (Nat.succ_pos _) _).bind fun ⟨value, next⟩ _ _ => ?_
    simp only at inside ⊢
    rw [dif_pos inside]
    exact .pure trivial
  | insert =>
    simp only
    split
    next =>
      refine (randomWord_endsWell _ _).bind fun ⟨word, next⟩ _ _ => ?_
      refine (Draw.gap_endsWell _ _).bind fun ⟨gap, next⟩ _ inside => ?_
      exact (Genome.insertAt_endsWell inside _).bind fun code _ _ => .pure trivial
    next => exact .ok trivial
  | copy =>
    simp only
    split
    next some =>
      refine (randomFragment_endsWell some.1 _).bind fun ⟨start, stop, next⟩ _ bounds => ?_
      refine (Genome.fragment_endsWell bounds).bind fun piece _ _ => ?_
      refine (Draw.gap_endsWell _ _).bind fun ⟨gap, next⟩ _ inside => ?_
      exact (Genome.insertAt_endsWell inside _).bind fun code _ _ => .pure trivial
    next => exact .ok trivial
  | cut =>
    simp only
    split
    next => exact .ok trivial
    next some =>
      refine (randomFragment_endsWell (Nat.pos_of_ne_zero some) _).bind
        fun ⟨start, stop, next⟩ _ bounds => ?_
      exact (Genome.cut_endsWell bounds).bind fun code _ _ => .pure trivial

theorem applyEvents_endsWell (events : Nat) (org : Organism) (code : Genome) (source : ρ) :
    EndsWell config (applyEvents settings events org code source) (fun _ => True) := by
  induction events generalizing org code source with
  | zero => exact .ok trivial
  | succ events ih =>
    refine (pick_endsWell _ _).bind fun ⟨kind, next⟩ _ _ => ?_
    exact (applyEvent_endsWell _ _ _ _).bind fun ⟨org, code, next⟩ _ _ => ih _ _ _

theorem finish_endsWell (org : Organism) (code : Genome) :
    EndsWell config (finish settings org code) (fun _ => True) :=
  (Count.add_endsWell _ _ _).bind fun _ _ _ => .pure trivial

end Mutation

/-! ### Mutation and crossover -/

namespace Organism

variable {ρ : Type} [DrawSource ρ] [LawfulDrawSource ρ]

theorem mutate_endsWell (org : Organism) (source : ρ) :
    EndsWell config (org.mutate settings source) (fun _ => True) := by
  refine (Mutation.applyEvents_endsWell _ _ _ _).bind fun ⟨edited, code, next⟩ _ _ => ?_
  exact (Mutation.finish_endsWell _ _).bind fun _ _ _ => .pure trivial

theorem crossover_endsWell (org : Organism) (donor : Genome) (source : ρ) :
    EndsWell config (org.crossover donor settings source) (fun _ => True) := by
  unfold crossover
  split
  next => exact .ok trivial
  next some =>
    refine (Mutation.randomFragment_endsWell (Nat.pos_of_ne_zero some) _).bind
      fun ⟨start, stop, next⟩ _ bounds => ?_
    refine (Genome.fragment_endsWell bounds).bind fun piece _ _ => ?_
    refine (Draw.gap_endsWell _ _).bind fun ⟨gap, next⟩ _ inside => ?_
    exact (Genome.insertAt_endsWell inside _).bind fun code _ _ => .pure trivial

end Organism

end Vivarium
