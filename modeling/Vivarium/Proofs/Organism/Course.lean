import Vivarium.Proofs.Organism.Body

/-!
# The course of a program

The course of an organism is where its program stands: its line, its saved callers
and its genome with the block table. What the world does to an organism keeps its
course. Only a mutation exchanges the genome in the middle of a program, and then the
block table is a new one, with all loops at rest.
-/
namespace Vivarium

namespace Organism

/-- The program of the second organism goes on where that of the first one stands. -/
structure KeepsCourse (org after : Organism) : Prop where
  line : after.line = org.line
  frames : after.frames = org.frames
  stackSize : after.stackSize = org.stackSize
  blocks : after.code = org.code ∧ after.blocks = org.blocks ∨
    after.blocks = .ofGenome after.code
  period : 1 ≤ org.period → 1 ≤ after.period

namespace KeepsCourse

variable {org between after : Organism}

theorem refl (org : Organism) : org.KeepsCourse org where
  line := rfl
  frames := rfl
  stackSize := rfl
  blocks := .inl ⟨rfl, rfl⟩
  period := fun positive => positive

theorem trans (first : org.KeepsCourse between) (second : between.KeepsCourse after) :
    org.KeepsCourse after where
  line := second.line.trans first.line
  frames := second.frames.trans first.frames
  stackSize := second.stackSize.trans first.stackSize
  blocks := by
    rcases second.blocks with ⟨code, blocks⟩ | rebuilt
    · rcases first.blocks with ⟨codeFirst, blocksFirst⟩ | rebuilt
      · exact .inl ⟨code.trans codeFirst, blocks.trans blocksFirst⟩
      · exact .inr (by rw [blocks, code, rebuilt])
    · exact .inr rebuilt
  period := fun positive => second.period (first.period positive)

end KeepsCourse

theorem keepsCourse_setD (org : Organism) (value : Float) :
    org.KeepsCourse { org with d := value } := { KeepsCourse.refl org with }

/-! ### Mutations -/

theorem Retuned.keepsCourse {org after : Organism} (retuned : org.Retuned after) :
    org.KeepsCourse after := by
  obtain ⟨period, percent, weights, rfl, positive⟩ := retuned
  exact { KeepsCourse.refl org with period := positive }

theorem keepsCourse_setCode (org : Organism) (code : Genome) (maxSize : Nat) :
    org.KeepsCourse (org.setCode code maxSize) :=
  { KeepsCourse.refl org with blocks := .inr (org.blocks_setCode code maxSize) }

variable {ρ : Type} [DrawSource ρ]

theorem keepsCourse_mutate {org after : Organism} {config : Config} {source next : ρ}
    {events : Nat} (mutated : org.mutate config source = .ok (events, after, next)) :
    org.KeepsCourse after := by
  obtain ⟨retuned, code, mutations, tuning, rfl⟩ := mutate_eq_ok mutated
  have set := retuned.keepsCourse_setCode code config.codeMaxSize
  exact { tuning.keepsCourse.trans set with }

theorem keepsCourse_crossover {org after : Organism} {donor : Genome} {config : Config}
    {source next : ρ} {found : Bool}
    (crossed : org.crossover donor config source = .ok (found, after, next)) :
    org.KeepsCourse after := by
  obtain rfl | ⟨code, rfl⟩ := crossover_eq_ok crossed
  · exact .refl after
  · exact org.keepsCourse_setCode code config.codeMaxSize

end Organism

end Vivarium
