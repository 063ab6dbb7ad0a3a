import Vivarium.Proofs.Census.Population

/-!
# The genomes of a world

A genome changes in many ways: it is copied to a child, edited by mutations, crossed with
another one, cut to the permitted size. Whatever has happened, the organism has the block
table of the genome it has now, a counter for each word of it, and all of its memory.

A word is meaningful if it decodes to a number or to an opcode. Draws keep to the words of
numbers and opcodes, and edits only move words around, so a word without meaning is in a
world only if a caller has brought it in.
-/
namespace Vivarium

/-! ### Meaningful words -/

namespace Instruction

/-- The word stands for a number or for an opcode. -/
inductive Meaningful (word : Int) : Prop where
  | literal (value : Int) (decoded : decode word = .literal value) : Meaningful word
  | op (opcode : Opcode) (decoded : decode word = .op opcode) : Meaningful word

theorem meaningful_of_near_zero {word : Int} (low : -literalBound < word)
    (high : word < literalBound) : Meaningful word :=
  .literal word (by rw [decode, if_pos ⟨low, high⟩])

theorem meaningful_of_index {index : Int} (low : 0 ≤ index) (high : index < opcodeCount) :
    Meaningful (literalBound + index) := by
  have listed : index.toNat < Opcode.all.size := by
    have count : Opcode.all.size = 30 := rfl
    simp only [opcodeCount] at high
    omega
  have found : Opcode.ofIndex? index.toNat = some Opcode.all[index.toNat] :=
    Array.getElem?_eq_getElem listed
  refine .op Opcode.all[index.toNat] ?_
  rw [decode, if_neg (by omega), if_neg (by omega), add_sub_cancel_left, found]

end Instruction

namespace Draw

variable {ρ : Type} [DrawSource ρ] [LawfulDrawSource ρ]

theorem between_bounds {size : WordSize} {low high number : Int} {source next : ρ}
    (drawn : between size low high source = .ok (number, next)) : low ≤ number ∧ number < high := by
  obtain ⟨⟨step, after⟩, inside, answer⟩ := (bind_eq_ok_iff _ _ _).mp drawn
  cases answer
  have bound := below_lt inside
  omega

end Draw

namespace Mutation

variable {ρ : Type} [DrawSource ρ] [LawfulDrawSource ρ]

open Instruction

/-- Nothing but meaningful words is drawn, whatever the chance of an opcode is. -/
theorem Drawn.meaningful {word : Int} (drawn : Drawn ρ word) : Meaningful word := by
  obtain ⟨opcodeChance, source, next, draws⟩ := drawn
  simp only [randomWord] at draws
  split at draws
  · obtain ⟨⟨index, source'⟩, inside, answer⟩ := (bind_eq_ok_iff _ _ _).mp draws
    cases answer
    obtain ⟨low, high⟩ := Draw.between_bounds inside
    exact meaningful_of_index low high
  · obtain ⟨low, high⟩ := Draw.between_bounds draws
    exact meaningful_of_near_zero (by omega) high

end Mutation

/-! ### Well-kept genomes -/

/-- What belongs to the genome of an organism has the size and the content that it asks for. -/
structure Organism.WellKept (config : Config) (org : Organism) : Prop where
  length : org.code.length ≤ config.codeMaxSize
  memory : org.mem.size = config.orgMemSize
  coherent : org.Coherent

namespace Census

variable {words : Int → Prop} {census next : Census}

/-- All residents are well kept after a move if they were before it. -/
theorem Move.wellKept (move : census.Move words next)
    (kept : ∀ slot org, census.residents slot = some org → org.WellKept census.config) :
    ∀ slot org, next.residents slot = some org → org.WellKept next.config := by
  rw [move.config]
  apply move.residents (fun org => org.WellKept census.config)
  · intro bearer child newborn parent
    exact ⟨newborn.length fun org bears => (parent org bears).length, newborn.memory,
      newborn.coherent⟩
  · intro org after evolves before
    exact ⟨evolves.length before.length, evolves.memory.trans before.memory,
      evolves.coherent before.coherent⟩
  · exact kept

/-- Words come from residents or from outside, so what holds of both holds of all. -/
theorem Move.good_words {good : Int → Prop} (move : census.Move words next)
    (outside : ∀ word, words word → good word)
    (inside : ∀ slot org, census.residents slot = some org → ∀ word ∈ org.code, good word) :
    ∀ slot org, next.residents slot = some org → ∀ word ∈ org.code, good word := by
  apply move.residents (fun org => ∀ word ∈ org.code, good word)
  · intro bearer child newborn parent word member
    rcases newborn.words word member with new | ⟨slot, org, resident, old⟩
    · exact outside word new
    · exact inside slot org resident word old
  · intro org after evolves before word member
    rcases evolves.derives word member with old | new
    · exact before word old
    · exact outside word new
  · exact inside

end Census

/-! ### Whole lives -/

namespace World

open Instruction (Meaningful)

variable {ρ : Type} [DrawSource ρ] [LawfulDrawSource ρ]

/-- Whatever is called, each genome is within the permitted size, its block table is the one
of its words with a counter for each of them, and the memory has its size. If the genomes
given by callers are meaningful throughout, so are all genomes. -/
theorem performAll_genomes {config : Config} {source : ρ} {recording : Bool}
    {start world : World ρ} (calls : List Call)
    (created : create config source recording = .ok (.ok start))
    (performed : performAll calls start = .ok world) :
    (∀ slot org, world.pool.get? slot = some org →
      org.code.length ≤ config.codeMaxSize ∧
      org.blocks.targets = (BlockTable.ofGenome org.code).targets ∧
      org.blocks.functions = (BlockTable.ofGenome org.code).functions ∧
      org.blocks.counters.size = org.code.length ∧
      org.mem.size = config.orgMemSize) ∧
    ((∀ call ∈ calls, ∀ word ∈ call.given, Meaningful word) →
      ∀ slot org, world.pool.get? slot = some org → ∀ word ∈ org.code, Meaningful word) := by
  obtain ⟨moves, -⟩ := moves_of_performAll created performed
  have same : world.config = config := moves.config
  constructor
  · have kept := moves.preserve
      (fun census => ∀ slot org, census.residents slot = some org → org.WellKept census.config)
      (fun move => move.wellKept) (fun _ _ nobody => nomatch nobody)
    intro slot org live
    obtain ⟨length, memory, coherent⟩ := kept slot org live
    rw [← same]
    exact ⟨length, coherent.targets, coherent.functions, coherent.counters, memory⟩
  · intro given
    have outside : ∀ word, Call.Supplied ρ calls word → Meaningful word := by
      rintro word (⟨call, member, brought⟩ | drawn)
      · exact given call member word brought
      · exact drawn.meaningful
    exact moves.preserve
      (fun census => ∀ slot org, census.residents slot = some org → ∀ word ∈ org.code,
        Meaningful word)
      (fun move => move.good_words outside) (fun _ _ nobody => nomatch nobody)

/-- In the small world a child is born with a word that its parent does not have, and it
means something all the same. -/
theorem performAll_genomes_family :
    ∃ start world : World Generator, create .small (.ofSeed 7) true = .ok (.ok start) ∧
      performAll Call.familyLife start = .ok world ∧
      ∃ child, world.pool.get? 3 = some child ∧
        child.code = [Opcode.loop.word, 1, Opcode.clone.word] ∧
        child.blocks.targets = (BlockTable.ofGenome child.code).targets ∧
        ∀ word ∈ child.code, Meaningful word := by
  obtain ⟨start, world, created, performed, born, -⟩ := performAll_family
  obtain ⟨child, live, code⟩ := Option.map_eq_some_iff.mp born
  obtain ⟨kept, words⟩ := performAll_genomes _ created performed
  have given : ∀ call ∈ Call.familyLife, ∀ word ∈ call.given, Meaningful word := by
    simp only [Call.familyLife, List.forall_mem_cons, Call.given]
    exact ⟨⟨.literal 1 rfl, .op .clone rfl, nofun⟩, nofun, nofun, nofun⟩
  obtain ⟨-, targets, -⟩ := kept 3 child live
  exact ⟨start, world, created, performed, child, live, code, targets, words given 3 child live⟩

end World

end Vivarium
