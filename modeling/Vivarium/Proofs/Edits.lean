import Vivarium.Draw.Generator
import Vivarium.Proofs.Genomes

/-!
# Edits of genomes

Every kind of mutation has its own effect: one word replaced, taken out or put in, one
fragment taken out or put in a second time, or one of the numbers that decide how the
organism mutates drawn anew. What is drawn says where, and nothing else is touched. A
crossover puts a fragment of another genome in.

## Main result

`Mutation.apply_and_crossover_effects`: an event of any kind, on any organism of permitted
size, has an answer with the effect of that kind, unless the number of mutations has no room
for one more; and a crossover has its effect on any recipient.

## Proof strategy

`Mutation.Effect` lists the effects, one constructor for each. A draw from a range that is not
empty has an answer within the range, so each branch of an event is followed to its end.
-/
namespace Vivarium

/-! ### Fragments and gaps -/

namespace Genome

/-- The words from `start` up to but not including `stop`. -/
def slice (code : Genome) (start stop : Nat) : Genome := (code.take stop).drop start

/-- The genome with these words in a gap. -/
def splice (code : Genome) (gap : Nat) (words : Genome) : Genome :=
  code.take gap ++ words ++ code.drop gap

/-- The genome without the words from `start` up to but not including `stop`. -/
def without (code : Genome) (start stop : Nat) : Genome := code.take start ++ code.drop stop

variable {code : Genome} {start stop gap : Nat}

theorem fragment_eq_slice (bounds : start ≤ stop ∧ stop ≤ code.length) :
    fragment code start stop = .ok (code.slice start stop) :=
  if_pos bounds

theorem insertAt_eq_splice (inside : gap ≤ code.length) (words : Genome) :
    insertAt code gap words = .ok (code.splice gap words) :=
  if_pos inside

theorem cut_eq_without (bounds : start ≤ stop ∧ stop ≤ code.length) :
    cut code start stop = .ok (code.without start stop) :=
  if_pos bounds

theorem length_splice (inside : gap ≤ code.length) (words : Genome) :
    (code.splice gap words).length = code.length + words.length := by
  simp only [splice, List.length_append, List.length_take, List.length_drop]
  omega

theorem length_without_le (bounds : start ≤ stop ∧ stop ≤ code.length) :
    (code.without start stop).length ≤ code.length := by
  simp only [without, List.length_append, List.length_take, List.length_drop]
  omega

end Genome

/-! ### Effects -/

namespace Mutation

open Instruction (Meaningful)

/-- What an event may make of an organism and of the genome edited, by its kind. -/
inductive Effect (config : Config) (org : Organism) (code : Genome) :
    Mutation → Organism → Genome → Prop where
  | replaced (line : Nat) (word : Int) (inside : line < code.length) (new : Meaningful word) :
    Effect config org code change org (code.set line word)
  /-- There is no word to replace, so the word becomes the genome. -/
  | founded (word : Int) (empty : code = []) (room : 0 < config.codeMaxSize)
      (new : Meaningful word) : Effect config org code change org [word]
  | unfounded (empty : code = []) (crowded : config.codeMaxSize = 0) :
    Effect config org code change org []
  | removed (line : Nat) (inside : line < code.length) :
    Effect config org code delete org (code.eraseIdx line)
  | nothingRemoved (empty : code = []) : Effect config org code delete org []
  | inserted (gap : Nat) (word : Int) (room : code.length < config.codeMaxSize)
      (inside : gap ≤ code.length) (new : Meaningful word) :
    Effect config org code insert org (code.splice gap [word])
  | notInserted (full : config.codeMaxSize ≤ code.length) :
    Effect config org code insert org code
  | copied (start stop gap : Nat) (room : code.length < config.codeMaxSize)
      (some : start < stop) (within : stop ≤ code.length) (inside : gap ≤ code.length) :
    Effect config org code copy org
      ((code.splice gap (code.slice start stop)).take config.codeMaxSize)
  | notCopied (unable : code = [] ∨ config.codeMaxSize ≤ code.length) :
    Effect config org code copy org code
  | cut (start stop : Nat) (some : start < stop) (within : stop ≤ code.length) :
    Effect config org code cut org (code.without start stop)
  | nothingCut (empty : code = []) : Effect config org code cut org []
  | period (age : Nat) (positive : 1 ≤ age) (bounded : age ≤ max 1 config.orgMaxPeriod) :
    Effect config org code period { org with period := age } code
  | amount (percent : Float) : Effect config org code amount { org with percent } code
  | weight (index : Fin mutationKindCount) (value : Nat) (bounded : value ≤ config.probMaxValue) :
    Effect config org code weight { org with weights := org.weights.set index value } code

variable {config : Config} {kind : Mutation} {org after : Organism} {code edited : Genome}

/-- Within the permitted size no effect makes a genome that has to be cut. -/
theorem Effect.length_le (effect : Effect config org code kind after edited)
    (within : code.length ≤ config.codeMaxSize) : edited.length ≤ config.codeMaxSize := by
  cases effect with
  | replaced => simpa using within
  | founded _ _ room => exact room
  | unfounded => exact Nat.zero_le _
  | removed line =>
    have shorter := code.length_eraseIdx_le line
    omega
  | nothingRemoved => exact Nat.zero_le _
  | inserted _ word room inside =>
    have longer := Genome.length_splice inside [word]
    simp only [List.length_singleton] at longer
    omega
  | copied => exact List.length_take_le _ _
  | cut _ _ some bound =>
    have shorter := Genome.length_without_le ⟨some.le, bound⟩
    omega
  | nothingCut => exact Nat.zero_le _
  | notInserted | notCopied | period | amount | weight => exact within

end Mutation

/-! ### Draws that have an answer -/

section Drawing

variable {ρ : Type} [DrawSource ρ] [LawfulDrawSource ρ]

namespace Draw

theorem exists_below (size : WordSize) {bound : Nat} (positive : 0 < bound) (source : ρ) :
    ∃ number next, below size bound source = .ok (number, next) ∧ number < bound :=
  ⟨_, _, below_eq_ok positive source, LawfulDrawSource.below_lt size bound source positive⟩

theorem exists_between (size : WordSize) {low high : Int} (some : low < high) (source : ρ) :
    ∃ number next, between size low high source = .ok (number, next) ∧
      low ≤ number ∧ number < high := by
  have positive : 0 < (high - low).toNat := by omega
  obtain ⟨step, next, drawn, bound⟩ := exists_below size positive source
  refine ⟨low + step, next, ?_, by omega, by omega⟩
  rw [between, drawn]
  rfl

theorem exists_position {length : Nat} (positive : 0 < length) (source : ρ) :
    ∃ place next, position length source = .ok (place, next) ∧ place < length :=
  exists_below _ positive source

theorem exists_positionFrom {start length : Nat} (inside : start < length) (source : ρ) :
    ∃ place next, positionFrom start length source = .ok (place, next) ∧
      start ≤ place ∧ place < length := by
  obtain ⟨step, next, drawn, bound⟩ :=
    exists_below (.forBound length) (Nat.sub_pos_of_lt inside) source
  refine ⟨start + step, next, ?_, by omega, by omega⟩
  rw [positionFrom, drawn]
  rfl

theorem exists_gap (length : Nat) (source : ρ) :
    ∃ place next, gap length source = .ok (place, next) ∧ place ≤ length := by
  obtain ⟨place, next, drawn, bound⟩ := exists_below (.forBound length) length.succ_pos source
  exact ⟨place, next, drawn, Nat.le_of_lt_succ bound⟩

end Draw

namespace Mutation

open Instruction (Meaningful)

theorem exists_randomWord (opcodeChance : Float) (source : ρ) :
    ∃ word next, randomWord opcodeChance source = .ok (word, next) ∧ Meaningful word := by
  -- A word that has been drawn is meaningful, so it remains that one is drawn.
  suffices answer : ∃ drawn, randomWord opcodeChance source = .ok drawn by
    obtain ⟨⟨word, next⟩, drawn⟩ := answer
    exact ⟨word, next, drawn, Drawn.meaningful ⟨_, _, _, drawn⟩⟩
  simp only [randomWord]
  split
  · have some : (0 : Int) < opcodeCount := by decide
    obtain ⟨index, next, drawn, -⟩ := Draw.exists_between .word32 some (Draw.unit source).2
    rw [drawn]
    exact ⟨_, rfl⟩
  · have some : 1 - literalBound < literalBound := by decide
    obtain ⟨word, next, drawn, -⟩ := Draw.exists_between .word32 some (Draw.unit source).2
    exact ⟨_, drawn⟩

/-- A random fragment has at least one word and lies within the genome. -/
theorem exists_randomFragment {length : Nat} (positive : 0 < length) (source : ρ) :
    ∃ start stop next, randomFragment length source = .ok (start, stop, next) ∧
      start < stop ∧ stop ≤ length := by
  obtain ⟨start, source', starting, inside⟩ := Draw.exists_position positive source
  obtain ⟨last, next, ending, low, high⟩ := Draw.exists_positionFrom inside source'
  refine ⟨start, last + 1, next, ?_, by omega, high⟩
  simp only [randomFragment, starting, ending, bind, Except.bind, pure, Except.pure]

/-! ### Events -/

variable {config : Config}

/-- An event has an answer, and that is the effect of its kind. -/
theorem exists_effect (kind : Mutation) (org : Organism) (code : Genome) (source : ρ) :
    ∃ after edited next, applyEvent config kind org code source = .ok (after, edited, next) ∧
      Effect config org code kind after edited := by
  -- Along each branch the draws have answers within their ranges; with these, the checks of
  -- the operations on the genome succeed, and the effect is read off.
  cases kind with
  | change =>
    obtain ⟨word, source', drawn, new⟩ := exists_randomWord config.codeOpcodeChance source
    by_cases empty : code = []
    · subst empty
      by_cases room : 0 < config.codeMaxSize
      · refine ⟨org, [word], source', ?_, .founded word rfl room new⟩
        simp only [applyEvent, drawn, bind, Except.bind, List.length_nil, if_pos, room,
          List.nil_append]
        rfl
      · refine ⟨org, [], source', ?_, .unfounded rfl (by omega)⟩
        simp only [applyEvent, drawn, bind, Except.bind, List.length_nil, if_pos, if_neg room]
        rfl
    · have some : 0 < code.length := List.length_pos_iff.mpr empty
      obtain ⟨line, next, located, inside⟩ := Draw.exists_position some source'
      refine ⟨org, code.set line word, next, ?_, .replaced line word inside new⟩
      simp only [applyEvent, drawn, located, bind, Except.bind, if_neg some.ne',
        Genome.replaceAt, if_pos inside]
      rfl
  | delete =>
    by_cases empty : code = []
    · subst empty
      exact ⟨org, [], source, rfl, .nothingRemoved rfl⟩
    · have some : 0 < code.length := List.length_pos_iff.mpr empty
      obtain ⟨line, next, located, inside⟩ := Draw.exists_position some source
      refine ⟨org, code.eraseIdx line, next, ?_, .removed line inside⟩
      simp only [applyEvent, if_neg some.ne', located, bind, Except.bind, Genome.removeAt,
        if_pos inside]
      rfl
  | period =>
    have some : (1 : Int) < (max config.orgMaxPeriod 1 : Nat) + 1 := by omega
    obtain ⟨age, next, drawn, low, high⟩ := Draw.exists_between .word32 some source
    refine ⟨{ org with period := age.toNat }, code, next, ?_,
      .period age.toNat (by omega) (by omega)⟩
    simp only [applyEvent]
    rw [drawn]
    rfl
  | amount => exact ⟨_, code, _, rfl, .amount (Draw.unit source).1⟩
  | weight =>
    have some : 0 < mutationKindCount := by decide
    obtain ⟨index, source', located, inside⟩ := Draw.exists_position some source
    obtain ⟨value, next, drawn, bounded⟩ :=
      Draw.exists_below .word32 config.probMaxValue.succ_pos source'
    refine ⟨_, code, next, ?_, .weight ⟨index, inside⟩ value (Nat.le_of_lt_succ bounded)⟩
    simp only [applyEvent, located, drawn, bind, Except.bind, dif_pos inside]
    rfl
  | insert =>
    by_cases room : code.length < config.codeMaxSize
    · obtain ⟨word, source', drawn, new⟩ := exists_randomWord config.codeOpcodeChance source
      obtain ⟨gap, next, located, inside⟩ := Draw.exists_gap code.length source'
      refine ⟨org, _, next, ?_, .inserted gap word room inside new⟩
      simp only [applyEvent, if_pos room, drawn, located, bind, Except.bind,
        Genome.insertAt_eq_splice inside]
      rfl
    · refine ⟨org, code, source, if_neg room, .notInserted (Nat.le_of_not_lt room)⟩
  | copy =>
    by_cases room : 0 < code.length ∧ code.length < config.codeMaxSize
    · obtain ⟨start, stop, source', drawn, some, within⟩ :=
        exists_randomFragment room.1 source
      obtain ⟨gap, next, located, inside⟩ := Draw.exists_gap code.length source'
      refine ⟨org, _, next, ?_, .copied start stop gap room.2 some within inside⟩
      simp only [applyEvent, if_pos room, drawn, located, bind, Except.bind,
        Genome.fragment_eq_slice ⟨some.le, within⟩, Genome.insertAt_eq_splice inside]
      rfl
    · refine ⟨org, code, source, if_neg room, .notCopied ?_⟩
      rw [← List.length_eq_zero_iff]
      omega
  | cut =>
    by_cases empty : code = []
    · subst empty
      exact ⟨org, [], source, rfl, .nothingCut rfl⟩
    · have some : 0 < code.length := List.length_pos_iff.mpr empty
      obtain ⟨start, stop, next, drawn, order, within⟩ := exists_randomFragment some source
      refine ⟨org, _, next, ?_, .cut start stop order within⟩
      simp only [applyEvent, if_neg some.ne', drawn, bind, Except.bind,
        Genome.cut_eq_without ⟨order.le, within⟩]
      rfl

end Mutation

namespace Organism

/-! ### Organisms with edited genomes -/

/-- The organism with a genome and the block table that belongs to it. -/
theorem setCode_of_length_le (org : Organism) {code : Genome} {maxSize : Nat}
    (within : code.length ≤ maxSize) :
    org.setCode code maxSize = { org with code, blocks := .ofGenome code } := by
  simp only [setCode, rebuild, List.take_of_length_le within]

/-- A crossover with a donor that has a genome puts a fragment of it into a gap. -/
theorem exists_crossover (config : Config) (org : Organism) {donor : Genome}
    (some : donor ≠ []) (source : ρ) :
    ∃ start stop gap next, start < stop ∧ stop ≤ donor.length ∧ gap ≤ org.code.length ∧
      org.crossover donor config source =
        .ok (true,
          org.setCode (org.code.splice gap (donor.slice start stop)) config.codeMaxSize, next) := by
  have positive : 0 < donor.length := List.length_pos_iff.mpr some
  obtain ⟨start, stop, source', drawn, order, within⟩ :=
    Mutation.exists_randomFragment positive source
  obtain ⟨gap, next, located, inside⟩ := Draw.exists_gap org.code.length source'
  refine ⟨start, stop, gap, next, order, within, inside, ?_⟩
  simp only [crossover, if_neg positive.ne', drawn, located, bind, Except.bind,
    Genome.fragment_eq_slice ⟨order.le, within⟩, Genome.insertAt_eq_splice inside]
  rfl

end Organism

namespace Mutation

/-- Setting the genome and counting the mutation has an answer as long as the count fits. -/
theorem finish_of_length_le (config : Config) (org : Organism) {code : Genome}
    (within : code.length ≤ config.codeMaxSize) :
    finish config org code =
      if org.mutations + 1 < limit64 then
        .ok { org with code, blocks := .ofGenome code, mutations := org.mutations + 1 }
      else .error .countOverflow := by
  simp only [finish, Count.add, Organism.setCode_of_length_le org within]
  split <;> rfl

/-- Mutations and crossovers edit a genome in the documented way only. An event on an organism
of permitted size has the effect of its kind, after which the genome is still of permitted size
and has its own block table; it has no answer only if the mutations are too many to be counted.
A crossover puts a fragment of the donor into the genome and cuts that to the permitted size;
a donor without a genome changes nothing and leaves the source alone. -/
theorem apply_and_crossover_effects (config : Config) (org : Organism) (source : ρ) :
    (∀ kind : Mutation, org.code.length ≤ config.codeMaxSize →
      ∃ tuned edited next, Effect config org org.code kind tuned edited ∧
        edited.length ≤ config.codeMaxSize ∧
        apply config kind org source =
          if org.mutations + 1 < limit64 then
            .ok ({ tuned with
              code := edited, blocks := .ofGenome edited, mutations := org.mutations + 1 }, next)
          else .error .countOverflow) ∧
    org.crossover [] config source = .ok (false, org, source) ∧
    ∀ donor : Genome, donor ≠ [] →
      ∃ start stop gap crossed next, start < stop ∧ stop ≤ donor.length ∧
        gap ≤ org.code.length ∧
        crossed = (org.code.splice gap (donor.slice start stop)).take config.codeMaxSize ∧
        org.crossover donor config source =
          .ok (true, { org with code := crossed, blocks := .ofGenome crossed }, next) := by
  refine ⟨fun kind within => ?_, rfl, fun donor some => ?_⟩
  · obtain ⟨tuned, edited, next, applied, effect⟩ :=
      exists_effect kind org org.code source
    have bounded := effect.length_le within
    refine ⟨tuned, edited, next, effect, bounded, ?_⟩
    -- No effect touches the count, which `finish` reads off the organism retuned.
    have count : tuned.mutations = org.mutations := by cases effect <;> rfl
    have finished := finish_of_length_le config tuned bounded
    rw [count] at finished
    simp only [apply, applied, bind, Except.bind]
    by_cases fits : org.mutations + 1 < limit64
    · rw [finished, if_pos fits, if_pos fits]
      rfl
    · rw [finished, if_neg fits, if_neg fits]
  · obtain ⟨start, stop, gap, next, order, within, inside, crossed⟩ :=
      org.exists_crossover config some source
    exact ⟨start, stop, gap, _, next, order, within, inside, rfl, crossed⟩

end Mutation

end Drawing

/-- A configuration under which genomes have three words at most. -/
def Config.terse : Config := { Config.standard with codeMaxSize := 3 }

/-- An organism whose genome has no room for another word. -/
def Organism.brimming : Organism :=
  { Organism.fresh 0 0 10 Config.terse with code := [1, 2, 3] }

/-- A full genome has no room for a copy, and a word that is crossed in pushes the last word
out, unless it comes last itself. -/
theorem Mutation.apply_and_crossover_effects_brimming :
    Organism.brimming.code.length ≤ Config.terse.codeMaxSize ∧ [(9 : Int)] ≠ [] ∧
    (∃ after next, apply .terse copy .brimming (Generator.ofSeed 7) = .ok (after, next) ∧
      after.code = [1, 2, 3]) ∧
    ∃ after next,
      Organism.brimming.crossover [9] .terse (Generator.ofSeed 7) = .ok (true, after, next) ∧
      after.code ∈ [[9, 1, 2], [1, 9, 2], [1, 2, 9], [1, 2, 3]] := by
  have within : Organism.brimming.code.length ≤ Config.terse.codeMaxSize := by decide
  obtain ⟨events, -, crossovers⟩ :=
    apply_and_crossover_effects Config.terse Organism.brimming (Generator.ofSeed 7)
  refine ⟨within, by decide, ?_, ?_⟩
  · obtain ⟨tuned, edited, next, effect, -, applied⟩ := events copy within
    rw [if_pos (by decide)] at applied
    refine ⟨_, next, applied, ?_⟩
    cases effect with
    | copied _ _ _ room => exact absurd room (by decide)
    | notCopied => rfl
  · obtain ⟨start, stop, gap, crossed, next, order, bound, inside, cut, answer⟩ :=
      crossovers [9] (by decide)
    refine ⟨_, next, answer, ?_⟩
    -- A donor of one word has one fragment; what remains open is the gap.
    obtain ⟨rfl, rfl⟩ : start = 0 ∧ stop = 1 := by
      simp only [List.length_singleton] at bound
      omega
    have gaps : gap = 0 ∨ gap = 1 ∨ gap = 2 ∨ gap = 3 := by
      have three : Organism.brimming.code.length = 3 := rfl
      omega
    subst cut
    rcases gaps with rfl | rfl | rfl | rfl <;> decide

end Vivarium
