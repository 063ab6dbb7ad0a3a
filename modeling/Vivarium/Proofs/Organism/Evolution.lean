import Vivarium.Proofs.Callers

/-!
# How organisms evolve

Executing, ageing and mutating leave an organism who it is: its identity, its parent
and the size of its memory. Its genome stays within the permitted size, keeps the block
table that belongs to it, and each of its words was there before or is of a kind that
chance can draw. Edits of a genome only move words around, so new words come from draws
alone.
-/
namespace Vivarium

/-! ### Words of edited genomes -/

namespace Genome

variable {words : Int → Prop} {code between edited : Genome}

theorem replaceAt_subset {line : Nat} {word : Int}
    (replaced : replaceAt code line word = .ok edited) : edited ⊆ word :: code := by
  unfold replaceAt at replaced
  split at replaced
  · cases replaced
    intro other member
    rcases List.mem_or_eq_of_mem_set member with old | rfl
    · exact List.mem_cons_of_mem _ old
    · exact List.mem_cons_self
  · cases replaced

theorem removeAt_subset {line : Nat} (removed : removeAt code line = .ok edited) :
    edited ⊆ code := by
  unfold removeAt at removed
  split at removed
  · cases removed
    exact List.eraseIdx_subset
  · cases removed

theorem fragment_subset {start stop : Nat} (copied : fragment code start stop = .ok edited) :
    edited ⊆ code := by
  unfold fragment at copied
  split at copied
  · cases copied
    exact List.Subset.trans (List.drop_subset _ _) (List.take_subset _ _)
  · cases copied

theorem insertAt_subset {gap : Nat} {piece : List Int}
    (inserted : insertAt code gap piece = .ok edited) : edited ⊆ piece ++ code := by
  unfold insertAt at inserted
  split at inserted
  · cases inserted
    intro word member
    simp only [List.mem_append] at member ⊢
    rcases member with (before | new) | after
    · exact .inr (List.mem_of_mem_take before)
    · exact .inl new
    · exact .inr (List.mem_of_mem_drop after)
  · cases inserted

theorem cut_subset {start stop : Nat} (removed : cut code start stop = .ok edited) :
    edited ⊆ code := by
  unfold cut at removed
  split at removed
  · cases removed
    exact List.append_subset.mpr ⟨List.take_subset _ _, List.drop_subset _ _⟩
  · cases removed

/-- Each word of the second genome is one of the first genome or one of these words. -/
def Derives (words : Int → Prop) (code edited : Genome) : Prop :=
  ∀ word ∈ edited, word ∈ code ∨ words word

namespace Derives

theorem of_subset (subset : edited ⊆ code) : Derives words code edited :=
  fun _ member => .inl (subset member)

theorem refl (code : Genome) : Derives words code code := of_subset (List.Subset.refl code)

theorem trans (first : Derives words code between) (second : Derives words between edited) :
    Derives words code edited := by
  intro word member
  rcases second word member with old | new
  · exact first word old
  · exact .inr new

theorem mono {more : Int → Prop} (derives : Derives words code edited)
    (wider : ∀ word, words word → more word) : Derives more code edited :=
  fun word member => (derives word member).imp_right (wider word)

end Derives

end Genome

/-! ### Drawn words -/

namespace Mutation

open Genome (Derives)

variable {ρ : Type} [DrawSource ρ]

/-- A word that a source of this type can give. -/
def Drawn (ρ : Type) [DrawSource ρ] (word : Int) : Prop :=
  ∃ (opcodeChance : Float) (source next : ρ), randomWord opcodeChance source = .ok (word, next)

theorem drawn_of_drawWords {opcodeChance : Float} {length : Nat} {drawn code : Genome}
    {source next : ρ} (drawing : drawWords opcodeChance length drawn source = .ok (code, next)) :
    Derives (Drawn ρ) drawn code := by
  induction length generalizing drawn source with
  | zero =>
    cases drawing
    exact .of_subset (List.reverse_subset.mpr (List.Subset.refl _))
  | succ length ih =>
    obtain ⟨⟨word, source'⟩, first, drawing⟩ := (bind_eq_ok_iff _ _ _).mp drawing
    refine Derives.trans ?_ (ih drawing)
    intro other member
    rcases List.mem_cons.mp member with rfl | old
    · exact .inr ⟨_, _, _, first⟩
    · exact .inl old

/-- All words of a random genome are drawn. -/
theorem drawn_of_randomCode {opcodeChance : Float} {length : Nat} {code : Genome}
    {source next : ρ} (drawing : randomCode opcodeChance length source = .ok (code, next)) :
    ∀ word ∈ code, Drawn ρ word := by
  obtain ⟨_, -, drawing⟩ := (bind_eq_ok_iff _ _ _).mp drawing
  intro word member
  rcases drawn_of_drawWords drawing word member with old | new
  · cases old
  · exact new

/-- An event brings in no word but one that it draws. -/
theorem derives_applyEvent {config : Config} {kind : Mutation} {org after : Organism}
    {code edited : Genome} {source next : ρ}
    (applied : applyEvent config kind org code source = .ok (after, edited, next)) :
    Derives (Drawn ρ) code edited := by
  cases kind with
  | change =>
    obtain ⟨⟨word, source⟩, draws, applied⟩ := (bind_eq_ok_iff _ _ _).mp applied
    have new : Derives (Drawn ρ) code (word :: code) := by
      intro other member
      rcases List.mem_cons.mp member with rfl | old
      · exact .inr ⟨_, _, _, draws⟩
      · exact .inl old
    simp only at applied
    split at applied
    next =>
      cases applied
      split
      · exact new.trans (.of_subset (by simp))
      · exact .refl code
    next =>
      obtain ⟨⟨line, source⟩, -, applied⟩ := (bind_eq_ok_iff _ _ _).mp applied
      obtain ⟨replaced, replacing, answer⟩ := (bind_eq_ok_iff _ _ _).mp applied
      cases answer
      exact new.trans (.of_subset (Genome.replaceAt_subset replacing))
  | delete =>
    simp only [applyEvent] at applied
    split at applied
    · cases applied
      exact .refl code
    · obtain ⟨⟨line, source⟩, -, applied⟩ := (bind_eq_ok_iff _ _ _).mp applied
      obtain ⟨shorter, removing, answer⟩ := (bind_eq_ok_iff _ _ _).mp applied
      cases answer
      exact .of_subset (Genome.removeAt_subset removing)
  | period =>
    obtain ⟨drawn, -, answer⟩ := (bind_eq_ok_iff _ _ _).mp applied
    cases answer
    exact .refl code
  | amount =>
    cases applied
    exact .refl code
  | weight =>
    obtain ⟨index, -, applied⟩ := (bind_eq_ok_iff _ _ _).mp applied
    obtain ⟨value, -, applied⟩ := (bind_eq_ok_iff _ _ _).mp applied
    simp only at applied
    split at applied
    · cases applied
      exact .refl code
    · cases applied
  | insert =>
    simp only [applyEvent] at applied
    split at applied
    · obtain ⟨⟨word, source⟩, draws, applied⟩ := (bind_eq_ok_iff _ _ _).mp applied
      obtain ⟨⟨gap, source⟩, -, applied⟩ := (bind_eq_ok_iff _ _ _).mp applied
      obtain ⟨longer, inserting, answer⟩ := (bind_eq_ok_iff _ _ _).mp applied
      cases answer
      intro other member
      rcases List.mem_cons.mp (Genome.insertAt_subset inserting member) with rfl | old
      · exact .inr ⟨_, _, _, draws⟩
      · exact .inl old
    · cases applied
      exact .refl code
  | copy =>
    simp only [applyEvent] at applied
    split at applied
    · obtain ⟨⟨start, stop, source⟩, -, applied⟩ := (bind_eq_ok_iff _ _ _).mp applied
      obtain ⟨piece, copying, applied⟩ := (bind_eq_ok_iff _ _ _).mp applied
      obtain ⟨⟨gap, source⟩, -, applied⟩ := (bind_eq_ok_iff _ _ _).mp applied
      obtain ⟨longer, inserting, answer⟩ := (bind_eq_ok_iff _ _ _).mp applied
      cases answer
      apply Derives.of_subset
      apply List.Subset.trans (List.take_subset _ _)
      apply List.Subset.trans (Genome.insertAt_subset inserting)
      exact List.append_subset.mpr ⟨Genome.fragment_subset copying, List.Subset.refl _⟩
    · cases applied
      exact .refl code
  | cut =>
    simp only [applyEvent] at applied
    split at applied
    · cases applied
      exact .refl code
    · obtain ⟨⟨start, stop, source⟩, -, applied⟩ := (bind_eq_ok_iff _ _ _).mp applied
      obtain ⟨shorter, cutting, answer⟩ := (bind_eq_ok_iff _ _ _).mp applied
      cases answer
      exact .of_subset (Genome.cut_subset cutting)

theorem derives_applyEvents {config : Config} {events : Nat} {org after : Organism}
    {code edited : Genome} {source next : ρ}
    (applied : applyEvents config events org code source = .ok (after, edited, next)) :
    Derives (Drawn ρ) code edited := by
  induction events generalizing org code source with
  | zero =>
    cases applied
    exact .refl edited
  | succ events ih =>
    simp only [applyEvents] at applied
    obtain ⟨⟨kind, drawn⟩, -, applied⟩ := (bind_eq_ok_iff _ _ _).mp applied
    obtain ⟨⟨first, between, source⟩, event, applied⟩ := (bind_eq_ok_iff _ _ _).mp applied
    exact (derives_applyEvent event).trans (ih applied)

end Mutation

/-! ### Evolution -/

namespace Organism

open Genome (Derives)
open Mutation (Drawn)

/-- The second organism is what became of the first one, with these words as new ones. -/
structure Evolves (words : Int → Prop) (config : Config) (org after : Organism) : Prop where
  id : after.id = org.id
  parent : after.parent = org.parent
  memory : after.mem.size = org.mem.size
  length : org.code.length ≤ config.codeMaxSize → after.code.length ≤ config.codeMaxSize
  derives : Derives words org.code after.code
  coherent : org.Coherent → after.Coherent

namespace Evolves

variable {words : Int → Prop} {config : Config} {org between after : Organism}

theorem refl (org : Organism) : org.Evolves words config org where
  id := rfl
  parent := rfl
  memory := rfl
  length := fun bounded => bounded
  derives := .refl org.code
  coherent := fun coherent => coherent

theorem trans (first : org.Evolves words config between)
    (second : between.Evolves words config after) : org.Evolves words config after where
  id := second.id.trans first.id
  parent := second.parent.trans first.parent
  memory := second.memory.trans first.memory
  length := second.length ∘ first.length
  derives := first.derives.trans second.derives
  coherent := second.coherent ∘ first.coherent

theorem mono {more : Int → Prop} (evolves : org.Evolves words config after)
    (wider : ∀ word, words word → more word) : org.Evolves more config after :=
  { evolves with derives := evolves.derives.mono wider }

/-- A genome that is set brings its own table and is cut to the permitted size. -/
theorem setCode {code : Genome} (derives : Derives words org.code code) :
    org.Evolves words config (org.setCode code config.codeMaxSize) where
  id := rfl
  parent := rfl
  memory := rfl
  length := fun _ => org.length_setCode_le code config.codeMaxSize
  derives := derives.trans (.of_subset (List.take_subset _ _))
  coherent := fun _ => BlockTable.fits_ofGenome _

end Evolves

variable {words : Int → Prop} {config : Config} {org after : Organism}

/-! ### Programs -/

theorem evolves_setD (org : Organism) (value : Float) :
    org.Evolves words config { org with d := value } := { Evolves.refl org with }

theorem evolves_pushFrame (org : Organism) (frame : Frame) :
    org.Evolves words config (org.pushFrame frame) := by
  unfold pushFrame
  split <;> exact { Evolves.refl org with }

theorem evolves_leaveCode (org : Organism) : org.Evolves words config org.leaveCode := by
  cases saved : org.frames with
  | nil =>
    rw [leaveCode_of_nil saved]
    exact { Evolves.refl org with }
  | cons frame callers =>
    rw [leaveCode_of_frames saved]
    exact { Evolves.refl org with }

theorem evolves_runHeader (org : Organism) : org.Evolves words config org.runHeader := by
  cases saved : org.frames with
  | nil =>
    rw [runHeader_of_nil saved]
    exact { Evolves.refl org with }
  | cons frame callers =>
    rw [runHeader_of_frames saved]
    exact { Evolves.refl org with }

theorem evolves_runReturn (org : Organism) : org.Evolves words config org.runReturn := by
  cases saved : org.frames with
  | nil =>
    rw [runReturn_of_nil saved]
    exact { Evolves.refl org with }
  | cons frame callers =>
    rw [runReturn_of_frames saved]
    exact { Evolves.refl org with }

/-- An instruction whose effect stays inside the organism lets it evolve. -/
theorem evolves_execute {opcode : Opcode} (fetched : org.fetch = some (.op opcode))
    (ran : org.execute opcode = .ok after) : org.Evolves words config after := by
  cases opcode
  case loop =>
    obtain ⟨counter, -, answer⟩ := (bind_eq_ok_iff _ _ _).mp ran
    cases answer
    exact { Evolves.refl org with coherent := fun coherent => coherent.setCounter _ _ }
  case call =>
    rcases runCall_cases ran with ⟨-, rfl⟩ | ⟨start, frame, -, -, -, rfl⟩
    · exact { Evolves.refl org with }
    · exact { org.evolves_pushFrame frame with }
  case func =>
    cases ran
    exact org.evolves_runHeader
  case ret =>
    cases ran
    exact org.evolves_runReturn
  case close =>
    cases ran
    rcases runClose_cases (fetch_eq_op_iff.mp fetched) with
      ⟨-, back⟩ | ⟨frame, callers, -, -, back⟩ | ⟨-, -, onward⟩
    · rw [back]
      exact { Evolves.refl org with }
    · rw [back]
      exact { Evolves.refl org with }
    · rw [onward]
      exact { Evolves.refl org with }
  case memPut =>
    cases ran
    exact { Evolves.refl org with memory := by simp [compute, advance] }
  all_goals
    cases ran
    exact { Evolves.refl org with }

/-! ### Mutations -/

variable {ρ : Type} [DrawSource ρ]

theorem Retuned.evolves (retuned : org.Retuned after) : org.Evolves words config after := by
  obtain ⟨period, percent, weights, rfl, -⟩ := retuned
  exact { Evolves.refl org with }

/-- A retuned organism has the genome that it had. -/
theorem Retuned.code (retuned : org.Retuned after) : after.code = org.code := by
  obtain ⟨period, percent, weights, rfl, -⟩ := retuned
  rfl

theorem evolves_mutate {source next : ρ} {events : Nat}
    (mutated : org.mutate config source = .ok (events, after, next)) :
    org.Evolves (Drawn ρ) config after := by
  obtain ⟨⟨first, code, source⟩, applied, mutated⟩ := (bind_eq_ok_iff _ _ _).mp mutated
  obtain ⟨last, finished, answer⟩ := (bind_eq_ok_iff _ _ _).mp mutated
  obtain ⟨mutations, -, counted⟩ := (bind_eq_ok_iff _ _ _).mp finished
  cases counted
  cases answer
  have retuned := Mutation.retuned_applyEvents applied
  have derives : Derives (Drawn ρ) first.code code := by
    rw [retuned.code]
    exact Mutation.derives_applyEvents applied
  have set : first.Evolves (Drawn ρ) config (first.setCode code config.codeMaxSize) :=
    .setCode derives
  exact { retuned.evolves.trans set with }

/-- A crossover brings in words of the donor alone. -/
theorem evolves_crossover {donor : Genome} {source next : ρ} {found : Bool}
    (crossed : org.crossover donor config source = .ok (found, after, next)) :
    org.Evolves (· ∈ donor) config after := by
  unfold crossover at crossed
  split at crossed
  · cases crossed
    exact .refl org
  · obtain ⟨⟨start, stop, source⟩, -, crossed⟩ := (bind_eq_ok_iff _ _ _).mp crossed
    obtain ⟨piece, copying, crossed⟩ := (bind_eq_ok_iff _ _ _).mp crossed
    obtain ⟨⟨gap, source⟩, -, crossed⟩ := (bind_eq_ok_iff _ _ _).mp crossed
    obtain ⟨code, inserting, answer⟩ := (bind_eq_ok_iff _ _ _).mp crossed
    cases answer
    apply Evolves.setCode
    intro word member
    rcases List.mem_append.mp (Genome.insertAt_subset inserting member) with new | old
    · exact .inr (Genome.fragment_subset copying new)
    · exact .inl old

end Organism

end Vivarium
