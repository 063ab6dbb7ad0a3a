import Vivarium.Organism
import Vivarium.Draw

/-!
# Mutation

A mutation is a number of events, each of a kind drawn by the weights that the
organism carries. Three kinds change how the organism mutates, the other five
edit the genome. Crossover splices a fragment of another genome in. Whatever
happens to it, the genome is set once at the end, cut to the permitted size.
-/
namespace Vivarium

/-- The kinds of event, in the order of their weights. -/
inductive Mutation where
  /-- Replace one word. -/
  | change
  /-- Remove one word. -/
  | delete
  /-- Draw the age between two mutations anew. -/
  | period
  /-- Draw the share of the genome touched anew. -/
  | amount
  /-- Draw one weight anew. -/
  | weight
  /-- Insert a random word. -/
  | insert
  /-- Duplicate a fragment. -/
  | copy
  /-- Remove a fragment. -/
  | cut
  deriving DecidableEq, Repr

namespace Mutation

def all : List Mutation := [change, delete, period, amount, weight, insert, copy, cut]

/-- The kind in whose share of the roll the number falls. -/
def kindAt? : List (Mutation × Nat) → (roll : Nat) → Outcome (Option Mutation)
  | [], _ => .ok none
  | (kind, share) :: rest, roll =>
    if roll < share then .ok (some kind)
    else do
      let roll ← Count.sub roll share
      kindAt? rest roll

def totalWeight (weights : List Nat) : Outcome Nat :=
  weights.foldlM (Count.add limit64) 0

section Drawing

variable {ρ : Type} [DrawSource ρ]

/-- A kind drawn by its weight; without any weight it is `change`. -/
def pick (weights : Weights) (source : ρ) : Outcome (Mutation × ρ) := do
  let total ← totalWeight weights.toList
  if total = 0 then return (change, source)
  else
    let (roll, source) ← Draw.below .word64 total source
    let kind ← kindAt? (all.zip weights.toList) roll
    return (kind.getD change, source)

/-- An opcode with the given chance, else a number. -/
def randomWord (opcodeChance : Float) (source : ρ) : Outcome (Int × ρ) := do
  let (fraction, source) := Draw.unit source
  if fraction < opcodeChance then
    let (index, source) ← Draw.between .word32 0 opcodeCount source
    return (literalBound + index, source)
  else
    Draw.between .word32 (1 - literalBound) literalBound source

/-- Draw so many words after those already drawn, of which the newest comes first. -/
def drawWords (opcodeChance : Float) : (length : Nat) → (drawn : Genome) → ρ →
    Outcome (Genome × ρ)
  | 0, drawn, source => .ok (drawn.reverse, source)
  | length + 1, drawn, source => do
    let (word, source) ← randomWord opcodeChance source
    drawWords opcodeChance length (word :: drawn) source

/-- A genome of random words, if there is room for it. -/
def randomCode (opcodeChance : Float) (length : Nat) (source : ρ) : Outcome (Genome × ρ) := do
  reserve length Genome.wordBytes
  drawWords opcodeChance length [] source

/-- The bounds of a random fragment that is not empty. -/
def randomFragment (length : Nat) (source : ρ) : Outcome (Nat × Nat × ρ) := do
  let (start, source) ← Draw.position length source
  let (last, source) ← Draw.positionFrom start length source
  return (start, last + 1, source)

/-- One event on an organism and the genome that is being edited. -/
def applyEvent (config : Config) (kind : Mutation) (org : Organism) (code : Genome) (source : ρ) :
    Outcome (Organism × Genome × ρ) :=
  match kind with
  | change => do
    let (word, source) ← randomWord config.codeOpcodeChance source
    -- There is no word to replace, so the word becomes the genome.
    if code.length = 0 then
      return (org, if 0 < config.codeMaxSize then code ++ [word] else code, source)
    else
      let (line, source) ← Draw.position code.length source
      let code ← Genome.replaceAt code line word
      return (org, code, source)
  | delete =>
    if code.length = 0 then .ok (org, code, source)
    else do
      let (line, source) ← Draw.position code.length source
      let code ← Genome.removeAt code line
      return (org, code, source)
  | period => do
    let (drawn, source) ← Draw.between .word32 1 (max config.orgMaxPeriod 1 + 1) source
    return ({ org with period := drawn.toNat }, code, source)
  | amount =>
    let (percent, source) := Draw.unit source
    .ok ({ org with percent }, code, source)
  | weight => do
    let (index, source) ← Draw.position mutationKindCount source
    let (value, source) ← Draw.below .word32 (config.probMaxValue + 1) source
    if inside : index < mutationKindCount then
      return ({ org with weights := org.weights.set index value }, code, source)
    else .error .outOfRange
  | insert =>
    if code.length < config.codeMaxSize then do
      let (word, source) ← randomWord config.codeOpcodeChance source
      let (gap, source) ← Draw.gap code.length source
      let code ← Genome.insertAt code gap [word]
      return (org, code, source)
    else .ok (org, code, source)
  | copy =>
    if 0 < code.length ∧ code.length < config.codeMaxSize then do
      let (start, stop, source) ← randomFragment code.length source
      let piece ← Genome.fragment code start stop
      let (gap, source) ← Draw.gap code.length source
      let code ← Genome.insertAt code gap piece
      return (org, code.take config.codeMaxSize, source)
    else .ok (org, code, source)
  | cut =>
    if code.length = 0 then .ok (org, code, source)
    else do
      let (start, stop, source) ← randomFragment code.length source
      let code ← Genome.cut code start stop
      return (org, code, source)

/-- Set the edited genome and count the mutation. -/
def finish (config : Config) (org : Organism) (code : Genome) : Outcome Organism := do
  let mutations ← Count.add limit64 org.mutations 1
  return { org.setCode code config.codeMaxSize with mutations }

def apply (config : Config) (kind : Mutation) (org : Organism) (source : ρ) :
    Outcome (Organism × ρ) := do
  let (org, code, source) ← applyEvent config kind org org.code source
  let org ← finish config org code
  return (org, source)

/-- A number of events, each of a kind drawn by the weights of that moment. -/
def applyEvents (config : Config) : (events : Nat) → Organism → Genome → ρ →
    Outcome (Organism × Genome × ρ)
  | 0, org, code, source => .ok (org, code, source)
  | events + 1, org, code, source => do
    let (kind, source) ← pick org.weights source
    let (org, code, source) ← applyEvent config kind org code source
    applyEvents config events org code source

/-- How many events one mutation of an organism has: its share of the genome, but
at least one. -/
def eventCount (org : Organism) : Nat :=
  max (Register.truncateToCount (Register.round (Register.ofNat org.code.length * org.percent))) 1

end Drawing

end Mutation

namespace Organism

variable {ρ : Type} [DrawSource ρ]

/-- Mutate, and how many events that took. -/
def mutate (org : Organism) (config : Config) (source : ρ) : Outcome (Nat × Organism × ρ) := do
  let events := Mutation.eventCount org
  let (org, code, source) ← Mutation.applyEvents config events org org.code source
  let org ← Mutation.finish config org code
  return (events, org, source)

/-- Splice a random fragment of a donor in, and whether there was one. -/
def crossover (org : Organism) (donor : Genome) (config : Config) (source : ρ) :
    Outcome (Bool × Organism × ρ) :=
  if donor.length = 0 then .ok (false, org, source)
  else do
    let (start, stop, source) ← Mutation.randomFragment donor.length source
    let piece ← Genome.fragment donor start stop
    let (gap, source) ← Draw.gap org.code.length source
    let code ← Genome.insertAt org.code gap piece
    return (true, org.setCode code config.codeMaxSize, source)

end Organism

end Vivarium
