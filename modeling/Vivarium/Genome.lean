import Vivarium.BlockTable
import Vivarium.Fault

/-!
# Editing genomes

The edits that mutation is made of. Each one addresses words by position and
faults when a position lies outside the genome.
-/
namespace Vivarium.Genome

def wordBytes : Nat := 4

/-- Put another word on a line. -/
def replaceAt (code : Genome) (line : Nat) (word : Int) : Outcome Genome :=
  if line < code.length then .ok (code.set line word) else .error .outOfRange

/-- Take the word of a line out. -/
def removeAt (code : Genome) (line : Nat) : Outcome Genome :=
  if line < code.length then .ok (code.eraseIdx line) else .error .outOfRange

/-- The words from `start` up to but not including `stop`. -/
def fragment (code : Genome) (start stop : Nat) : Outcome Genome :=
  if start ≤ stop ∧ stop ≤ code.length then .ok ((code.take stop).drop start)
  else .error .outOfRange

/-- Put words into a gap. -/
def insertAt (code : Genome) (gap : Nat) (words : List Int) : Outcome Genome :=
  if gap ≤ code.length then .ok (code.take gap ++ words ++ code.drop gap)
  else .error .outOfRange

/-- Take the words from `start` up to but not including `stop` out. -/
def cut (code : Genome) (start stop : Nat) : Outcome Genome :=
  if start ≤ stop ∧ stop ≤ code.length then .ok (code.take start ++ code.drop stop)
  else .error .outOfRange

end Vivarium.Genome
