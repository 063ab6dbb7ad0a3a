import Vivarium.Organism.Program

/-!
# Coherent organisms

The block table of an organism belongs to its genome: it has the targets and the
functions of that genome, and one counter per line. Only the counters change while
a genome is executed.
-/
namespace Vivarium

/-- The table has the block structure of a genome and a counter for each of its lines. -/
structure BlockTable.Fits (table : BlockTable) (code : Genome) : Prop where
  targets : table.targets = (ofGenome code).targets
  functions : table.functions = (ofGenome code).functions
  counters : table.counters.size = code.length

namespace BlockTable

theorem fits_ofGenome (code : Genome) : (ofGenome code).Fits code where
  targets := rfl
  functions := rfl
  counters := by simp [ofGenome]

theorem Fits.target {table : BlockTable} {code : Genome} (fits : table.Fits code) (line : Nat) :
    table.target line = (ofGenome code).target line := by
  simp only [BlockTable.target, fits.targets]

theorem Fits.setCounter {table : BlockTable} {code : Genome} (fits : table.Fits code) (line : Nat)
    (value : Int) : (table.setCounter line value).Fits code where
  targets := fits.targets
  functions := fits.functions
  counters := by simpa [BlockTable.setCounter] using fits.counters

end BlockTable

/-- The block table of the organism is the one of its genome. -/
def Organism.Coherent (org : Organism) : Prop := org.blocks.Fits org.code

end Vivarium
