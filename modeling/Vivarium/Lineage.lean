import Vivarium.World
import Vivarium.Config.Text

/-!
# Births and run summaries as text

Each birth and each summary is one line of JSON. A birth is read back with all
its members; only the parent may be missing, which is as good as `null`.
-/
namespace Vivarium

open Json (Codec RecordField)

/-- A code word, which has 32 bits and a sign. -/
def codeWord : Codec Int := .integer (-2147483648) 2147483647

namespace BirthRecord

/-- The record that reading starts from. -/
def blank : BirthRecord :=
  { id := 0, parent := none, iteration := 0, offset := 0, energy := 0, code := [] }

def fields : List (RecordField BirthRecord) :=
  [ largeCount.field "id" (·.id) fun value record => { record with id := value },
    largeCount.option.field "parent" (·.parent) fun value record => { record with parent := value },
    largeCount.field "iteration" (·.iteration)
      fun value record => { record with iteration := value },
    largeCount.field "offset" (·.offset) fun value record => { record with offset := value },
    amount.field "energy" (·.energy) fun value record => { record with energy := value },
    codeWord.list.field "code" (·.code) fun value record => { record with code := value } ]

def codec : Codec BirthRecord :=
  .strictRecord fields blank ["id", "iteration", "offset", "energy", "code"]

/-- The line of a birth, in the pieces in which it is written. -/
def line (record : BirthRecord) : List String := (codec.write record).pieces ++ ["\n"]

end BirthRecord

namespace RunSummary

def toValue (summary : RunSummary) : Json.Value :=
  .object
    [ ("iteration", .ofNat summary.iteration),
      ("organisms", .ofNat summary.organisms),
      ("total_energy", .ofInt summary.totalEnergy),
      ("average_energy", .ofInt summary.averageEnergy),
      ("diff", .ofFloat summary.diff),
      ("generation", .ofNat summary.generation),
      ("lines_executed", .ofNat summary.linesExecuted) ]

def line (summary : RunSummary) : String := summary.toValue.render ++ "\n"

end RunSummary

end Vivarium
