/-!
# A view without a screen

What is left of a view when nothing is drawn: the last status line.
-/
namespace Vivarium

structure StatusView where
  lastTitle : Option String
  deriving DecidableEq, Repr

namespace StatusView

/-- A view that has heard nothing yet. -/
def fresh : StatusView := { lastTitle := none }

def title (_ : StatusView) (text : String) : StatusView := { lastTitle := some text }

end StatusView

end Vivarium
