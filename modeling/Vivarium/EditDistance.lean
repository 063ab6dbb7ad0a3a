/-!
# Edit distance

The least number of single-word insertions, deletions and substitutions between
two genomes, computed row by row: row `i` holds, for each prefix of the second
genome, its distance from the first `i` words of the first.
-/
namespace Vivarium.EditDistance

/-- The entries of a row after its first one. `above` is the row before from the
entry diagonally above on, `left` the entry just computed. -/
def fillRow (word : Int) : (b : List Int) → (above : List Nat) → (left : Nat) → List Nat
  | other :: b, diagonal :: up :: above, left =>
    let cost := if word = other then 0 else 1
    let entry := min (min (diagonal + cost) (up + 1)) (left + 1)
    entry :: fillRow word b (up :: above) entry
  | _, _, _ => []

/-- The row after `above`. -/
def nextRow (word : Int) (b : List Int) (above : List Nat) : List Nat :=
  let first := above.headD 0 + 1
  first :: fillRow word b above first

def firstRow (b : List Int) : List Nat := List.range (b.length + 1)

/-- The row of all words of the first genome. -/
def lastRow (a b : List Int) : List Nat :=
  a.foldl (fun above word => nextRow word b above) (firstRow b)

def distance (a b : List Int) : Nat := (lastRow a b).getLastD 0

theorem length_fillRow (word : Int) (b : List Int) (above : List Nat) (left : Nat)
    (long : above.length = b.length + 1) : (fillRow word b above left).length = b.length := by
  induction b generalizing above left with
  | nil => cases above <;> simp [fillRow]
  | cons other b ih =>
    match above, long with
    | diagonal :: up :: above, long =>
      simp only [fillRow, List.length_cons]
      rw [ih (up :: above) _ (by simpa using long)]

theorem length_lastRow (a b : List Int) : (lastRow a b).length = b.length + 1 := by
  unfold lastRow
  generalize start : firstRow b = row
  have long : row.length = b.length + 1 := by simp [← start, firstRow]
  clear start
  induction a generalizing row with
  | nil => exact long
  | cons word a ih =>
    refine ih _ ?_
    simp [nextRow, length_fillRow word b row _ long]

end Vivarium.EditDistance
