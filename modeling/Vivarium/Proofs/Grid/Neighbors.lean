import Mathlib.Tactic.Ring
import Mathlib.Tactic.Linarith
import Vivarium.Proofs.Config.Accepted
import Vivarium.Proofs.Grid.Picture

/-!
# Neighbours

A neighbour is found on offsets alone: the difference that belongs to a direction is added, then
a distance, and each sum stops at the ends of the amounts. On the field this comes to a step in
two dimensions that goes on at the opposite edge, one row further, when it leaves its row.

## Main result

- `Grid.neighbor_exact`: on a grid that can be created the sums never stop early in a way that
  matters, a step in a direction moves by its column and its row, and the opposite direction leads
  back.

## Proof strategy

The cells of a grid take sixteen bytes each, so there are far fewer of them than amounts, and a
sum that stops is off the field either way. What is left is division with remainder by the width.
-/
namespace Vivarium

namespace Grid

variable {grid : Grid} {offset target direction : Nat}

/-! ### Grids that can be created -/

/-- There is a grid of this width and height, two numbers of 32 bits, and it has as many cells.
What the cells show does not matter. -/
structure Creatable (grid : Grid) : Prop where
  narrow : grid.width < limit32
  low : grid.height < limit32
  created : ∃ blank, create grid.width grid.height = .ok (.ok blank) ∧ grid.size = blank.size

/-- Cells fill rows that are not empty, and there is storage for all of them. -/
theorem Creatable.shape (creatable : grid.Creatable) :
    grid.Rectangular ∧ grid.size * Cell.bytes ≤ maxBytes := by
  obtain ⟨narrow, low, blank, created, size⟩ := creatable
  simp only [create] at created
  split at created
  · cases created
  next proper =>
    obtain ⟨_, stored, answer⟩ := (bind_eq_ok_iff _ _ _).mp created
    cases answer
    have cells : grid.size = grid.width * grid.height := by
      rw [size]
      simp [Grid.size, empty]
    rw [← cells, reserve_eq_ok_iff] at stored
    exact ⟨⟨by omega, Nat.le_of_lt low, cells⟩, stored⟩

/-- Below the largest amount there is room for all offsets, and for another row. -/
theorem Creatable.size_add_width_le (creatable : grid.Creatable) :
    ((grid.size + grid.width + 1 : Nat) : Int) ≤ maxAmount := by
  have stored := creatable.shape.2
  have narrow := creatable.narrow
  simp only [Cell.bytes, maxBytes, limit32, maxAmount] at *
  omega

/-! ### Sums of offsets -/

theorem natAbs_delta_le (width direction : Nat) :
    (delta width direction).natAbs ≤ width + 1 := by
  unfold delta
  split <;> omega

/-- A neighbour is where the exact sum leads. -/
theorem neighbor_eq (creatable : grid.Creatable) (inside : offset < grid.size)
    (direction : Nat) (extra : Int) :
    grid.neighbor offset direction extra =
      if 0 ≤ offset + delta grid.width (direction % 8) + extra ∧
          offset + delta grid.width (direction % 8) + extra < grid.size then
        some (offset + delta grid.width (direction % 8) + extra).toNat
      else none := by
  have room := creatable.size_add_width_le
  have short := natAbs_delta_le grid.width (direction % 8)
  have read : Amount.wrap offset = offset := Config.wrap_eq (by omega)
  -- The first sum is an amount; the second one only stops beyond either end of the field.
  have stepped : Amount.clamp (offset + delta grid.width (direction % 8)) =
      offset + delta grid.width (direction % 8) := by
    apply Amount.clamp_of_isAmount
    rw [isAmount_iff]
    simp only [minAmount, maxAmount] at *
    omega
  simp only [neighbor, read, stepped]
  generalize offset + delta grid.width (direction % 8) + extra = sum
  have stops : Amount.clamp sum = sum ∨ sum < Amount.clamp sum ∧ Amount.clamp sum < 0 ∨
      (grid.size : Int) ≤ Amount.clamp sum ∧ Amount.clamp sum < sum := by
    simp only [Amount.clamp, minAmount, maxAmount] at *
    omega
  rcases stops with same | below | above
  · rw [same]
  · rw [if_neg (by omega), if_neg (by omega)]
  · rw [if_neg (by omega), if_neg (by omega)]

theorem neighbor_eq_some_iff (creatable : grid.Creatable) (inside : offset < grid.size)
    (direction target : Nat) (extra : Int) :
    grid.neighbor offset direction extra = some target ↔
      (target : Int) = offset + delta grid.width (direction % 8) + extra ∧ target < grid.size := by
  rw [neighbor_eq creatable inside, Option.ite_none_right_eq_some, Option.some.injEq]
  omega

/-! ### Steps in two dimensions -/

/-- The column and the row of each direction, clockwise from straight up. -/
def heading : Nat → Int × Int
  | 0 => (0, -1)
  | 1 => (1, -1)
  | 2 => (1, 0)
  | 3 => (1, 1)
  | 4 => (0, 1)
  | 5 => (-1, 1)
  | 6 => (-1, 0)
  | _ => (-1, -1)

theorem delta_eq_heading (width : Int) (direction : Nat) :
    delta width direction = (heading direction).2 * width + (heading direction).1 := by
  fun_cases delta width direction <;> simp only [heading] <;> omega

/-- Half a turn on is the opposite direction. -/
theorem delta_opposite (width : Int) (direction : Nat) :
    delta width ((direction + 4) % 8) = -delta width (direction % 8) := by
  have turned : (direction + 4) % 8 = (direction % 8 + 4) % 8 := by omega
  have below : direction % 8 < 8 := Nat.mod_lt _ (by decide)
  rw [turned]
  generalize direction % 8 = turns at below
  interval_cases turns <;> simp only [delta, Nat.reduceAdd, Nat.reduceMod] <;> ring

/-- A step by a column and a row, which wraps to a neighbouring row at the edges. -/
def wrapped (width : Int) (column row : Int) : Int × Int :=
  if column < 0 then (width - 1, row - 1)
  else if width ≤ column then (0, row + 1)
  else (column, row)

/-- The position of an offset is the one way to write it as full rows and a part of a row. -/
theorem Rectangular.xy_eq_of_sum (shape : grid.Rectangular) (inside : offset < grid.size)
    (column row : Int) (sum : (offset : Int) = row * grid.width + column)
    (left : 0 ≤ column) (right : column < grid.width) :
    ((grid.xy offset).1 : Int) = column ∧ ((grid.xy offset).2 : Int) = row := by
  have unique := (Int.ediv_emod_unique (by omega : (0 : Int) < grid.width)).mpr
    ⟨(by rw [sum]; ring : column + grid.width * row = offset), left, right⟩
  rw [(shape.xy_eq inside).1]
  exact ⟨(Int.natCast_emod _ _).trans unique.2, (Int.natCast_ediv _ _).trans unique.1⟩

theorem xy_of_neighbor (creatable : grid.Creatable) (inside : offset < grid.size)
    (found : grid.neighbor offset direction 0 = some target) :
    (((grid.xy target).1 : Int), ((grid.xy target).2 : Int)) =
      wrapped grid.width ((grid.xy offset).1 + (heading (direction % 8)).1)
        ((grid.xy offset).2 + (heading (direction % 8)).2) := by
  have shape := creatable.shape.1
  obtain ⟨sum, inside'⟩ := (neighbor_eq_some_iff creatable inside _ _ _).mp found
  obtain ⟨position, column, row⟩ := shape.xy_eq inside
  have whole : (offset : Int) = (offset / grid.width : Nat) * grid.width +
      (offset % grid.width : Nat) := by
    exact_mod_cast (Nat.div_add_mod' offset grid.width).symm
  have short : -1 ≤ (heading (direction % 8)).1 ∧ (heading (direction % 8)).1 ≤ 1 := by
    unfold heading
    split <;> decide
  rw [delta_eq_heading] at sum
  rw [position]
  simp only
  generalize (offset / grid.width : Nat) = y at *
  generalize (offset % grid.width : Nat) = x at *
  generalize (heading (direction % 8)).1 = dx at *
  generalize (heading (direction % 8)).2 = dy at *
  -- The three cases are the three ways to bring the column of the sum back into a row.
  unfold wrapped
  split
  next left =>
    have edge : (x : Int) + dx = -1 := by omega
    have landed := shape.xy_eq_of_sum inside' (grid.width - 1) (y + dy - 1)
      (by linarith) (by omega) (by omega)
    rw [landed.1, landed.2]
  next =>
    split
    next right =>
      have edge : (x : Int) + dx = grid.width := by omega
      have landed := shape.xy_eq_of_sum inside' 0 (y + dy + 1)
        (by linarith) (by omega) (by omega)
      rw [landed.1, landed.2]
    next =>
      have landed := shape.xy_eq_of_sum inside' (x + dx) (y + dy)
        (by linarith) (by omega) (by omega)
      rw [landed.1, landed.2]

theorem neighbor_opposite (creatable : grid.Creatable) (inside : offset < grid.size)
    (found : grid.neighbor offset direction 0 = some target) :
    grid.neighbor target (direction + 4) 0 = some offset := by
  obtain ⟨sum, inside'⟩ := (neighbor_eq_some_iff creatable inside _ _ _).mp found
  rw [neighbor_eq_some_iff creatable inside', delta_opposite]
  exact ⟨by omega, inside⟩

/-- On every grid that can be created, from each of its offsets and in every direction: together
with any distance the exact sum decides, and names the neighbour if it lies on the field. A single
step leads to the column and the row of its direction, or to the opposite edge and one row back or
on if that column is not in the row; and the opposite direction leads back. -/
theorem neighbor_exact (creatable : grid.Creatable) (inside : offset < grid.size)
    (direction : Nat) :
    (∀ extra, grid.neighbor offset direction extra =
        if 0 ≤ offset + delta grid.width (direction % 8) + extra ∧
            offset + delta grid.width (direction % 8) + extra < grid.size then
          some (offset + delta grid.width (direction % 8) + extra).toNat
        else none) ∧
      ∀ target, grid.neighbor offset direction 0 = some target →
        (((grid.xy target).1 : Int), ((grid.xy target).2 : Int)) =
            wrapped grid.width ((grid.xy offset).1 + (heading (direction % 8)).1)
              ((grid.xy offset).2 + (heading (direction % 8)).2) ∧
          grid.neighbor target (direction + 4) 0 = some offset := by
  constructor
  · exact fun extra => neighbor_eq creatable inside direction extra
  · intro target found
    exact ⟨xy_of_neighbor creatable inside found, neighbor_opposite creatable inside found⟩

/-- In a column of three cells a step down and to the right goes on at the left edge, which is the
same one, a row further down; the opposite direction leads back up, and the largest distance off
the field. -/
theorem neighbor_exact_column :
    (empty 1 3).Creatable ∧ 0 < (empty 1 3).size ∧
      (empty 1 3).neighbor 0 3 maxAmount = none ∧ (empty 1 3).neighbor 0 3 0 = some 2 ∧
      ((((empty 1 3).xy 2).1 : Int), (((empty 1 3).xy 2).2 : Int)) = (0, 0 + 1 + 1) ∧
      (empty 1 3).neighbor 2 7 0 = some 0 := by
  have creatable : (empty 1 3).Creatable := ⟨by decide, by decide, empty 1 3, rfl, rfl⟩
  obtain ⟨sums, steps⟩ := neighbor_exact creatable (by decide : 0 < (empty 1 3).size) 3
  have step : (empty 1 3).neighbor 0 3 0 = some 2 := sums 0
  have far : (empty 1 3).neighbor 0 3 maxAmount = none := by
    rw [sums maxAmount, if_neg (by decide)]
  obtain ⟨landed, back⟩ := steps 2 step
  exact ⟨creatable, by decide, far, step, landed, back⟩

end Grid

end Vivarium
