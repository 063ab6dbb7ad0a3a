import Vivarium.Proofs.Scene.Creation

/-!
# Filling the grid

Tokens are dropped on random cells, so how many of them find a cell is a matter of
chance. Chance may point at one cell after the other: then each token finds one
until the grid is full, and on a full grid nothing is dropped any more.
-/
namespace Vivarium

/-- A source that points at one place after the other. -/
structure Sweep where
  place : Nat

instance : DrawSource Sweep where
  below _ bound sweep := (min sweep.place (bound - 1), { place := sweep.place + 1 })
  unit sweep := (0.0, sweep)

instance : LawfulDrawSource Sweep where
  below_lt _ bound sweep positive := by
    simp only [DrawSource.below]
    omega

namespace Grid

/-- No cell is empty. -/
def Full (grid : Grid) : Prop := ∀ offset, offset < grid.size → grid.get offset ≠ .empty

/-- Exactly the cells before a place are taken. -/
def Swept (grid : Grid) (place : Nat) : Prop :=
  ∀ offset, offset < grid.size → (grid.get offset = .empty ↔ place ≤ offset)

variable {grid : Grid}

theorem swept_blank (config : Config) : (blank config).Swept 0 :=
  fun offset _ => iff_of_true (get_blank config offset) (Nat.zero_le _)

theorem Swept.full {place : Nat} (swept : grid.Swept place) (last : grid.size ≤ place) :
    grid.Full := by
  intro offset inside empty
  have beyond := (swept offset inside).mp empty
  omega

theorem Swept.set {place : Nat} (swept : grid.Swept place) (inside : place < grid.size)
    (token : Token) : (grid.set place (.token token)).Swept (place + 1) := by
  intro offset within
  rw [grid.size_set] at within
  rw [grid.get_set _ _ _ inside]
  split
  next here => simp [here]
  next elsewhere =>
    rw [swept offset within]
    omega

theorem getElem?_cells {offset : Nat} (inside : offset < grid.size) :
    grid.cells[offset]? = some (grid.get offset) := by
  obtain ⟨cell, held⟩ : ∃ cell, grid.cells[offset]? = some cell :=
    ⟨_, Array.getElem?_eq_getElem inside⟩
  rw [get, Array.getD_eq_getD_getElem?, held, Option.getD_some]

theorem randomEmpty_of_full {ρ : Type} [DrawSource ρ] [LawfulDrawSource ρ] (full : grid.Full)
    (positive : 0 < grid.size) (attempts : Nat) (source : ρ) :
    ∃ rest, grid.randomEmpty attempts source = .ok (none, rest) := by
  induction attempts generalizing source with
  | zero => exact ⟨source, rfl⟩
  | succ attempts ih =>
    obtain ⟨offset, next, drawn⟩ :
        ∃ offset next, Draw.position grid.size source = .ok (offset, next) :=
      ⟨_, _, Draw.below_eq_ok positive source⟩
    have inside : offset < grid.size := Draw.below_lt drawn
    have taken : (grid.get offset).isEmpty = false := by
      rw [Bool.eq_false_iff, Ne, Cell.isEmpty_iff]
      exact full offset inside
    obtain ⟨rest, missed⟩ := ih next
    refine ⟨rest, (bind_eq_ok_iff _ _ _).mpr ⟨_, drawn, ?_⟩⟩
    simp only [getElem?_cells inside, taken]
    exact missed

theorem randomEmpty_of_swept {place : Nat} (swept : grid.Swept place) (inside : place < grid.size)
    (attempts : Nat) :
    grid.randomEmpty (attempts + 1) (⟨place⟩ : Sweep) = .ok (some place, ⟨place + 1⟩) := by
  have empty : grid.get place = .empty := (swept place inside).mpr (Nat.le_refl _)
  have pointed : Draw.position grid.size (⟨place⟩ : Sweep) = .ok (place, ⟨place + 1⟩) := by
    rw [Draw.position, Draw.below_eq_ok (Nat.zero_lt_of_lt inside)]
    simp only [DrawSource.below]
    rw [Nat.min_eq_left (by omega)]
  refine (bind_eq_ok_iff _ _ _).mpr ⟨_, pointed, ?_⟩
  simp only [getElem?_cells inside, empty]
  rfl

end Grid

namespace Surface

variable {ρ : Type} [DrawSource ρ] {grid : Grid}

theorem put_of_full [LawfulDrawSource ρ] (full : grid.Full) (positive : 0 < grid.size)
    (surface : Surface) (source : ρ) :
    ∃ rest, surface.put grid source = .ok (none, surface, grid, rest) := by
  unfold put
  split
  next => exact ⟨source, rfl⟩
  next =>
    obtain ⟨rest, missed⟩ := Grid.randomEmpty_of_full full positive putAttempts source
    exact ⟨rest, (bind_eq_ok_iff _ _ _).mpr ⟨_, missed, rfl⟩⟩

/-- However many tokens are put on a full grid, nothing happens. -/
theorem putMany_of_full [LawfulDrawSource ρ] (full : grid.Full) (positive : 0 < grid.size)
    (amount placed : Nat) (surface : Surface) (source : ρ) :
    ∃ rest, putMany amount placed surface grid source = .ok (placed, surface, grid, rest) := by
  induction amount generalizing source with
  | zero => exact ⟨source, rfl⟩
  | succ amount ih =>
    obtain ⟨rest, missed⟩ := put_of_full full positive surface source
    obtain ⟨last, others⟩ := ih rest
    exact ⟨last, (bind_eq_ok_iff _ _ _).mpr ⟨_, missed, others⟩⟩

theorem put_of_swept (surface : Surface) {place : Nat} (swept : grid.Swept place)
    (inside : place < grid.size) (room : surface.live < surface.config.capacity)
    (tokens : surface.live + 1 < limit64) (atoms : surface.atoms + 1 < limit64) :
    surface.put grid (⟨place⟩ : Sweep) = .ok (some place, surface.grow place 1,
      grid.set place (.token (.single surface.kind)), ⟨place + 1⟩) := by
  have counted : ({ surface with tokens := (surface.tokens.insert place).2 } : Surface).count 1 =
      .ok (surface.grow place 1) :=
    (bind_eq_ok_iff _ _ _).mpr ⟨_, (Count.add_eq_ok_iff _ _ _ _).mpr ⟨tokens, rfl⟩,
      (bind_eq_ok_iff _ _ _).mpr ⟨_, (Count.add_eq_ok_iff _ _ _ _).mpr ⟨atoms, rfl⟩, rfl⟩⟩
  rw [put, if_neg (Nat.not_le_of_lt room)]
  refine (bind_eq_ok_iff _ _ _).mpr ⟨_, Grid.randomEmpty_of_swept swept inside 7, ?_⟩
  exact (bind_eq_ok_iff _ _ _).mpr ⟨_, counted, rfl⟩

/-- Enough tokens fill all cells from a place on. -/
theorem putMany_of_swept (amount placed place : Nat) (surface : Surface)
    (swept : grid.Swept place) (positive : 0 < grid.size) (enough : grid.size ≤ place + amount)
    (room : surface.live + amount ≤ surface.config.capacity)
    (tokens : surface.live + grid.size < limit64 + place)
    (atoms : surface.atoms + grid.size < limit64 + place) :
    ∃ total next after rest,
      putMany amount placed surface grid (⟨place⟩ : Sweep) = .ok (total, next, after, rest) ∧
        after.Full ∧ after.size = grid.size ∧
        next.atoms = surface.atoms + (grid.size - place) := by
  -- Each token moves the place on by one, until the place is off the grid.
  induction amount generalizing surface grid placed place with
  | zero =>
    refine ⟨placed, surface, grid, ⟨place⟩, rfl, swept.full enough, rfl, ?_⟩
    omega
  | succ amount ih =>
    rcases Nat.lt_or_ge place grid.size with inside | last
    · have size : (grid.set place (.token (.single surface.kind))).size = grid.size :=
        grid.size_set _ _
      have put := put_of_swept surface swept inside (by omega) (by omega) (by omega)
      have further := ih (placed + 1) (place + 1) (surface.grow place 1)
        (swept.set inside (.single surface.kind))
      rw [size] at further
      simp only [grow] at further
      obtain ⟨total, next, after, rest, others, full, same, grown⟩ :=
        further positive (by omega) (by omega) (by omega) (by omega)
      refine ⟨total, next, after, rest, (bind_eq_ok_iff _ _ _).mpr ⟨_, put, others⟩, full, same, ?_⟩
      omega
    · have full := swept.full last
      obtain ⟨rest, done⟩ :=
        putMany_of_full full positive (amount + 1) placed surface (⟨place⟩ : Sweep)
      refine ⟨placed, surface, grid, rest, done, full, rfl, ?_⟩
      omega

end Surface

end Vivarium
