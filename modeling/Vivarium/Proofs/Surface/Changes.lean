import Vivarium.Surface

/-!
# What the operations on a surface change

Each operation on a surface is described by the surface and the grid it returns:
either it leaves both alone, or it writes one or two cells and changes counters
and token set with them. A cell is only written when it is free or shows a token
of the surface.
-/
namespace Vivarium

namespace Grid

/-- The offset lies on the grid and shows nothing. -/
def Free (grid : Grid) (offset : Nat) : Prop := offset < grid.size ∧ grid.get offset = .empty

theorem get_of_size_le (grid : Grid) (offset : Nat) (outside : grid.size ≤ offset) :
    grid.get offset = .empty := by
  unfold get
  rw [Array.getD_eq_getD_getElem?, Array.getElem?_eq_none outside]
  rfl

/-- What is shown is shown on the grid. -/
theorem lt_size_of_get {grid : Grid} {offset : Nat} {cell : Cell}
    (shown : grid.get offset = cell) (occupied : cell ≠ .empty) : offset < grid.size := by
  apply Nat.lt_of_not_le
  intro outside
  rw [grid.get_of_size_le offset outside] at shown
  exact occupied shown.symm

theorem neighbor_lt_size {grid : Grid} {offset direction target : Nat} {extra : Int}
    (found : grid.neighbor offset direction extra = some target) : target < grid.size := by
  simp only [neighbor] at found
  split at found
  next inside =>
    rw [Option.some.injEq] at found
    omega
  next => simp at found

section Drawing

variable {ρ : Type} [DrawSource ρ]

theorem free_of_randomEmpty {grid : Grid} {attempts offset : Nat} {source next : ρ}
    (found : grid.randomEmpty attempts source = .ok (some offset, next)) : grid.Free offset := by
  -- Each failed attempt goes on from where the draws are now.
  induction attempts generalizing source with
  | zero => cases found
  | succ attempts ih =>
    simp only [randomEmpty] at found
    obtain ⟨⟨drawn, source⟩, -, found⟩ := (bind_eq_ok_iff _ _ _).mp found
    simp only at found
    split at found
    next => cases found
    next cell held =>
      split at found
      next isEmpty =>
        cases found
        rw [Cell.isEmpty_iff] at isEmpty
        refine ⟨(Array.getElem?_eq_some_iff.mp held).1, ?_⟩
        rw [get, Array.getD_eq_getD_getElem?, held, Option.getD_some, isEmpty]
      next => exact ih found

end Drawing

end Grid

namespace Surface

/-- The surface with a new token on an offset. -/
def grow (surface : Surface) (offset atoms : Nat) : Surface :=
  { surface with
    live := surface.live + 1
    atoms := surface.atoms + atoms
    tokens := (surface.tokens.insert offset).2 }

theorem count_eq_ok {surface next : Surface} {atoms : Nat}
    (counted : surface.count atoms = .ok next) :
    next = { surface with live := surface.live + 1, atoms := surface.atoms + atoms } := by
  obtain ⟨live, oneMore, counted⟩ := (bind_eq_ok_iff _ _ _).mp counted
  obtain ⟨sum, added, answer⟩ := (bind_eq_ok_iff _ _ _).mp counted
  rw [Count.add_eq_ok_iff] at oneMore added
  rw [pure_eq_ok_iff] at answer
  rw [← answer, oneMore.2, added.2]

/-! ### Tokens put down -/

theorem place_eq {surface next : Surface} {grid after : Grid} {offset : Nat} {token : Token}
    {placed : Bool} (done : surface.place grid offset token = (placed, next, after)) :
    if placed then grid.Free offset ∧ (next, after) = surface.lay grid offset token
    else next = surface ∧ after = grid := by
  unfold place at done
  split at done
  next refused =>
    cases done
    exact ⟨rfl, rfl⟩
  next allowed =>
    cases done
    -- The refusal tests for a place off the grid or taken; negated, it says the place is free.
    rw [not_or, Nat.not_le, Bool.not_eq_true', Bool.not_eq_false, Cell.isEmpty_iff] at allowed
    exact ⟨allowed, rfl⟩

theorem insert_eq_ok {surface next : Surface} {grid after : Grid} {offset atoms : Nat}
    {added : Bool} (done : surface.insert grid offset atoms = .ok (added, next, after)) :
    if added then
      surface.live < surface.config.capacity ∧ grid.Free offset ∧
        next = surface.grow offset (max atoms 1) ∧
        after = grid.set offset (.token { kind := surface.kind, atoms := max atoms 1 })
    else next = surface ∧ after = grid := by
  simp only [insert] at done
  split at done
  next =>
    cases done
    exact ⟨rfl, rfl⟩
  next room =>
    split at done
    next refused =>
      cases done
      exact place_eq refused
    next laid grid' placed =>
      obtain ⟨counted, count, answer⟩ := (bind_eq_ok_iff _ _ _).mp done
      cases answer
      -- The atoms were counted by `count`, the place by `lay`; together that is `grow`.
      obtain ⟨free, same⟩ := place_eq placed
      cases same
      exact ⟨by omega, free, count_eq_ok count, rfl⟩

/-! ### Tokens taken away -/

theorem remove_eq_none {surface next : Surface} {grid after : Grid} {offset : Nat}
    {pickedUp : Bool} (done : surface.remove grid offset pickedUp = .ok (none, next, after)) :
    next = surface ∧ after = grid ∧ surface.ownToken? grid offset = none := by
  unfold remove at done
  split at done
  next foreign =>
    cases done
    exact ⟨rfl, rfl, foreign⟩
  next token _ =>
    obtain ⟨erased, -, answer⟩ := (bind_eq_ok_iff _ _ _).mp done
    cases answer

theorem remove_eq_some {surface next : Surface} {grid after : Grid} {offset : Nat}
    {pickedUp : Bool} {token : Token}
    (done : surface.remove grid offset pickedUp = .ok (some token, next, after)) :
    grid.get offset = .token token ∧ token.kind = surface.kind ∧
      ∃ found tokens, surface.tokens.erase offset = .ok (found, tokens) ∧
        next = (if pickedUp then { surface with tokens }
          else { surface with tokens }.forget token) ∧
        after = grid.set offset .empty := by
  unfold remove at done
  split at done
  next => cases done
  next own shown =>
    obtain ⟨⟨found, tokens⟩, erased, answer⟩ := (bind_eq_ok_iff _ _ _).mp done
    cases answer
    rw [ownToken?_eq_some_iff] at shown
    exact ⟨shown.1, shown.2, found, tokens, erased, rfl, rfl⟩

theorem merge_eq_none {surface next : Surface} {grid after : Grid} {offset : Nat}
    {carried : Token} (done : surface.merge grid offset carried = .ok (none, next, after)) :
    next = surface ∧ after = grid := by
  unfold merge at done
  split at done
  next =>
    cases done
    exact ⟨rfl, rfl⟩
  next token _ =>
    obtain ⟨lost, -, answer⟩ := (bind_eq_ok_iff _ _ _).mp done
    cases answer

theorem merge_eq_some {surface next : Surface} {grid after : Grid} {offset : Nat}
    {carried merged : Token}
    (done : surface.merge grid offset carried = .ok (some merged, next, after)) :
    ∃ target, grid.get offset = .token target ∧ target.kind = surface.kind ∧
      merged = { kind := target.kind, atoms := min maxAtoms (target.atoms + carried.atoms) } ∧
      next = { surface with
        atoms := surface.atoms - (target.atoms + carried.atoms - merged.atoms)
        live := surface.live - 1 } ∧
      after = grid.set offset (.token merged) := by
  unfold merge at done
  split at done
  next => cases done
  next target shown =>
    obtain ⟨lost, difference, answer⟩ := (bind_eq_ok_iff _ _ _).mp done
    cases answer
    rw [ownToken?_eq_some_iff] at shown
    -- The subtraction is checked, so the atoms lost in the fusion are exact.
    rw [Count.sub_eq_ok_iff] at difference
    refine ⟨target, shown.1, shown.2, rfl, ?_, rfl⟩
    rw [difference.2]

section Drawing

variable {ρ : Type} [DrawSource ρ]

theorem put_eq_none {surface next : Surface} {grid after : Grid} {source rest : ρ}
    (done : surface.put grid source = .ok (none, next, after, rest)) :
    next = surface ∧ after = grid := by
  unfold put at done
  split at done
  next =>
    cases done
    exact ⟨rfl, rfl⟩
  next =>
    obtain ⟨⟨found, source⟩, -, done⟩ := (bind_eq_ok_iff _ _ _).mp done
    simp only at done
    split at done
    next =>
      cases done
      exact ⟨rfl, rfl⟩
    next =>
      obtain ⟨counted, -, answer⟩ := (bind_eq_ok_iff _ _ _).mp done
      cases answer

theorem put_eq_some {surface next : Surface} {grid after : Grid} {source rest : ρ}
    {offset : Nat} (done : surface.put grid source = .ok (some offset, next, after, rest)) :
    surface.live < surface.config.capacity ∧ grid.Free offset ∧
      next = surface.grow offset 1 ∧
      after = grid.set offset (.token (.single surface.kind)) := by
  unfold put at done
  split at done
  next => cases done
  next room =>
    obtain ⟨⟨found, source⟩, drawn, done⟩ := (bind_eq_ok_iff _ _ _).mp done
    simp only at done
    split at done
    next => cases done
    next =>
      obtain ⟨counted, count, answer⟩ := (bind_eq_ok_iff _ _ _).mp done
      cases answer
      exact ⟨by omega, Grid.free_of_randomEmpty drawn, count_eq_ok count, rfl⟩

theorem restore_eq_ok {surface next : Surface} {grid after : Grid} {token : Token}
    {source rest : ρ} {landed : Option Nat}
    (done : surface.restore grid token source = .ok (landed, next, after, rest)) :
    (next = surface.forget token ∧ after = grid) ∨
      ∃ offset, grid.Free offset ∧ (next, after) = surface.lay grid offset token := by
  unfold restore at done
  obtain ⟨⟨found, source⟩, drawn, done⟩ := (bind_eq_ok_iff _ _ _).mp done
  simp only at done
  split at done
  next =>
    cases done
    exact .inl ⟨rfl, rfl⟩
  next offset =>
    cases done
    exact .inr ⟨offset, Grid.free_of_randomEmpty drawn, rfl⟩

/-! ### Tokens that move -/

theorem free_of_firstEmpty {grid : Grid} {offset target : Nat} {directions : List Nat}
    (found : firstEmpty grid offset directions = some target) : grid.Free target := by
  obtain ⟨direction, -, led⟩ := List.exists_of_findSome?_eq_some found
  rw [Option.filter_eq_some_iff] at led
  exact ⟨Grid.neighbor_lt_size led.1, (Cell.isEmpty_iff _).mp led.2⟩

theorem free_of_destination {motion : Motion} {grid : Grid} {offset target : Nat}
    {source rest : ρ} (found : destination motion grid offset source = .ok (some target, rest)) :
    grid.Free target := by
  unfold destination at found
  cases motion with
  | still => cases found
  | spread =>
    obtain ⟨⟨direction, drawn⟩, -, answer⟩ := (bind_eq_ok_iff _ _ _).mp found
    simp only [pure_eq_ok_iff, Prod.mk.injEq] at answer
    exact free_of_firstEmpty answer.1
  | settle =>
    simp only [Except.ok.injEq, Prod.mk.injEq] at found
    exact free_of_firstEmpty found.1
  | evaporate => exact Grid.free_of_randomEmpty found

theorem move_eq_ok {surface next : Surface} {grid after : Grid} {source rest : ρ}
    {moved : Bool} (done : surface.move grid source = .ok (moved, next, after, rest)) :
    if moved then
      ∃ origin target token found tokens,
        grid.get origin = .token token ∧ token.kind = surface.kind ∧ grid.Free target ∧
        surface.tokens.erase origin = .ok (found, tokens) ∧
        next = { surface with tokens := (tokens.insert target).2 } ∧
        after = (grid.set origin .empty).set target (.token token)
    else next = surface ∧ after = grid := by
  unfold move at done
  -- A move can end early in four ways: no member, none drawn, the cell shows no own token, or
  -- there is nowhere to go. None of them writes anything.
  split at done
  next =>
    cases done
    exact ⟨rfl, rfl⟩
  next =>
    obtain ⟨⟨drawn, source⟩, -, done⟩ := (bind_eq_ok_iff _ _ _).mp done
    simp only at done
    split at done
    next =>
      cases done
      exact ⟨rfl, rfl⟩
    next origin =>
      split at done
      next =>
        cases done
        exact ⟨rfl, rfl⟩
      next token shown =>
        obtain ⟨⟨target, source⟩, led, done⟩ := (bind_eq_ok_iff _ _ _).mp done
        simp only at done
        split at done
        next =>
          cases done
          exact ⟨rfl, rfl⟩
        next target =>
          obtain ⟨⟨found, tokens⟩, erased, answer⟩ := (bind_eq_ok_iff _ _ _).mp done
          cases answer
          rw [ownToken?_eq_some_iff] at shown
          exact ⟨origin, target, token, found, tokens, shown.1, shown.2,
            free_of_destination led, erased, rfl, rfl⟩

/-- A check of the cadence waits, or it moves after the delay. -/
theorem tick_eq_ok {surface next : Surface} {grid after : Grid} {source rest : ρ}
    {moved : Bool} (done : surface.tick grid source = .ok (moved, next, after, rest)) :
    (next = { surface with waited := surface.waited + 1 } ∧ after = grid) ∨
      ∃ went, { surface with waited := 0 }.move grid source = .ok (went, next, after, rest) := by
  unfold tick at done
  split at done
  next =>
    cases done
    exact .inl ⟨rfl, rfl⟩
  next =>
    obtain ⟨⟨went, surface', grid', source'⟩, went', answer⟩ := (bind_eq_ok_iff _ _ _).mp done
    cases answer
    exact .inr ⟨went, went'⟩

end Drawing

end Surface

end Vivarium
