import Mathlib.Algebra.BigOperators.Group.List.Basic
import Vivarium.Proofs.Grid.Neighbors
import Vivarium.Proofs.Surface.Ownership
import Vivarium.Proofs.TokenSet.Listing

/-!
# Tokens that settle come to rest

A token that settles goes straight down or to one of the two cells beside that one. On offsets,
each of these is a step forward by about a width; across an edge of the field the row is another
one, but the step is still forward, and where the field is one cell wide the step that would be
none leads to the cell of the token itself, which is not empty.

## Main result

- `Surface.settling_ends`: a move takes a token to a larger offset, so however often and with
  whatever draws the tokens of a surface are asked to move, they move at most as often as there
  are offsets behind them.

## Proof strategy

`Surface.descent` counts the offsets behind all tokens. A move replaces one offset by a larger one
(`settle_cases`, `lt_of_settles`), which lowers the count; the number of moves made and what is
left of the count never grow together (`moveAll_descent`).
-/
namespace Vivarium

/-! ### Fields and token sets -/

namespace Grid

variable {grid : Grid}

theorem Creatable.set (creatable : grid.Creatable) (offset : Nat) (cell : Cell) :
    (grid.set offset cell).Creatable := by
  have repainted : Repainted grid (grid.set offset cell) := .set .same offset cell
  obtain ⟨width, height, -, size⟩ := repainted.frame
  obtain ⟨narrow, low, created⟩ := creatable
  exact ⟨width ▸ narrow, height ▸ low, by rwa [width, height, size]⟩

end Grid

namespace TokenSet

variable {set next : TokenSet} {offset : Nat}

/-- A set without a member is the rest of its list. -/
theorem perm_of_erase (consistent : set.Consistent) (member : offset ∈ set.toList) {found : Bool}
    (erased : set.erase offset = .ok (found, next)) : set.toList.Perm (offset :: next.toList) := by
  obtain ⟨consistent', members⟩ := erase_eq_ok consistent erased
  have absent : offset ∉ next.toList := fun left => ((members offset).mp left).1 rfl
  rw [List.perm_ext_iff_of_nodup (nodup_toList consistent)
    (List.nodup_cons.mpr ⟨absent, nodup_toList consistent'⟩)]
  intro other
  rw [List.mem_cons, members]
  by_cases same : other = offset
  · simp [same, member]
  · simp [same]

theorem sum_map_insert_le (consistent : set.Consistent) (offset : Nat) (weight : Nat → Nat) :
    ((set.insert offset).2.toList.map weight).sum ≤
      (set.toList.map weight).sum + weight offset := by
  by_cases member : offset ∈ set.toList
  · rw [insert_of_mem consistent member]
    exact Nat.le_add_right _ _
  · rw [(insert_of_not_mem consistent member).2]
    simp

end TokenSet

namespace Surface

variable {surface next : Surface} {grid after : Grid} {origin target : Nat} {token : Token}

/-! ### One move -/

/-- What settles goes to a larger offset, whatever the shape of the field. -/
theorem lt_of_settles (creatable : grid.Creatable) (shown : grid.get origin = .token token)
    (found : firstEmpty grid origin settleDirections = some target) : origin < target := by
  have inside := Grid.lt_size_of_get shown nofun
  have wide := creatable.shape.1.width
  obtain ⟨direction, downward, led⟩ := List.exists_of_findSome?_eq_some found
  rw [Option.filter_eq_some_iff, Cell.isEmpty_iff] at led
  obtain ⟨sum, -⟩ := (Grid.neighbor_eq_some_iff creatable inside _ _ _).mp led.1
  -- A field of one column has a direction that leads nowhere, but there lies the token.
  have elsewhere : target ≠ origin := by
    rintro rfl
    rw [led.2] at shown
    cases shown
  simp only [settleDirections, List.mem_cons, List.not_mem_nil, or_false] at downward
  rcases downward with rfl | rfl | rfl
  all_goals
    simp only [Nat.reduceMod, Grid.delta] at sum
    omega

section Drawing

variable {ρ : Type} [DrawSource ρ]

/-- The member that is drawn goes where the first of its directions leads. -/
theorem move_of_settles {source rest : ρ} {found : Bool} {tokens : TokenSet}
    (settles : surface.config.motion = .settle)
    (random : surface.tokens.random source = .ok (some origin, rest))
    (shown : grid.get origin = .token token) (own : token.kind = surface.kind)
    (led : firstEmpty grid origin settleDirections = some target)
    (erased : surface.tokens.erase origin = .ok (found, tokens)) :
    surface.move grid source = .ok (true, { surface with tokens := (tokens.insert target).2 },
      (grid.set origin .empty).set target (.token token), rest) := by
  have moves : ¬ surface.config.motion = .still := by simp [settles]
  have settled : destination surface.config.motion grid origin rest = .ok (some target, rest) := by
    rw [settles, ← led]
    rfl
  have owned := (ownToken?_eq_some_iff surface grid origin token).mpr ⟨shown, own⟩
  simp only [move, if_neg moves, bind_eq_ok_iff]
  refine ⟨_, random, ?_⟩
  simp only [owned, bind_eq_ok_iff]
  exact ⟨_, settled, (bind_eq_ok_iff _ _ _).mpr ⟨_, erased, rfl⟩⟩

/-- A token that settles is one of the members; everything else stays where it is. -/
theorem settle_cases [LawfulDrawSource ρ] (settles : surface.config.motion = .settle)
    (consistent : surface.tokens.Consistent) (grid : Grid) (source : ρ) :
    (∃ rest, surface.move grid source = .ok (false, surface, grid, rest)) ∨
      ∃ origin target token tokens rest, origin ∈ surface.tokens.toList ∧
        grid.get origin = .token token ∧ token.kind = surface.kind ∧
        firstEmpty grid origin settleDirections = some target ∧
        surface.tokens.erase origin = .ok (true, tokens) ∧
        surface.move grid source = .ok (true, { surface with tokens := (tokens.insert target).2 },
          (grid.set origin .empty).set target (.token token), rest) := by
  have moves : ¬ surface.config.motion = .still := by simp [settles]
  by_cases isEmpty : surface.tokens.toList = []
  · simp only [move, if_neg moves, bind_eq_ok_iff]
    exact .inl ⟨_, _, TokenSet.random_of_empty isEmpty source, rfl⟩
  · obtain ⟨place, drawn, origin, -, here, random⟩ := TokenSet.random_listed isEmpty source
    cases owned : surface.ownToken? grid origin with
    | none =>
      simp only [move, if_neg moves, bind_eq_ok_iff]
      refine .inl ⟨drawn, _, random, ?_⟩
      simp only [owned]
      rfl
    | some token =>
      cases led : firstEmpty grid origin settleDirections with
      | none =>
        have settled : destination surface.config.motion grid origin drawn =
            .ok (none, drawn) := by
          rw [settles, ← led]
          rfl
        simp only [move, if_neg moves, bind_eq_ok_iff]
        refine .inl ⟨drawn, _, random, ?_⟩
        simp only [owned, bind_eq_ok_iff]
        exact ⟨_, settled, rfl⟩
      | some target =>
        have member := List.mem_of_getElem? here
        obtain ⟨tokens, erased, -⟩ := TokenSet.erase_listed consistent origin
        rw [decide_eq_true member] at erased
        obtain ⟨shown, own⟩ := (ownToken?_eq_some_iff _ _ _ _).mp owned
        exact .inr ⟨origin, target, token, tokens, drawn, member, shown, own, led, erased,
          move_of_settles settles random shown own led erased⟩

/-! ### The way that is left -/

/-- How far tokens can still come: the offsets behind each of them, up to the last one of the
field. -/
def descent (surface : Surface) (grid : Grid) : Nat :=
  (surface.tokens.toList.map fun offset => grid.size - 1 - offset).sum

/-- A step forward on the field shortens the way that is left. -/
theorem descent_lt (consistent : surface.tokens.Consistent)
    (member : origin ∈ surface.tokens.toList) {tokens : TokenSet}
    (erased : surface.tokens.erase origin = .ok (true, tokens)) (forward : origin < target)
    (inside : target < grid.size) (same : after.size = grid.size) :
    descent { surface with tokens := (tokens.insert target).2 } after + 1 ≤
      surface.descent grid := by
  have lifted := (TokenSet.perm_of_erase consistent member erased).map
    fun offset => grid.size - 1 - offset
  have laid := TokenSet.sum_map_insert_le (TokenSet.erase_eq_ok consistent erased).1 target
    fun offset => grid.size - 1 - offset
  simp only [descent, same, lifted.sum_eq, List.map_cons, List.sum_cons]
  omega

/-! ### Many moves -/

/-- Ask for one move after the other, each with draws from a source of its own, and count the
tokens that moved. -/
def moveAll : List ρ → Surface → Grid → Outcome (Nat × Surface × Grid)
  | [], surface, grid => .ok (0, surface, grid)
  | source :: sources, surface, grid => do
    let (moved, surface, grid, _) ← surface.move grid source
    let (count, surface, grid) ← moveAll sources surface grid
    return (count + moved.toNat, surface, grid)

/-- All requests are answered, and with each token that moves the way that is left is shorter.
Induction on the requests. -/
theorem moveAll_descent [LawfulDrawSource ρ] (settles : surface.config.motion = .settle)
    (creatable : grid.Creatable) (consistent : surface.tokens.Consistent) (sources : List ρ) :
    ∃ moved next after, moveAll sources surface grid = .ok (moved, next, after) ∧
      moved + next.descent after ≤ surface.descent grid := by
  induction sources generalizing surface grid with
  | nil => exact ⟨0, surface, grid, rfl, by simp⟩
  | cons source sources ih =>
    simp only [moveAll, bind_eq_ok_iff]
    obtain ⟨rest, stays⟩ |
      ⟨origin, target, token, tokens, rest, member, shown, -, led, erased, moves⟩ :=
        settle_cases settles consistent grid source
    · obtain ⟨moved, next, after, later, fewer⟩ := ih settles creatable consistent
      exact ⟨moved, next, after, ⟨_, stays, _, later, rfl⟩, fewer⟩
    · have forward := lt_of_settles creatable shown led
      have closer := descent_lt consistent member erased forward (free_of_firstEmpty led).1
        (by simp only [Grid.size_set] :
          ((grid.set origin .empty).set target (.token token)).size = grid.size)
      have consistent' := TokenSet.consistent_insert tokens target
        (TokenSet.erase_eq_ok consistent erased).1
      have settles' : (config { surface with tokens := (tokens.insert target).2 }).motion =
          .settle := settles
      obtain ⟨moved, next, after, later, fewer⟩ :=
        ih settles' ((creatable.set _ _).set _ _) consistent'
      exact ⟨moved + 1, next, after, ⟨_, moves, _, later, rfl⟩, by omega⟩

/-- Where the tokens of a surface settle, on every field that can be created: each move takes one
token to a larger offset, where nothing is, and leaves all else alone; and however often it is
asked for, with whatever draws, tokens move at most as often as there are offsets behind them. -/
theorem settling_ends [LawfulDrawSource ρ] (settles : surface.config.motion = .settle)
    (creatable : grid.Creatable) (consistent : surface.tokens.Consistent) :
    (∀ (source rest : ρ) (next : Surface) (after : Grid),
      surface.move grid source = .ok (true, next, after, rest) →
        ∃ origin target token, origin < target ∧ origin ∈ surface.tokens.toList ∧
          grid.get origin = .token token ∧ token.kind = surface.kind ∧ grid.Free target ∧
          after.get origin = .empty ∧ after.get target = .token token ∧
          ∀ other, other ≠ origin → other ≠ target → after.get other = grid.get other) ∧
      ∀ sources : List ρ, ∃ moved next after,
        moveAll sources surface grid = .ok (moved, next, after) ∧
          moved + next.descent after ≤
            (surface.tokens.toList.map fun offset => grid.size - 1 - offset).sum := by
  constructor
  · intro source rest next after moves
    obtain ⟨rest, stays⟩ |
      ⟨origin, target, token, tokens, rest, member, shown, own, led, erased, same⟩ :=
        settle_cases settles consistent grid source
    · rw [stays] at moves
      cases moves
    · rw [same] at moves
      cases moves
      have free := free_of_firstEmpty led
      obtain ⟨-, left, laid, others⟩ := Grid.get_carried shown free
      exact ⟨origin, target, token, lt_of_settles creatable shown led, member, shown, own, free,
        left, laid, others⟩
  · exact moveAll_descent settles creatable consistent

end Drawing

theorem toList_settling : settling.tokens.toList = [0, 1] := by
  have first := TokenSet.insert_of_not_mem TokenSet.consistent_empty
    (by simp [TokenSet.toList_empty] : 0 ∉ TokenSet.empty.toList)
  have second := TokenSet.insert_of_not_mem
    (TokenSet.consistent_insert .empty 0 TokenSet.consistent_empty)
    (by simp [first.2, TokenSet.toList_empty] : 1 ∉ (TokenSet.empty.insert 0).2.toList)
  rw [settling, second.2, first.2, TokenSet.toList_empty]
  rfl

/-- In the column the token above the organism goes past it, across the edge, to the last cell.
The one beneath the organism stays, so two more requests find at most as much left to do. -/
theorem settling_ends_column :
    settling.config.motion = .settle ∧ column.Creatable ∧ settling.tokens.Consistent ∧
      (∃ next after rest, settling.move column (Die.mk 0) = .ok (true, next, after, rest) ∧
        ∃ origin target token, origin < target ∧ column.get origin = .token token ∧
          after.get target = .token token) ∧
      ∃ moved next after,
        moveAll [Die.mk 0, Die.mk 1, Die.mk 0] settling column = .ok (moved, next, after) ∧
          moved + next.descent after ≤ 2 + 1 := by
  have consistent := owns_column.consistent
  have creatable : column.Creatable := by
    have bare : (Grid.empty 1 3).Creatable := ⟨by decide, by decide, .empty 1 3, rfl, rfl⟩
    exact (bare.set _ _).set _ _
  have settles : settling.config.motion = .settle := rfl
  obtain ⟨moves, bounded⟩ := settling_ends (ρ := Die) settles creatable consistent
  refine ⟨rfl, creatable, consistent, ?_, ?_⟩
  · have random : settling.tokens.random (Die.mk 0) = .ok (some 0, Die.mk 0) := by
      refine TokenSet.random_of_draw (show _ = (0, Die.mk 0) from ?_) ?_
      · simp [DrawSource.below]
      · rw [toList_settling]
        rfl
    obtain ⟨tokens, erased, -⟩ := TokenSet.erase_listed consistent 0
    have moved := move_of_settles rfl random (get_column 0) rfl
      (by decide : firstEmpty column 0 settleDirections = some 2) erased
    obtain ⟨origin, target, token, forward, -, shown, -, -, -, laid, -⟩ := moves _ _ _ _ moved
    exact ⟨_, _, _, moved, origin, target, token, forward, shown, laid⟩
  · rw [toList_settling] at bounded
    exact bounded [Die.mk 0, Die.mk 1, Die.mk 0]

end Surface

end Vivarium
