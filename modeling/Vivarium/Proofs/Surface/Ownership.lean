import Mathlib.Data.Set.Insert
import Vivarium.Draw.Generator
import Vivarium.Proofs.Surface.Changes
import Vivarium.Proofs.TokenSet.Members

/-!
# What a surface may write

Organisms and the tokens of other surfaces are none of the business of a surface: it writes on
empty cells and on those that show its own tokens, whatever the shape of the field, and it leaves
such cells behind. Its token set names the offsets of the tokens shown, and those of the tokens
that organisms stand on. These it cannot see; it must not lose them either, since the organism
gives the token back when it leaves.

## Main result

- `Surface.operations_respect`: whichever cells organisms cover, each operation keeps within these
  bounds and the token set right; a token that moves keeps its weight and is not counted anew.

## Proof strategy

Four changes make up all operations: nothing is written, a token is laid on a free cell, one is
lifted from its cell, one is exchanged for another. Each of them `Respects` the others, and so do
any two after each other.
-/
namespace Vivarium

namespace Grid

/-- A token carried from its cell to a free one. -/
theorem get_carried {grid : Grid} {origin target : Nat} {token : Token}
    (shown : grid.get origin = .token token) (free : grid.Free target) :
    origin ≠ target ∧ ((grid.set origin .empty).set target (.token token)).get origin = .empty ∧
      ((grid.set origin .empty).set target (.token token)).get target = .token token ∧
      ∀ other, other ≠ origin → other ≠ target →
        ((grid.set origin .empty).set target (.token token)).get other = grid.get other := by
  have inside := lt_size_of_get shown nofun
  have inside' : target < (grid.set origin .empty).size := by
    rw [size_set]
    exact free.1
  -- Even where a direction leads back to the same cell, that cell is not free.
  have elsewhere : origin ≠ target := by
    rintro rfl
    rw [free.2] at shown
    cases shown
  refine ⟨elsewhere, ?_, ?_, ?_⟩
  · rw [get_set _ _ _ _ inside', if_neg elsewhere, get_set _ _ _ _ inside, if_pos rfl]
  · rw [get_set _ _ _ _ inside', if_pos rfl]
  · intro other apart apart'
    rw [get_set _ _ _ _ inside', if_neg apart', get_set _ _ _ _ inside, if_neg apart]

end Grid

namespace Surface

variable {surface between next : Surface} {grid middle after : Grid} {covered : Set Nat}
  {offset : Nat} {token : Token}

/-! ### Cells of a surface -/

/-- A cell that is empty or shows a token of the surface. -/
def MayWrite (surface : Surface) (cell : Cell) : Prop :=
  cell = .empty ∨ ∃ token, cell = .token token ∧ token.kind = surface.kind

/-- The token set of the surface has the offsets that organisms cover, and those that show a
token of the surface. -/
structure Owns (surface : Surface) (grid : Grid) (covered : Set Nat) : Prop where
  consistent : surface.tokens.Consistent
  covers : ∀ offset ∈ covered, ∃ slot, grid.get offset = .organism slot
  members : ∀ offset, offset ∈ surface.tokens.toList ↔
    offset ∈ covered ∨ ∃ token, grid.get offset = .token token ∧ token.kind = surface.kind

/-- No organism covers a cell that shows none. -/
theorem Owns.not_mem (owns : surface.Owns grid covered)
    (bare : (grid.get offset).isOrganism = false) : offset ∉ covered := by
  intro member
  obtain ⟨slot, shown⟩ := owns.covers offset member
  rw [shown] at bare
  cases bare

/-- Where organisms are, nothing changes when another cell is written. -/
theorem Owns.covers_set (owns : surface.Owns grid covered) (inside : offset < grid.size)
    (bare : (grid.get offset).isOrganism = false) (cell : Cell) :
    ∀ other ∈ covered, ∃ slot, (grid.set offset cell).get other = .organism slot := by
  intro other member
  obtain ⟨slot, shown⟩ := owns.covers other member
  have elsewhere : other ≠ offset := fun same => owns.not_mem bare (same ▸ member)
  refine ⟨slot, ?_⟩
  rw [Grid.get_set _ _ _ _ inside, if_neg elsewhere, shown]

/-- From one state of the surface and the grid to a later one nothing has been written but what
the surface may write, and its token set is right if it was. -/
structure Respects (covered : Set Nat) (surface : Surface) (grid : Grid) (next : Surface)
    (after : Grid) : Prop where
  kind : next.kind = surface.kind
  size : after.size = grid.size
  changes : ∀ offset, after.get offset ≠ grid.get offset →
    surface.MayWrite (grid.get offset) ∧ surface.MayWrite (after.get offset)
  owns : surface.Owns grid covered → next.Owns after covered

namespace Respects

/-- Nothing is written; what is counted does not matter. -/
theorem of_same (kind : next.kind = surface.kind) (tokens : next.tokens = surface.tokens) :
    Respects covered surface grid next grid where
  kind := kind
  size := rfl
  changes := fun _ changed => absurd rfl changed
  owns := by
    intro owns
    refine ⟨tokens ▸ owns.consistent, owns.covers, ?_⟩
    rw [tokens, kind]
    exact owns.members

theorem refl (covered : Set Nat) (surface : Surface) (grid : Grid) :
    Respects covered surface grid surface grid := of_same rfl rfl

theorem trans (first : Respects covered surface grid between middle)
    (rest : Respects covered between middle next after) :
    Respects covered surface grid next after where
  kind := rest.kind.trans first.kind
  size := rest.size.trans first.size
  changes := by
    intro offset changed
    have mine : ∀ cell, between.MayWrite cell → surface.MayWrite cell := by
      intro cell writes
      unfold MayWrite at writes ⊢
      rwa [first.kind] at writes
    -- What has changed in the end has changed early or late.
    by_cases early : middle.get offset = grid.get offset
    · rw [← early] at changed ⊢
      obtain ⟨before, later⟩ := rest.changes offset changed
      exact ⟨mine _ before, mine _ later⟩
    · obtain ⟨before, later⟩ := first.changes offset early
      refine ⟨before, ?_⟩
      by_cases late : after.get offset = middle.get offset
      · exact late ▸ later
      · exact mine _ (rest.changes offset late).2
  owns := fun owns => rest.owns (first.owns owns)

end Respects

/-! ### Single changes -/

/-- Only one cell changes, from a cell of the surface to such a cell. -/
theorem changes_set (inside : offset < grid.size) {cell : Cell}
    (before : surface.MayWrite (grid.get offset)) (later : surface.MayWrite cell) :
    ∀ other, (grid.set offset cell).get other ≠ grid.get other →
      surface.MayWrite (grid.get other) ∧ surface.MayWrite ((grid.set offset cell).get other) := by
  intro other changed
  rw [grid.get_set offset other cell inside] at changed ⊢
  split at changed
  next here =>
    subst here
    rw [if_pos rfl]
    exact ⟨before, later⟩
  next => exact absurd rfl changed

/-- A token is laid on a free cell, which no organism covers. -/
theorem Respects.lay (free : grid.Free offset) (own : token.kind = surface.kind)
    (kind : next.kind = surface.kind) (tokens : next.tokens = (surface.tokens.insert offset).2) :
    Respects covered surface grid next (grid.set offset (.token token)) where
  kind := kind
  size := grid.size_set ..
  changes := changes_set free.1 (.inl free.2) (.inr ⟨token, rfl, own⟩)
  owns := by
    intro owns
    have bare : (grid.get offset).isOrganism = false := by rw [free.2]; rfl
    refine ⟨?_, owns.covers_set free.1 bare _, fun other => ?_⟩
    · rw [tokens]
      exact TokenSet.consistent_insert _ _ owns.consistent
    · rw [tokens, TokenSet.mem_insert owns.consistent, owns.members,
        Grid.get_set _ _ _ _ free.1, kind]
      by_cases here : other = offset
      · simp only [here, true_or, if_true, true_iff]
        exact .inr ⟨token, rfl, own⟩
      · simp only [here, false_or, if_false]

/-- A token is lifted from its cell. -/
theorem Respects.lift (shown : grid.get offset = .token token) (own : token.kind = surface.kind)
    {found : Bool} {tokens : TokenSet} (erased : surface.tokens.erase offset = .ok (found, tokens))
    (kind : next.kind = surface.kind) (same : next.tokens = tokens) :
    Respects covered surface grid next (grid.set offset .empty) where
  kind := kind
  size := grid.size_set ..
  changes := changes_set (Grid.lt_size_of_get shown nofun) (.inr ⟨token, shown, own⟩) (.inl rfl)
  owns := by
    intro owns
    have inside := Grid.lt_size_of_get shown nofun
    have bare : (grid.get offset).isOrganism = false := by rw [shown]; rfl
    obtain ⟨consistent, members⟩ := TokenSet.erase_eq_ok owns.consistent erased
    refine ⟨same ▸ consistent, owns.covers_set inside bare _, fun other => ?_⟩
    rw [same, members, owns.members, Grid.get_set _ _ _ _ inside, kind]
    -- The offset was in the set for its token alone, since no organism covers it.
    by_cases here : other = offset
    · simp [here, owns.not_mem bare]
    · simp only [here, ne_eq, not_false_eq_true, true_and, if_false]

/-- A token of the surface is exchanged for another one. -/
theorem Respects.exchange {merged : Token} (shown : grid.get offset = .token token)
    (own : token.kind = surface.kind) (own' : merged.kind = surface.kind)
    (kind : next.kind = surface.kind) (tokens : next.tokens = surface.tokens) :
    Respects covered surface grid next (grid.set offset (.token merged)) where
  kind := kind
  size := grid.size_set ..
  changes := changes_set (Grid.lt_size_of_get shown nofun) (.inr ⟨token, shown, own⟩)
    (.inr ⟨merged, rfl, own'⟩)
  owns := by
    intro owns
    have inside := Grid.lt_size_of_get shown nofun
    have bare : (grid.get offset).isOrganism = false := by rw [shown]; rfl
    refine ⟨tokens ▸ owns.consistent, owns.covers_set inside bare _, fun other => ?_⟩
    rw [tokens, owns.members, Grid.get_set _ _ _ _ inside, kind]
    by_cases here : other = offset
    · subst here
      simp only [if_true]
      exact or_congr_right ⟨fun _ => ⟨merged, rfl, own'⟩, fun _ => ⟨token, shown, own⟩⟩
    · simp only [here, if_false]

/-! ### Operations -/

theorem place_respects {placed : Bool} (own : token.kind = surface.kind)
    (done : surface.place grid offset token = (placed, next, after)) :
    Respects covered surface grid next after := by
  have outcome := place_eq done
  cases placed with
  | false =>
    obtain ⟨rfl, rfl⟩ := outcome
    exact .refl covered next after
  | true =>
    obtain ⟨free, same⟩ := outcome
    cases same
    exact .lay free own rfl rfl

theorem insert_respects {atoms : Nat} {added : Bool}
    (done : surface.insert grid offset atoms = .ok (added, next, after)) :
    Respects covered surface grid next after := by
  have outcome := insert_eq_ok done
  cases added with
  | false =>
    obtain ⟨rfl, rfl⟩ := outcome
    exact .refl covered next after
  | true =>
    obtain ⟨-, free, rfl, rfl⟩ := outcome
    exact .lay free rfl rfl rfl

theorem remove_respects {pickedUp : Bool} {removed : Option Token}
    (done : surface.remove grid offset pickedUp = .ok (removed, next, after)) :
    Respects covered surface grid next after := by
  cases removed with
  | none =>
    obtain ⟨rfl, rfl, -⟩ := remove_eq_none done
    exact .refl covered next after
  | some token =>
    obtain ⟨shown, own, found, tokens, erased, rfl, rfl⟩ := remove_eq_some done
    cases pickedUp <;> exact .lift shown own erased rfl rfl

theorem merge_respects {carried : Token} {merged : Option Token}
    (done : surface.merge grid offset carried = .ok (merged, next, after)) :
    Respects covered surface grid next after := by
  cases merged with
  | none =>
    obtain ⟨rfl, rfl⟩ := merge_eq_none done
    exact .refl covered next after
  | some merged =>
    obtain ⟨target, shown, own, rfl, rfl, rfl⟩ := merge_eq_some done
    exact .exchange shown own own rfl rfl

section Drawing

variable {ρ : Type} [DrawSource ρ] {source rest : ρ}

theorem put_respects {landed : Option Nat}
    (done : surface.put grid source = .ok (landed, next, after, rest)) :
    Respects covered surface grid next after := by
  cases landed with
  | none =>
    obtain ⟨rfl, rfl⟩ := put_eq_none done
    exact .refl covered next after
  | some offset =>
    obtain ⟨-, free, rfl, rfl⟩ := put_eq_some done
    exact .lay free rfl rfl rfl

theorem putMany_respects {amount placed total : Nat}
    (done : putMany amount placed surface grid source = .ok (total, next, after, rest)) :
    Respects covered surface grid next after := by
  induction amount generalizing placed surface grid source with
  | zero =>
    cases done
    exact .refl covered next after
  | succ amount ih =>
    obtain ⟨⟨landed, between, middle, drawn⟩, first, done⟩ := (bind_eq_ok_iff _ _ _).mp done
    exact (put_respects first).trans (ih done)

theorem restore_respects {landed : Option Nat} (own : token.kind = surface.kind)
    (done : surface.restore grid token source = .ok (landed, next, after, rest)) :
    Respects covered surface grid next after := by
  obtain ⟨rfl, rfl⟩ | ⟨offset, free, same⟩ := restore_eq_ok done
  · exact .of_same rfl rfl
  · cases same
    exact .lay free own rfl rfl

/-- What a move does: nothing, or it takes one token of the surface to a free cell. -/
theorem move_cases {moved : Bool}
    (done : surface.move grid source = .ok (moved, next, after, rest)) :
    if moved then
      ∃ origin target token, origin ≠ target ∧ grid.get origin = .token token ∧
        token.kind = surface.kind ∧ grid.Free target ∧ after.get origin = .empty ∧
        after.get target = .token token ∧
        (∀ other, other ≠ origin → other ≠ target → after.get other = grid.get other) ∧
        next.live = surface.live ∧ next.atoms = surface.atoms
    else next = surface ∧ after = grid := by
  have outcome := move_eq_ok done
  cases moved with
  | false => exact outcome
  | true =>
    obtain ⟨origin, target, token, found, tokens, shown, own, free, -, rfl, rfl⟩ := outcome
    obtain ⟨apart, left, laid, others⟩ := Grid.get_carried shown free
    exact ⟨origin, target, token, apart, shown, own, free, left, laid, others, rfl, rfl⟩

theorem move_respects {moved : Bool}
    (done : surface.move grid source = .ok (moved, next, after, rest)) :
    Respects covered surface grid next after := by
  have outcome := move_eq_ok done
  cases moved with
  | false =>
    obtain ⟨rfl, rfl⟩ := outcome
    exact .refl covered next after
  | true =>
    obtain ⟨origin, target, token, found, tokens, shown, own, free, erased, rfl, rfl⟩ := outcome
    have lifted : Respects covered surface grid { surface with tokens } (grid.set origin .empty) :=
      .lift shown own erased rfl rfl
    have free' : (grid.set origin .empty).Free target := by
      refine ⟨lifted.size ▸ free.1, ?_⟩
      rw [Grid.get_set _ _ _ _ (Grid.lt_size_of_get shown nofun)]
      split
      · rfl
      · exact free.2
    exact lifted.trans (.lay free' own rfl rfl)

theorem tick_respects {moved : Bool}
    (done : surface.tick grid source = .ok (moved, next, after, rest)) :
    Respects covered surface grid next after := by
  obtain ⟨rfl, rfl⟩ | ⟨went, moves⟩ := tick_eq_ok done
  · exact .of_same rfl rfl
  · have reset : Respects covered surface grid { surface with waited := 0 } grid := .of_same rfl rfl
    exact reset.trans (move_respects moves)

/-! ### Requests -/

/-- What can be asked of a surface. A token that is placed or restored is one of its own. -/
inductive Request where
  | put
  | insert (offset atoms : Nat)
  | seed
  | place (offset atoms : Nat)
  | restore (atoms : Nat)
  | remove (offset : Nat) (pickedUp : Bool)
  | merge (offset : Nat) (carried : Token)
  | move
  | tick

/-- Serve a request; what it answers beside the surface and the grid is left out. -/
def Request.serve (surface : Surface) (grid : Grid) (source : ρ) :
    Request → Outcome (Surface × Grid × ρ)
  | .put => return (← surface.put grid source).2
  | .insert offset atoms => do
    let (_, surface, grid) ← surface.insert grid offset atoms
    return (surface, grid, source)
  | .seed => return (← surface.seed grid source).2
  | .place offset atoms =>
    let (_, surface, grid) := surface.place grid offset { kind := surface.kind, atoms }
    return (surface, grid, source)
  | .restore atoms => return (← surface.restore grid { kind := surface.kind, atoms } source).2
  | .remove offset pickedUp => do
    let (_, surface, grid) ← surface.remove grid offset pickedUp
    return (surface, grid, source)
  | .merge offset carried => do
    let (_, surface, grid) ← surface.merge grid offset carried
    return (surface, grid, source)
  | .move => return (← surface.move grid source).2
  | .tick => return (← surface.tick grid source).2

/-- Serve one request after the other. -/
def serveAll : List Request → Surface → Grid → ρ → Outcome (Surface × Grid × ρ)
  | [], surface, grid, source => .ok (surface, grid, source)
  | request :: requests, surface, grid, source => do
    let (surface, grid, source) ← request.serve surface grid source
    serveAll requests surface grid source

theorem serve_respects {request : Request}
    (served : request.serve surface grid source = .ok (next, after, rest)) :
    Respects covered surface grid next after := by
  cases request with
  | put =>
    obtain ⟨⟨landed, result⟩, done, answer⟩ := (bind_eq_ok_iff _ _ _).mp served
    cases answer
    exact put_respects done
  | insert offset atoms =>
    obtain ⟨⟨added, result⟩, done, answer⟩ := (bind_eq_ok_iff _ _ _).mp served
    cases answer
    exact insert_respects done
  | seed =>
    obtain ⟨⟨placed, result⟩, done, answer⟩ := (bind_eq_ok_iff _ _ _).mp served
    cases answer
    exact putMany_respects done
  | place offset atoms =>
    cases served
    exact place_respects rfl rfl
  | restore atoms =>
    obtain ⟨⟨landed, result⟩, done, answer⟩ := (bind_eq_ok_iff _ _ _).mp served
    cases answer
    exact restore_respects rfl done
  | remove offset pickedUp =>
    obtain ⟨⟨removed, result⟩, done, answer⟩ := (bind_eq_ok_iff _ _ _).mp served
    cases answer
    exact remove_respects done
  | merge offset carried =>
    obtain ⟨⟨merged, result⟩, done, answer⟩ := (bind_eq_ok_iff _ _ _).mp served
    cases answer
    exact merge_respects done
  | move =>
    obtain ⟨⟨moved, result⟩, done, answer⟩ := (bind_eq_ok_iff _ _ _).mp served
    cases answer
    exact move_respects done
  | tick =>
    obtain ⟨⟨moved, result⟩, done, answer⟩ := (bind_eq_ok_iff _ _ _).mp served
    cases answer
    exact tick_respects done

/-- Whatever is asked of a surface for however long, it keeps to its own cells. -/
theorem serveAll_respects {requests : List Request}
    (served : serveAll requests surface grid source = .ok (next, after, rest)) :
    Respects covered surface grid next after := by
  induction requests generalizing surface grid source with
  | nil =>
    cases served
    exact .refl covered next after
  | cons request requests ih =>
    obtain ⟨⟨between, middle, drawn⟩, first, later⟩ := (bind_eq_ok_iff _ _ _).mp served
    exact (serve_respects first).trans (ih later)

/-- Where the token set of a surface has the offsets that organisms cover and those that show its
tokens, every operation changes only cells that are empty or show a token of the surface, leaves
such cells behind, and the token set has the same covered offsets and those that show its tokens
then; and so does any number of operations, one after the other. A move changes nothing, or it
takes one token from its cell to an empty one, and its weight with it. -/
theorem operations_respect (owns : surface.Owns grid covered) (source : ρ) :
    (∀ (request : Request) (next : Surface) (after : Grid) (rest : ρ),
      request.serve surface grid source = .ok (next, after, rest) →
      (∀ offset, after.get offset ≠ grid.get offset →
        surface.MayWrite (grid.get offset) ∧ surface.MayWrite (after.get offset)) ∧
      next.kind = surface.kind ∧ next.Owns after covered) ∧
    (∀ (requests : List Request) (next : Surface) (after : Grid) (rest : ρ),
      serveAll requests surface grid source = .ok (next, after, rest) →
      (∀ offset, after.get offset ≠ grid.get offset →
        surface.MayWrite (grid.get offset) ∧ surface.MayWrite (after.get offset)) ∧
      next.kind = surface.kind ∧ next.Owns after covered) ∧
    ∀ (moved : Bool) (next : Surface) (after : Grid) (rest : ρ),
      surface.move grid source = .ok (moved, next, after, rest) →
      if moved then
        ∃ origin target token, origin ≠ target ∧ grid.get origin = .token token ∧
          token.kind = surface.kind ∧ grid.Free target ∧ after.get origin = .empty ∧
          after.get target = .token token ∧
          (∀ other, other ≠ origin → other ≠ target → after.get other = grid.get other) ∧
          next.live = surface.live ∧ next.atoms = surface.atoms
      else next = surface ∧ after = grid := by
  refine ⟨fun request next after rest served => ?_, fun requests next after rest served => ?_,
    fun moved next after rest done => move_cases done⟩
  · have respects : Respects covered surface grid next after := serve_respects served
    exact ⟨respects.changes, respects.kind, respects.owns owns⟩
  · have respects : Respects covered surface grid next after := serveAll_respects served
    exact ⟨respects.changes, respects.kind, respects.owns owns⟩

end Drawing

/-! ### A narrow field -/

/-- A surface whose tokens settle. One of them lies on the first cell of a column of three, and an
organism stands on the other one, on the second cell. -/
def settling : Surface :=
  { create 0 { SurfaceConfig.energyPackets with motion := .settle } with
    live := 2, atoms := 2, tokens := ((TokenSet.empty.insert 0).2.insert 1).2 }

def column : Grid := ((Grid.empty 1 3).set 0 (.token (.single 0))).set 1 (.organism 0)

theorem get_column (offset : Nat) : column.get offset =
    if offset = 1 then .organism 0 else if offset = 0 then .token (.single 0) else .empty := by
  unfold column
  rw [Grid.get_set _ _ _ _ (by decide), Grid.get_set _ _ _ _ (by decide)]
  rcases offset with - | - | - | offset <;> rfl

theorem owns_column : settling.Owns column {1} where
  consistent :=
    TokenSet.consistent_insert _ _ (TokenSet.consistent_insert _ _ TokenSet.consistent_empty)
  covers := by
    rintro offset rfl
    exact ⟨0, get_column 1⟩
  members := by
    intro offset
    have listed : offset ∈ settling.tokens.toList ↔ offset = 1 ∨ offset = 0 := by
      have empty := TokenSet.consistent_empty
      simp only [settling, TokenSet.mem_insert (TokenSet.consistent_insert _ 0 empty),
        TokenSet.mem_insert empty, TokenSet.toList_empty, List.not_mem_nil, or_false]
    rw [listed, get_column, Set.mem_singleton_iff]
    by_cases first : offset = 0
    · subst first
      simp [settling, create, Token.single]
    · by_cases second : offset = 1 <;> simp [first, second]

/-- A third token comes to lie below the organism. The token set still has the one that the
organism stands on. -/
theorem operations_respect_column :
    ∃ (next : Surface) (after : Grid) (rest : Generator),
      settling.Owns column {1} ∧
      Request.serve settling column (Generator.ofSeed 3) (.insert 2 7) = .ok (next, after, rest) ∧
      next.Owns after {1} ∧ after.get 1 = .organism 0 ∧
      after.get 2 = .token { kind := 0, atoms := 7 } := by
  have served : ∃ (next : Surface) (after : Grid) (rest : Generator),
      Request.serve settling column (Generator.ofSeed 3) (.insert 2 7) = .ok (next, after, rest) ∧
      after.get 1 = .organism 0 ∧ after.get 2 = .token { kind := 0, atoms := 7 } :=
    ⟨_, _, _, rfl, rfl, rfl⟩
  obtain ⟨next, after, rest, served, covered, laid⟩ := served
  obtain ⟨-, -, owns⟩ := (operations_respect owns_column _).1 (.insert 2 7) next after rest served
  exact ⟨next, after, rest, owns_column, served, owns, covered, laid⟩

end Surface

end Vivarium
