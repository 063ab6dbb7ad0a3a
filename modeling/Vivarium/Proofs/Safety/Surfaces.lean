import Vivarium.Proofs.Safety.EndsWell
import Vivarium.Proofs.TokenSet.Members

/-!
# Operations on surfaces end well

A token set finds each member at its place, so erasing and drawing never look beside
the members. What else a surface does is bounded by the field, which keeps its size.
-/
namespace Vivarium

variable {config : Config} {ρ : Type}

/-! ### Token sets -/

namespace TokenSet

theorem erase_endsWell {set : TokenSet} (consistent : set.Consistent) (offset : Nat) :
    EndsWell config (set.erase offset) (fun erased => erased.2.Consistent) := by
  cases erased : set.erase offset with
  | ok answer => exact .ok (erase_eq_ok consistent erased).1
  | error fault =>
    unfold erase at erased
    split at erased
    next => cases erased
    next place found =>
      obtain ⟨inside, -⟩ := Array.getElem?_eq_some_iff.mp ((consistent _ _).mp found)
      rw [dif_pos inside] at erased
      simp only at erased
      split at erased <;> cases erased

theorem random_endsWell [DrawSource ρ] [LawfulDrawSource ρ] (set : TokenSet) (source : ρ) :
    EndsWell config (set.random source) (fun _ => True) := by
  unfold random
  split
  next => exact .ok trivial
  next some =>
    have positive : 0 < set.size := by
      rw [isEmpty, Array.isEmpty_iff_size_eq_zero] at some
      exact Nat.pos_of_ne_zero some
    refine (Draw.position_endsWell positive _).bind fun ⟨place, next⟩ _ inside => ?_
    simp only at inside ⊢
    rw [Array.getElem?_eq_getElem inside]
    exact .pure trivial

end TokenSet

/-! ### Fields -/

namespace Grid

/-- The field has a cell, and columns by which offsets are divided. -/
structure Wide (grid : Grid) : Prop where
  size : 0 < grid.size
  width : grid.width ≠ 0

theorem Wide.set {grid : Grid} (wide : grid.Wide) (offset : Nat) (cell : Cell) :
    (grid.set offset cell).Wide where
  size := by
    rw [size_set]
    exact wide.size
  width := by
    unfold Grid.set
    split <;> exact wide.width

theorem randomEmpty_endsWell [DrawSource ρ] [LawfulDrawSource ρ] {grid : Grid} (wide : grid.Wide)
    (attempts : Nat) (source : ρ) :
    EndsWell config (grid.randomEmpty attempts source) (fun _ => True) := by
  induction attempts generalizing source with
  | zero => exact .ok trivial
  | succ attempts ih =>
    refine (Draw.position_endsWell wide.size _).bind fun ⟨offset, next⟩ _ inside => ?_
    simp only at inside ⊢
    rw [Array.getElem?_eq_getElem inside]
    simp only
    split
    · exact .pure trivial
    · exact ih next

end Grid

/-! ### Surfaces -/

namespace Surface

variable {surface : Surface} {grid : Grid}

/-- What the operations on a surface keep. -/
def Kept (surface : Surface) (grid : Grid) : Prop := surface.tokens.Consistent ∧ grid.Wide

theorem Kept.lay (kept : surface.Kept grid) (offset : Nat) (token : Token) :
    (surface.lay grid offset token).1.Kept (surface.lay grid offset token).2 :=
  ⟨TokenSet.consistent_insert _ _ kept.1, kept.2.set _ _⟩

theorem Kept.place (kept : surface.Kept grid) (offset : Nat) (token : Token) :
    (surface.place grid offset token).2.1.Kept (surface.place grid offset token).2.2 := by
  unfold Surface.place
  split
  · exact kept
  · exact kept.lay offset token

theorem count_endsWell (surface : Surface) (atoms : Nat) :
    EndsWell config (surface.count atoms) (fun next => next.tokens = surface.tokens) :=
  (Count.add_endsWell _ _ _).bind fun _ _ _ =>
    (Count.add_endsWell _ _ _).bind fun _ _ _ => .pure rfl

theorem insert_endsWell (kept : surface.Kept grid) (offset atoms : Nat) :
    EndsWell config (surface.insert grid offset atoms) (fun done => done.2.1.Kept done.2.2) := by
  unfold insert
  split
  next => exact .ok kept
  next =>
    have placed := kept.place offset { kind := surface.kind, atoms := max atoms 1 }
    simp only
    split
    next eq =>
      rw [eq] at placed
      exact .ok placed
    next eq =>
      rw [eq] at placed
      refine (count_endsWell _ _).bind fun counted _ same => .pure ?_
      exact ⟨same ▸ placed.1, placed.2⟩

theorem remove_endsWell (kept : surface.Kept grid) (offset : Nat) (pickedUp : Bool) :
    EndsWell config (surface.remove grid offset pickedUp) (fun done => done.2.1.Kept done.2.2) := by
  unfold remove
  split
  next => exact .ok kept
  next =>
    refine (TokenSet.erase_endsWell kept.1 offset).bind fun ⟨found, tokens⟩ _ consistent => ?_
    refine .pure ⟨?_, kept.2.set _ _⟩
    simp only
    split <;> exact consistent

theorem merge_endsWell (kept : surface.Kept grid) (offset : Nat) (carried : Token) :
    EndsWell config (surface.merge grid offset carried) (fun done => done.2.1.Kept done.2.2) := by
  unfold merge
  split
  next => exact .ok kept
  next target _ =>
    -- The heaviest token caps the sum, so the sum is not below what remains of it.
    have capped : min maxAtoms (target.atoms + carried.atoms) ≤ target.atoms + carried.atoms :=
      Nat.min_le_right _ _
    exact (Count.sub_endsWell capped).bind fun lost _ _ => .pure ⟨kept.1, kept.2.set _ _⟩

variable [DrawSource ρ] [LawfulDrawSource ρ]

theorem put_endsWell (kept : surface.Kept grid) (source : ρ) :
    EndsWell config (surface.put grid source) (fun done => done.2.1.Kept done.2.2.1) := by
  unfold put
  split
  next => exact .ok kept
  next =>
    refine (Grid.randomEmpty_endsWell kept.2 _ _).bind fun ⟨found, next⟩ _ _ => ?_
    cases found with
    | none => exact .pure kept
    | some offset =>
      have laid := kept.lay offset (.single surface.kind)
      exact (count_endsWell _ _).bind fun counted _ same => .pure ⟨same ▸ laid.1, laid.2⟩

theorem putMany_endsWell (kept : surface.Kept grid) (amount placed : Nat) (source : ρ) :
    EndsWell config (putMany amount placed surface grid source)
      (fun done => done.2.1.Kept done.2.2.1) := by
  induction amount generalizing placed surface grid source with
  | zero => exact .ok kept
  | succ amount ih => exact (put_endsWell kept _).bind fun ⟨_, _, _, _⟩ _ kept => ih kept _ _

theorem seed_endsWell (kept : surface.Kept grid) (source : ρ) :
    EndsWell config (surface.seed grid source) (fun done => done.2.1.Kept done.2.2.1) :=
  putMany_endsWell kept _ _ _

theorem restore_endsWell (kept : surface.Kept grid) (token : Token) (source : ρ) :
    EndsWell config (surface.restore grid token source)
      (fun done => done.2.1.Kept done.2.2.1) := by
  refine (Grid.randomEmpty_endsWell kept.2 _ _).bind fun ⟨found, next⟩ _ _ => ?_
  cases found with
  | none => exact .pure kept
  | some offset => exact .pure (kept.lay offset token)

theorem destination_endsWell (wide : grid.Wide) (motion : Motion) (offset : Nat) (source : ρ) :
    EndsWell config (destination motion grid offset source) (fun _ => True) := by
  cases motion with
  | still => exact .ok trivial
  | spread => exact (Draw.position_endsWell (by decide) _).bind fun ⟨_, _⟩ _ _ => .pure trivial
  | settle => exact .ok trivial
  | evaporate => exact Grid.randomEmpty_endsWell wide _ _

theorem move_endsWell (kept : surface.Kept grid) (source : ρ) :
    EndsWell config (surface.move grid source) (fun done => done.2.1.Kept done.2.2.1) := by
  unfold move
  split
  next => exact .ok kept
  next =>
    refine (TokenSet.random_endsWell _ _).bind fun ⟨drawn, next⟩ _ _ => ?_
    cases drawn with
    | none => exact .pure kept
    | some origin =>
      simp only
      split
      next => exact .pure kept
      next token _ =>
        refine (destination_endsWell kept.2 _ _ _).bind fun ⟨target, next⟩ _ _ => ?_
        cases target with
        | none => exact .pure kept
        | some target =>
          refine (TokenSet.erase_endsWell kept.1 origin).bind fun ⟨_, tokens⟩ _ consistent => ?_
          exact .pure ⟨TokenSet.consistent_insert _ _ consistent, (kept.2.set _ _).set _ _⟩

theorem tick_endsWell (kept : surface.Kept grid) (source : ρ) :
    EndsWell config (surface.tick grid source) (fun done => done.2.1.Kept done.2.2.1) := by
  unfold tick
  split
  next => exact .ok kept
  next =>
    have rested : { surface with waited := 0 }.Kept grid := kept
    exact (move_endsWell rested _).bind fun ⟨_, _, _, _⟩ _ kept => .pure kept

end Surface

/-! ### All surfaces -/

section All

variable {σ α : Type} {operation : Surface → σ → Outcome (α × Surface × σ)}
  {Intact : σ → Prop}

/-- Consistent token sets, and a state that is intact. -/
def KeptAll (Intact : σ → Prop) (surfaces : List Surface) (state : σ) : Prop :=
  (∀ surface ∈ surfaces, surface.tokens.Consistent) ∧ Intact state

/-- If there is a surface of the kind, it is the one operated on. -/
theorem onSurface_endsWell {surfaces : List Surface} {state : σ}
    (ends : ∀ (surface : Surface) (state : σ), surface.tokens.Consistent → Intact state →
      EndsWell config (operation surface state)
        (fun done => done.2.1.tokens.Consistent ∧ Intact done.2.2))
    (kept : KeptAll Intact surfaces state) (kind : Nat) :
    EndsWell config (onSurface operation surfaces kind state) (fun done =>
      KeptAll Intact done.2.1 done.2.2 ∧ done.2.1.length = surfaces.length ∧
        (kind < surfaces.length → done.1.isSome)) := by
  induction surfaces generalizing kind with
  | nil => exact .ok ⟨kept, rfl, fun inside => absurd inside (Nat.not_lt_zero _)⟩
  | cons surface rest ih =>
    obtain ⟨consistent, intact⟩ := kept
    rw [List.forall_mem_cons] at consistent
    cases kind with
    | zero =>
      refine (ends surface state consistent.1 intact).bind fun ⟨_, _, _⟩ _ done => .pure ?_
      exact ⟨⟨List.forall_mem_cons.mpr ⟨done.1, consistent.2⟩, done.2⟩, rfl, fun _ => rfl⟩
    | succ kind =>
      refine (ih ⟨consistent.2, intact⟩ kind).bind fun ⟨_, _, _⟩ _ done => .pure ?_
      obtain ⟨⟨others, intact⟩, length, there⟩ := done
      refine ⟨⟨List.forall_mem_cons.mpr ⟨consistent.1, others⟩, intact⟩, ?_, fun inside => ?_⟩
      · simpa using length
      · exact there (Nat.lt_of_succ_lt_succ inside)

theorem onSurfaces_endsWell {surfaces : List Surface} {state : σ}
    (ends : ∀ (surface : Surface) (state : σ), surface.tokens.Consistent → Intact state →
      EndsWell config (operation surface state)
        (fun done => done.2.1.tokens.Consistent ∧ Intact done.2.2))
    (kept : KeptAll Intact surfaces state) :
    EndsWell config (onSurfaces operation surfaces state) (fun done =>
      KeptAll Intact done.1 done.2 ∧ done.1.length = surfaces.length) := by
  induction surfaces generalizing state with
  | nil => exact .ok ⟨kept, rfl⟩
  | cons surface rest ih =>
    obtain ⟨consistent, intact⟩ := kept
    rw [List.forall_mem_cons] at consistent
    refine (ends surface state consistent.1 intact).bind fun ⟨_, _, _⟩ _ done => ?_
    refine (ih ⟨consistent.2, done.2⟩).bind fun ⟨_, _⟩ _ others => .pure ?_
    exact ⟨⟨List.forall_mem_cons.mpr ⟨done.1, others.1.1⟩, others.1.2⟩, by simp [others.2]⟩

end All

end Vivarium
