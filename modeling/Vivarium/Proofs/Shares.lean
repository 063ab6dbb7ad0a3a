import Mathlib.Data.Set.Card
import Mathlib.Algebra.Order.BigOperators.Group.List
import Mathlib.Order.Interval.Finset.Nat
import Vivarium.Proofs.Filling

/-!
# Shares of a roll

A kind of event is drawn by one roll below the sum of the weights. Lay out a row of
tickets, for each kind as many as its weight says, the kinds in their order: the roll
is a place in this row, and the kind drawn is the one on the ticket there. So the
rolls of a kind are the places of its tickets, which stand side by side behind those
of all kinds before it, and there is a ticket for every roll.
-/
namespace Vivarium.Mutation

/-! ### Shares -/

/-- The place of the weight of a kind. -/
def place (kind : Mutation) : Nat := kind.ctorIdx

theorem place_lt (kind : Mutation) : kind.place < mutationKindCount := by
  cases kind <;> decide

theorem getElem?_all (kind : Mutation) : all[kind.place]? = some kind := by
  cases kind <;> rfl

theorem nodup_all : all.Nodup := by decide

/-- How many rolls a kind has. -/
def share (weights : Weights) (kind : Mutation) : Nat := weights.get ⟨kind.place, kind.place_lt⟩

/-- How many rolls the kinds before it have. -/
def sharesBefore (weights : Weights) (kind : Mutation) : Nat :=
  (weights.toList.take kind.place).sum

/-- The roll is one of those of the kind. -/
def Falls (weights : Weights) (kind : Mutation) (roll : Nat) : Prop :=
  sharesBefore weights kind ≤ roll ∧ roll < sharesBefore weights kind + share weights kind

instance (weights : Weights) (kind : Mutation) (roll : Nat) : Decidable (Falls weights kind roll) :=
  inferInstanceAs (Decidable (_ ∧ _))

/-! ### Tickets -/

/-- A row of tickets, for each kind as many as its share says. -/
def tickets (shares : List (Mutation × Nat)) : List Mutation :=
  shares.flatMap fun entry => List.replicate entry.2 entry.1

variable {shares before after : List (Mutation × Nat)} {kind : Mutation} {own roll : Nat}

theorem length_tickets (shares : List (Mutation × Nat)) :
    (tickets shares).length = (shares.map Prod.snd).sum := by
  simp [tickets, List.length_flatMap]

theorem mem_tickets (member : kind ∈ tickets shares) : kind ∈ shares.map Prod.fst := by
  obtain ⟨entry, listed, printed⟩ := List.mem_flatMap.mp member
  rw [List.eq_of_mem_replicate printed]
  exact List.mem_map_of_mem listed

/-- The roll is the place of a ticket; on the way to it nothing is lowered below zero. -/
theorem kindAt?_eq (shares : List (Mutation × Nat)) (roll : Nat) :
    kindAt? shares roll = .ok (tickets shares)[roll]? := by
  induction shares generalizing roll with
  | nil => rfl
  | cons entry rest ih =>
    obtain ⟨kind, own⟩ := entry
    have row : tickets ((kind, own) :: rest) = List.replicate own kind ++ tickets rest := rfl
    unfold kindAt?
    split
    next here =>
      rw [row, List.getElem?_append_left (by simpa using here), List.getElem?_replicate_of_lt here]
    next passed =>
      have le : own ≤ roll := Nat.le_of_not_lt passed
      have lowered : Count.sub roll own = .ok (roll - own) :=
        (Count.sub_eq_ok_iff _ _ _).mpr ⟨le, rfl⟩
      rw [lowered, row, List.getElem?_append_right (by simpa using le), List.length_replicate]
      exact ih (roll - own)

/-- The tickets of a kind that is listed once stand behind those of the kinds before it. -/
theorem getElem?_tickets (once : ((before ++ (kind, own) :: after).map Prod.fst).Nodup)
    (roll : Nat) :
    (tickets (before ++ (kind, own) :: after))[roll]? = some kind ↔
      (before.map Prod.snd).sum ≤ roll ∧ roll < (before.map Prod.snd).sum + own := by
  rw [List.map_append, List.map_cons, List.nodup_middle, List.nodup_cons, List.mem_append,
    not_or] at once
  obtain ⟨⟨notBefore, notAfter⟩, -⟩ := once
  have row : tickets (before ++ (kind, own) :: after) =
      tickets before ++ (List.replicate own kind ++ tickets after) := by
    simp [tickets]
  rw [row, ← length_tickets]
  generalize size : (tickets before).length = start
  by_cases early : roll < start
  · -- Before its own tickets there are only those of other kinds.
    rw [List.getElem?_append_left (size ▸ early)]
    refine iff_of_false (fun found => ?_) (by omega)
    exact notBefore (mem_tickets (List.mem_of_getElem? found))
  · rw [List.getElem?_append_right (by omega), size]
    by_cases here : roll - start < own
    · rw [List.getElem?_append_left (by simpa using here), List.getElem?_replicate_of_lt here]
      exact iff_of_true rfl (by omega)
    · rw [List.getElem?_append_right (by simpa using here)]
      refine iff_of_false (fun found => ?_) (by omega)
      exact notAfter (mem_tickets (List.mem_of_getElem? found))

/-! ### The kinds with their weights -/

variable {weights : Weights}

theorem map_fst_zip_weights (weights : Weights) :
    (all.zip weights.toList).map Prod.fst = all := by
  rw [List.map_fst_zip]
  simp [all]

theorem map_snd_zip_weights (weights : Weights) :
    (all.zip weights.toList).map Prod.snd = weights.toList := by
  rw [List.map_snd_zip]
  simp [all]

theorem zip_weights_eq (weights : Weights) (kind : Mutation) :
    ∃ before after, all.zip weights.toList = before ++ (kind, share weights kind) :: after ∧
      before.map Prod.snd = weights.toList.take kind.place := by
  have inside : kind.place < (all.zip weights.toList).length := by
    have := kind.place_lt
    simpa [all] using this
  have listed : (all.zip weights.toList)[kind.place]? = some (kind, share weights kind) := by
    rw [List.getElem?_zip_eq_some]
    refine ⟨getElem?_all kind, ?_⟩
    simp [share, Vector.get, kind.place_lt]
  refine ⟨(all.zip weights.toList).take kind.place, (all.zip weights.toList).drop (kind.place + 1),
    ?_, ?_⟩
  · rw [List.getElem?_eq_getElem inside, Option.some.injEq] at listed
    rw [← listed, List.cons_getElem_drop_succ, List.take_append_drop]
  · rw [List.map_take, map_snd_zip_weights]

theorem length_tickets_weights (weights : Weights) :
    (tickets (all.zip weights.toList)).length = weights.toList.sum := by
  rw [length_tickets, map_snd_zip_weights]

/-- On the ticket at a roll stands the kind to whose share the roll belongs. -/
theorem getElem?_tickets_weights (weights : Weights) (kind : Mutation) (roll : Nat) :
    (tickets (all.zip weights.toList))[roll]? = some kind ↔ Falls weights kind roll := by
  obtain ⟨before, after, row, sharesOf⟩ := zip_weights_eq weights kind
  have once := nodup_all
  rw [← map_fst_zip_weights weights, row] at once
  rw [row, getElem?_tickets once, sharesOf, Falls, sharesBefore]

theorem Falls.lt_sum (falls : Falls weights kind roll) : roll < weights.toList.sum := by
  have found := (getElem?_tickets_weights weights kind roll).mpr falls
  rw [← length_tickets_weights]
  exact (List.getElem?_eq_some_iff.mp found).1

theorem Falls.unique {other : Mutation} (falls : Falls weights kind roll)
    (fallsToo : Falls weights other roll) : other = kind := by
  rw [← getElem?_tickets_weights] at falls fallsToo
  exact Option.some.inj (fallsToo.symm.trans falls)

/-- There is a ticket for each roll. -/
theorem exists_falls (below : roll < weights.toList.sum) : ∃ kind, Falls weights kind roll := by
  rw [← length_tickets_weights] at below
  exact ⟨_, (getElem?_tickets_weights weights _ roll).mp (List.getElem?_eq_getElem below)⟩

theorem ncard_falls (weights : Weights) (kind : Mutation) :
    {roll | Falls weights kind roll}.ncard = share weights kind := by
  have rolls : {roll | Falls weights kind roll} = Finset.Ico (sharesBefore weights kind)
      (sharesBefore weights kind + share weights kind) := by
    ext roll
    simp [Falls]
  rw [rolls, Set.ncard_coe_finset, Nat.card_Ico, Nat.add_sub_cancel_left]

/-! ### Draws -/

theorem foldlM_add_eq {limit : Nat} (terms : List Nat) {start : Nat}
    (fits : start + terms.sum < limit) :
    terms.foldlM (Count.add limit) start = .ok (start + terms.sum) := by
  induction terms generalizing start with
  | nil => rfl
  | cons term rest ih =>
    rw [List.sum_cons, ← Nat.add_assoc] at fits
    have first : Count.add limit start term = .ok (start + term) :=
      (Count.add_eq_ok_iff _ _ _ _).mpr ⟨by omega, rfl⟩
    rw [List.foldlM_cons, first, List.sum_cons, ← Nat.add_assoc]
    exact ih fits

/-- Eight weights of 32 bits have a sum of 64 bits. -/
theorem totalWeight_eq (narrow : ∀ weight ∈ weights.toList, weight < limit32) :
    totalWeight weights.toList = .ok weights.toList.sum := by
  have most : weights.toList.sum ≤ weights.toList.length • limit32 :=
    List.sum_le_card_nsmul _ _ fun weight member => Nat.le_of_lt (narrow weight member)
  rw [Vector.length_toList, smul_eq_mul] at most
  have fits : 0 + weights.toList.sum < limit64 := by
    unfold limit32 mutationKindCount at most
    unfold limit64
    omega
  rw [totalWeight, foldlM_add_eq _ fits, Nat.zero_add]

theorem pick_eq {ρ : Type} [DrawSource ρ] {source next : ρ}
    (narrow : ∀ weight ∈ weights.toList, weight < limit32)
    (drawn : DrawSource.below .word64 weights.toList.sum source = (roll, next))
    (falls : Falls weights kind roll) : pick weights source = .ok (kind, next) := by
  have some : weights.toList.sum ≠ 0 := by
    have below := falls.lt_sum
    omega
  have rolled : Draw.below .word64 weights.toList.sum source = .ok (roll, next) := by
    rw [Draw.below_eq_ok (Nat.pos_of_ne_zero some), drawn]
  have found := (getElem?_tickets_weights weights kind roll).mpr falls
  simp only [pick, totalWeight_eq narrow, rolled, kindAt?_eq, found, bind, Except.bind, if_neg some]
  rfl

/-- For weights of 32 bits: the sum that is rolled below does not overflow, and looking
for the kind of a roll never lowers it below zero and always finds one. A roll brings out
the kind to whose share it belongs and no other, so never one without weight; and of all
rolls each kind has as many as its weight says. -/
theorem pick_by_share (narrow : ∀ weight ∈ weights.toList, weight < limit32) :
    totalWeight weights.toList = .ok weights.toList.sum ∧
      (∀ roll < weights.toList.sum,
        ∃ kind, kindAt? (all.zip weights.toList) roll = .ok (some kind)) ∧
      (∀ (ρ : Type) [DrawSource ρ] (source next : ρ), ∀ roll < weights.toList.sum,
        DrawSource.below .word64 weights.toList.sum source = (roll, next) →
          ∃ kind, pick weights source = .ok (kind, next) ∧ 0 < share weights kind ∧
            ∀ other, Falls weights other roll ↔ other = kind) ∧
      ∀ (ρ : Type) [DrawSource ρ] (rolling : Nat → ρ),
        (∀ roll < weights.toList.sum,
          (DrawSource.below .word64 weights.toList.sum (rolling roll)).1 = roll) →
        ∀ kind, {roll | roll < weights.toList.sum ∧
          ∃ next, pick weights (rolling roll) = .ok (kind, next)}.ncard = share weights kind := by
  refine ⟨totalWeight_eq narrow, fun roll below => ?_, fun ρ _ source next roll below drawn => ?_,
    fun ρ _ rolling rolls kind => ?_⟩
  · obtain ⟨kind, falls⟩ := exists_falls below
    rw [← getElem?_tickets_weights] at falls
    exact ⟨kind, by rw [kindAt?_eq, falls]⟩
  · obtain ⟨kind, falls⟩ := exists_falls below
    refine ⟨kind, pick_eq narrow drawn falls, ?_, fun other => ⟨falls.unique, ?_⟩⟩
    · unfold Falls at falls
      omega
    · rintro rfl
      exact falls
  · -- The rolls of which the kind comes out are those of its share.
    rw [← ncard_falls weights kind]
    congr 1
    ext roll
    constructor
    · rintro ⟨below, next, picked⟩
      obtain ⟨other, falls⟩ := exists_falls below
      rw [pick_eq narrow (Prod.ext (rolls roll below) rfl) falls] at picked
      cases picked
      exact falls
    · intro falls
      have below := falls.lt_sum
      exact ⟨below, _, pick_eq narrow (Prod.ext (rolls roll below) rfl) falls⟩

/-- Most of the weight on one kind, and none on the first, on the last and in between. -/
def lopsided : Weights := #v[0, 3, 0, 0, 0, 4294967295, 1, 0]

/-- The last roll of the second kind, the first one of the sixth kind, and how many the
sixth and the last one have. -/
theorem pick_by_share_lopsided :
    (∀ weight ∈ lopsided.toList, weight < limit32) ∧
      pick lopsided (Sweep.mk 2) = .ok (delete, ⟨3⟩) ∧
      pick lopsided (Sweep.mk 3) = .ok (insert, ⟨4⟩) ∧
      {roll | roll < 4294967299 ∧
        ∃ next, pick lopsided (Sweep.mk roll) = .ok (insert, next)}.ncard = 4294967295 ∧
      {roll | roll < 4294967299 ∧
        ∃ next, pick lopsided (Sweep.mk roll) = .ok (cut, next)}.ncard = 0 := by
  have narrow : ∀ weight ∈ lopsided.toList, weight < limit32 := by decide
  have sum : lopsided.toList.sum = 4294967299 := by decide
  obtain ⟨-, -, picks, counts⟩ := pick_by_share narrow
  rw [sum] at picks counts
  have rolls : ∀ roll < 4294967299,
      (DrawSource.below .word64 4294967299 (Sweep.mk roll)).1 = roll := by
    intro roll below
    simp only [DrawSource.below]
    omega
  obtain ⟨second, drawn, -, secondUnique⟩ := picks Sweep ⟨2⟩ ⟨3⟩ 2 (by decide) rfl
  obtain ⟨sixth, drawnToo, -, sixthUnique⟩ := picks Sweep ⟨3⟩ ⟨4⟩ 3 (by decide) rfl
  cases (secondUnique delete).mp (by decide)
  cases (sixthUnique insert).mp (by decide)
  exact ⟨narrow, drawn, drawnToo, counts Sweep Sweep.mk rolls insert,
    counts Sweep Sweep.mk rolls cut⟩

end Vivarium.Mutation
