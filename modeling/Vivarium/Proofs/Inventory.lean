import Vivarium.Proofs.Accounting

/-!
# Inventory

The tokens of a world as lists: those that cells show, those beneath organisms and
those carried. The ground holds the first two, so what the books say of ground and
hands holds of the three lists.
-/
namespace Vivarium

/-! ### Weights -/

/-- A weight that only the tokens of one kind have. -/
def only (kind : Nat) (weigh : Token → Nat) (token : Token) : Nat :=
  if token.kind = kind then weigh token else 0

theorem total_ofKind (size kind : Nat) (weigh : Token → Nat) (shelf : Nat → Option Token) :
    total size weigh (ofKind kind shelf) = total size (only kind weigh) shelf := by
  refine Finset.sum_congr rfl fun place _ => ?_
  unfold ofKind only
  cases shelf place with
  | none => rfl
  | some token =>
    rw [Option.filter_some]
    by_cases own : token.kind = kind <;> simp [own]

theorem sum_filter_kind (kind : Nat) (weigh : Token → Nat) (tokens : List Token) :
    ((tokens.filter (·.kind == kind)).map weigh).sum = (tokens.map (only kind weigh)).sum := by
  induction tokens with
  | nil => rfl
  | cons token rest ih =>
    rw [List.filter_cons, List.map_cons, List.sum_cons, ← ih, only]
    by_cases own : token.kind = kind <;> simp [own]

theorem sum_filterMap {α : Type} (view : α → Option Token) (weigh : Token → Nat)
    (entries : List α) :
    ((entries.filterMap view).map weigh).sum =
      (entries.map fun entry => (view entry).elim 0 weigh).sum := by
  induction entries with
  | nil => rfl
  | cons entry rest ih =>
    rw [List.filterMap_cons, List.map_cons, List.sum_cons, ← ih]
    cases view entry <;> simp

/-! ### The ground -/

/-- The token beneath the organism that a cell shows. -/
def trodden (grid : Grid) (residents : Nat → Option Body) (offset : Nat) : Option Token :=
  match grid.get offset with
  | .organism slot => (residents slot).bind (·.beneath.token?)
  | _ => none

variable {grid : Grid} {residents : Nat → Option Body}

theorem ground_eq_some_iff (exclusive : Exclusive grid residents) (offset : Nat) (token : Token) :
    ground grid residents offset = some token ↔ grid.get offset = .token token ∨
      ∃ slot body, residents slot = some body ∧ body.offset = offset ∧
        body.beneath = .token token := by
  constructor
  · intro lies
    unfold ground at lies
    split at lies
    next => cases lies
    next shown =>
      cases lies
      exact .inl shown
    next slot shown =>
      obtain ⟨body, resident, lives⟩ := (exclusive.shown offset slot).mp shown
      rw [resident, Option.bind_some, Cell.token?_eq_some_iff] at lies
      exact .inr ⟨slot, body, resident, lives, lies⟩
  · rintro (shown | ⟨slot, body, resident, rfl, beneath⟩)
    · exact ground_of_token shown
    · rw [ground_of_resident exclusive resident, beneath]
      rfl

/-- What lies on the ground is shown or trodden on. -/
theorem total_ground (weigh : Token → Nat) :
    total grid.size weigh (ground grid residents) =
      total grid.size weigh (fun offset => (grid.get offset).token?) +
        total grid.size weigh (trodden grid residents) := by
  unfold total
  rw [← Finset.sum_add_distrib]
  refine Finset.sum_congr rfl fun offset _ => ?_
  simp only [ground, trodden]
  cases grid.get offset <;> simp [Cell.token?]

/-- Cells that show organisms and the slots of organisms are matched one to one, so
what is trodden on can be counted by either. -/
theorem total_trodden {capacity : Nat} (exclusive : Exclusive grid residents)
    (slots : ∀ slot body, residents slot = some body → slot < capacity) (weigh : Token → Nat) :
    total grid.size weigh (trodden grid residents) =
      total capacity weigh (fun slot => (residents slot).bind (·.beneath.token?)) := by
  -- A double sum over cells and slots, of which each row and each column has one entry at most.
  let weight (slot : Nat) : Nat := ((residents slot).bind (·.beneath.token?)).elim 0 weigh
  have byCell : ∀ offset ∈ Finset.range grid.size, (trodden grid residents offset).elim 0 weigh =
      ∑ slot ∈ Finset.range capacity,
        if grid.get offset = .organism slot then weight slot else 0 := by
    intro offset _
    unfold trodden
    split
    next slot shown =>
      obtain ⟨body, resident, -⟩ := (exclusive.shown offset slot).mp shown
      simp only [shown, Cell.organism.injEq]
      rw [Finset.sum_ite_eq, if_pos (Finset.mem_range.mpr (slots slot body resident))]
    next notOrganism =>
      symm
      exact Finset.sum_eq_zero fun slot _ => if_neg (notOrganism slot)
  have bySlot : ∀ slot ∈ Finset.range capacity,
      (∑ offset ∈ Finset.range grid.size,
        if grid.get offset = .organism slot then weight slot else 0) = weight slot := by
    intro slot _
    cases resident : residents slot with
    | none =>
      have nothing : weight slot = 0 := by simp [weight, resident]
      rw [nothing]
      exact Finset.sum_eq_zero fun offset _ => by split <;> rfl
    | some body =>
      have here : ∀ offset, grid.get offset = .organism slot ↔ body.offset = offset := by
        intro offset
        rw [exclusive.shown, resident]
        simp
      simp only [here]
      rw [Finset.sum_ite_eq, if_pos (Finset.mem_range.mpr (exclusive.inside resident))]
  unfold total
  rw [Finset.sum_congr rfl byCell, Finset.sum_comm, Finset.sum_congr rfl bySlot]

/-- The places of what lies on the ground, counted. -/
theorem length_eq_total {size : Nat} {lying : Nat → Option Token} {places : List Nat}
    (nodup : places.Nodup)
    (members : ∀ offset, offset ∈ places ↔ ∃ token, lying offset = some token)
    (outside : ∀ offset, size ≤ offset → lying offset = none) :
    places.length = total size (fun _ => 1) lying := by
  have same : places.toFinset = (Finset.range size).filter fun offset => (lying offset).isSome := by
    ext offset
    rw [List.mem_toFinset, members, Finset.mem_filter, Finset.mem_range, Option.isSome_iff_exists]
    constructor
    · rintro ⟨token, lies⟩
      refine ⟨?_, token, lies⟩
      apply Nat.lt_of_not_le
      intro beyond
      rw [outside offset beyond] at lies
      cases lies
    · exact fun here => here.2
  rw [← List.toFinset_card_of_nodup nodup, same, Finset.card_filter]
  refine Finset.sum_congr rfl fun offset _ => ?_
  cases lying offset <;> rfl

namespace World

variable {ρ : Type}

/-- The tokens that cells show. -/
def shown (world : World ρ) : List Token :=
  (List.range world.grid.size).filterMap fun offset => (world.grid.get offset).token?

/-- The tokens beneath organisms. -/
def covered (world : World ρ) : List Token :=
  world.pool.toList.filterMap fun entry => entry.2.beneath.token?

/-- The tokens that organisms carry. -/
def carried (world : World ρ) : List Token :=
  world.pool.toList.filterMap fun entry => entry.2.packet

theorem sum_carried (world : World ρ) (weigh : Token → Nat) :
    (world.carried.map weigh).sum = total world.pool.capacity weigh (hands world.pool.bodies) := by
  have entries := world.pool.sum_toList fun org => org.packet.elim 0 weigh
  rw [carried, sum_filterMap, entries]
  refine Finset.sum_congr rfl fun slot _ => ?_
  simp only [hands, Pool.bodies]
  cases world.pool.get? slot <;> rfl

theorem sum_shown_covered (world : World ρ) (weigh : Token → Nat)
    (exclusive : Exclusive world.grid world.pool.bodies)
    (slots : ∀ slot body, world.pool.bodies slot = some body → slot < world.pool.capacity) :
    ((world.shown ++ world.covered).map weigh).sum =
      total world.grid.size weigh (ground world.grid world.pool.bodies) := by
  have beneath : (world.covered.map weigh).sum =
      total world.pool.capacity weigh
        fun slot => (world.pool.bodies slot).bind (·.beneath.token?) := by
    have entries := world.pool.sum_toList fun org => org.beneath.token?.elim 0 weigh
    rw [covered, sum_filterMap, entries]
    refine Finset.sum_congr rfl fun slot _ => ?_
    simp only [Pool.bodies]
    cases world.pool.get? slot <;> rfl
  rw [List.map_append, List.sum_append, beneath, total_ground, total_trodden exclusive slots, shown,
    sum_filterMap]
  rfl

/-- The tokens of one kind, weighed on the books. -/
theorem sum_ofKind (world : World ρ) (kind : Nat) (weigh : Token → Nat)
    (exclusive : Exclusive world.grid world.pool.bodies)
    (slots : ∀ slot body, world.pool.bodies slot = some body → slot < world.pool.capacity) :
    (((world.shown ++ world.covered ++ world.carried).filter (·.kind == kind)).map weigh).sum =
      total world.grid.size weigh (ofKind kind (ground world.grid world.pool.bodies)) +
        total world.pool.capacity weigh (ofKind kind (hands world.pool.bodies)) := by
  rw [sum_filter_kind, List.map_append, List.sum_append, sum_shown_covered world _ exclusive slots,
    sum_carried, total_ofKind, total_ofKind]

theorem length_carried_kind (world : World ρ) (kind : Nat) :
    (world.carried.filter (·.kind == kind)).length =
      total world.pool.capacity (fun _ => 1) (ofKind kind (hands world.pool.bodies)) := by
  rw [total_ofKind, ← sum_carried, ← sum_filter_kind]
  simp

/-- Whatever is carried is in the hands of an organism in the pool. -/
theorem mem_carried (world : World ρ) (packet : Token) (member : packet ∈ world.carried) :
    ∃ slot, hands world.pool.bodies slot = some packet := by
  obtain ⟨⟨slot, org⟩, lives, held⟩ := List.mem_filterMap.mp member
  have resident := Pool.bodies_eq_some ((world.pool.mem_toList slot org).mp lives)
  refine ⟨slot, ?_⟩
  rw [hands, resident, Option.bind_some]
  exact held

/-- A token of the lists lies on the ground or is in hands. -/
theorem mem_tokens (world : World ρ) (exclusive : Exclusive world.grid world.pool.bodies)
    (token : Token) (member : token ∈ world.shown ++ world.covered ++ world.carried) :
    (∃ offset, ground world.grid world.pool.bodies offset = some token) ∨
      ∃ slot, hands world.pool.bodies slot = some token := by
  rw [List.mem_append, List.mem_append] at member
  rcases member with (shows | covers) | carries
  · obtain ⟨offset, -, cell⟩ := List.mem_filterMap.mp shows
    rw [Cell.token?_eq_some_iff] at cell
    exact .inl ⟨offset, ground_of_token cell⟩
  · obtain ⟨⟨slot, org⟩, lives, beneath⟩ := List.mem_filterMap.mp covers
    have resident := Pool.bodies_eq_some ((world.pool.mem_toList slot org).mp lives)
    exact .inl ⟨org.offset, (ground_of_resident exclusive resident).trans beneath⟩
  · exact .inr (world.mem_carried token carries)

variable [DrawSource ρ]

/-- Whatever is called, each surface knows where its tokens lie and counts all of them
with their atoms, within its capacity. So none of them is more than what is counted: the counts
are exact when one of them is forgotten, and when one that is carried is fused into another. -/
theorem performAll_accounted {config : Config} {source : ρ} {recording : Bool}
    {start world : World ρ} (calls : List Call)
    (created : create config source recording = .ok (.ok start))
    (performed : performAll calls start = .ok world) :
    (∀ kind surface, world.surfaces[kind]? = some surface →
      (∀ offset, offset ∈ surface.tokens.toList ↔
        (∃ token, world.grid.get offset = .token token ∧ token.kind = kind) ∨
          ∃ slot org token, world.pool.get? slot = some org ∧ org.offset = offset ∧
            org.beneath = .token token ∧ token.kind = kind) ∧
      surface.tokens.toList.Nodup ∧
      surface.live =
        surface.tokens.size + (world.carried.filter (·.kind == kind)).length ∧
      surface.atoms =
        (((world.shown ++ world.covered ++ world.carried).filter (·.kind == kind)).map
          Token.atoms).sum ∧
      surface.live ≤ surface.config.capacity) ∧
    (∀ token ∈ world.shown ++ world.covered ++ world.carried,
      1 ≤ token.atoms ∧ token.kind < world.surfaces.length ∧
      ∀ surface, world.surfaces[token.kind]? = some surface →
        (surface.forget token).live + 1 = surface.live ∧
          (surface.forget token).atoms + token.atoms = surface.atoms) ∧
    ∀ packet ∈ world.carried, ∀ surface, world.surfaces[packet.kind]? = some surface →
      ∀ offset merged next grid,
        surface.merge world.grid offset packet = .ok (some merged, next, grid) →
          ∃ under, world.grid.get offset = .token under ∧ under.kind = packet.kind ∧
            next.live + 1 = surface.live ∧
            next.atoms + (under.atoms + packet.atoms) = surface.atoms + merged.atoms := by
  obtain ⟨-, blank, empty, moves⟩ := reached_of_performAll created performed
  have accounted : world.scene.Accounted :=
    moves.preserve Scene.Accounted (fun move => move.accounted) empty.accounted
  have exclusive : Exclusive world.grid world.pool.bodies := accounted.exclusive
  have balanced : Balanced world.grid.size world.pool.capacity
      (ground world.grid world.pool.bodies) (hands world.pool.bodies) world.surfaces :=
    accounted.balanced
  refine ⟨fun kind surface own => ?_, fun token member => ?_, ?_⟩
  · -- What a surface knows is said of ground and hands; the lists say the same, cell by cell and
    -- slot by slot.
    have audited := balanced.own kind surface own
    have nodup := TokenSet.nodup_toList audited.consistent
    refine ⟨fun offset => ?_, nodup, ?_, ?_, audited.room⟩
    · simp only [audited.members, ofKind_eq_some_iff, ground_eq_some_iff exclusive]
      constructor
      · rintro ⟨token, shows | ⟨slot, body, resident, lives, beneath⟩, isOwn⟩
        · exact .inl ⟨token, shows, isOwn⟩
        · obtain ⟨org, live, rfl⟩ := Option.map_eq_some_iff.mp resident
          exact .inr ⟨slot, org, token, live, lives, beneath, isOwn⟩
      · rintro (⟨token, shows, isOwn⟩ | ⟨slot, org, token, live, lives, beneath, isOwn⟩)
        · exact ⟨token, .inl shows, isOwn⟩
        · exact ⟨token, .inr ⟨slot, org.body, Pool.bodies_eq_some live, lives, beneath⟩, isOwn⟩
    · rw [length_carried_kind, ← TokenSet.length_toList, audited.live,
        length_eq_total nodup audited.members fun offset outside =>
          ofKind_eq_none (ground_outside outside)]
    · rw [audited.atoms, sum_ofKind world kind _ exclusive accounted.slotted]
  · -- Wherever a token is, its surface counts it there.
    have here := world.mem_tokens exclusive token member
    have proper : Proper world.surfaces.length token := by
      rcases here with ⟨offset, lies⟩ | ⟨slot, carries⟩
      · exact balanced.lying offset token lies
      · exact balanced.carried slot token carries
    exact ⟨proper.positive, proper.known, fun surface own => accounted.forget_exact own rfl here⟩
  · -- Two tokens become one, and atoms above the limit of a token are counted no more.
    intro packet member surface own offset merged next grid done
    obtain ⟨slot, carries⟩ := world.mem_carried packet member
    obtain ⟨under, shows, underOwn, rfl, rfl, -⟩ := Surface.merge_eq_some done
    have isOwn : under.kind = packet.kind := underOwn.trans (accounted.furnished.own _ _ own).1
    have capped : min maxAtoms (under.atoms + packet.atoms) ≤ under.atoms + packet.atoms :=
      Nat.min_le_right _ _
    obtain ⟨live, atoms⟩ := accounted.merge_exact own (ground_of_token shows) isOwn carries rfl
      (Nat.sub_le (under.atoms + packet.atoms) (min maxAtoms (under.atoms + packet.atoms)))
    exact ⟨under, shows, isOwn, live, by dsimp only; omega⟩

theorem performAll_accounted_small :
    ∃ start world : World Generator, create .small (.ofSeed 7) false = .ok (.ok start) ∧
      performAll Call.shortLife start = .ok world ∧
      ∀ surface, world.surfaces[energyKind]? = some surface →
        surface.live =
          surface.tokens.size + (world.carried.filter (·.kind == energyKind)).length := by
  obtain ⟨start, world, created, performed⟩ := performAll_small
  obtain ⟨counted, -⟩ := performAll_accounted _ created performed
  refine ⟨start, world, created, performed, fun surface own => ?_⟩
  exact (counted energyKind surface own).2.2.1

end World

end Vivarium
