import Vivarium.Proofs.Exclusive

/-!
# Ground and hands

A token lies on the ground, where an organism may stand on it, or is carried in
the hands of one. Walking, coming and going change neither; so there are two maps
that change only when a token is taken up, put down, made or used up.
-/
namespace Vivarium

/-- The token that lies on an offset: the one shown, or the one beneath the organism
shown. -/
def ground (grid : Grid) (residents : Nat → Option Body) (offset : Nat) : Option Token :=
  match grid.get offset with
  | .empty => none
  | .token token => some token
  | .organism slot => (residents slot).bind (·.beneath.token?)

/-- The token that the resident of a slot carries. -/
def hands (residents : Nat → Option Body) (slot : Nat) : Option Token :=
  (residents slot).bind (·.packet)

variable {grid : Grid} {residents : Nat → Option Body} {slot offset : Nat} {body after : Body}

theorem ground_of_not_organism (unoccupied : (grid.get offset).isOrganism = false) :
    ground grid residents offset = (grid.get offset).token? := by
  unfold ground
  split
  next shown => rw [shown]; rfl
  next shown => rw [shown]; rfl
  next shown =>
    rw [shown] at unoccupied
    cases unoccupied

theorem ground_of_token {token : Token} (shown : grid.get offset = .token token) :
    ground grid residents offset = some token := by
  unfold ground
  rw [shown]

theorem ground_of_free (free : grid.Free offset) : ground grid residents offset = none := by
  unfold ground
  rw [free.2]

theorem ground_of_resident (exclusive : Exclusive grid residents)
    (resident : residents slot = some body) :
    ground grid residents body.offset = body.beneath.token? := by
  unfold ground
  rw [exclusive.home resident]
  simp [resident]

theorem ground_outside (outside : grid.size ≤ offset) : ground grid residents offset = none := by
  unfold ground
  rw [grid.get_of_size_le offset outside]

/-- What lies on the ground lies on the grid. -/
theorem inside_of_ground {token : Token} (lies : ground grid residents offset = some token) :
    offset < grid.size := by
  apply Nat.lt_of_not_le
  intro outside
  rw [ground_outside outside] at lies
  cases lies

theorem ground_reseat (resident : residents slot = some body)
    (beneath : after.beneath = body.beneath) :
    ground grid (Function.update residents slot (some after)) = ground grid residents := by
  funext place
  unfold ground
  split
  next => rfl
  next => rfl
  next other _ =>
    by_cases same : other = slot
    · subst same
      simp [resident, beneath]
    · rw [Function.update_of_ne same]

theorem ground_paint {cell : Cell} (inside : offset < grid.size)
    (unoccupied : cell.isOrganism = false) :
    ground (grid.set offset cell) residents =
      Function.update (ground grid residents) offset cell.token? := by
  funext place
  rw [Function.update_apply]
  split
  next same =>
    subst same
    have painted : (grid.set place cell).get place = cell := by
      rw [grid.get_set _ _ _ inside, if_pos rfl]
    rw [ground_of_not_organism (by rwa [painted]), painted]
  next elsewhere =>
    unfold ground
    rw [grid.get_set _ _ _ inside, if_neg elsewhere]

/-- A resident takes or lays a token, or it eats one. -/
theorem ground_exchange {cell : Cell} (resident : residents slot = some body)
    (beneath : after.beneath = body.beneath) (inside : offset < grid.size)
    (unoccupied : cell.isOrganism = false) :
    ground (grid.set offset cell) (Function.update residents slot (some after)) =
      Function.update (ground grid residents) offset cell.token? :=
  (ground_reseat resident beneath).trans (ground_paint inside unoccupied)

theorem ground_vacate (exclusive : Exclusive grid residents)
    (resident : residents slot = some body) :
    ground (grid.set body.offset body.beneath) (Function.update residents slot none) =
      ground grid residents := by
  have inside := exclusive.inside resident
  funext place
  by_cases same : place = body.offset
  · subst same
    -- What was beneath is shown now, and lay on the ground before.
    have shown : (grid.set body.offset body.beneath).get body.offset = body.beneath := by
      rw [grid.get_set _ _ _ inside, if_pos rfl]
    have beneath := exclusive.beneath slot body resident
    rw [ground_of_not_organism (by rwa [shown]), shown, ground_of_resident exclusive resident]
  · unfold ground
    rw [grid.get_set _ _ _ inside, if_neg same]
    split
    next => rfl
    next => rfl
    next other shown =>
      have elsewhere : other ≠ slot := by
        rintro rfl
        obtain ⟨held, here, lives⟩ := (exclusive.shown place other).mp shown
        cases resident.symm.trans here
        exact same lives.symm
      rw [Function.update_of_ne elsewhere]

/-- Whoever comes stands on what was there. -/
theorem ground_occupy (exclusive : Exclusive grid residents) (vacant : residents slot = none)
    (inside : body.offset < grid.size) (unoccupied : (grid.get body.offset).isOrganism = false)
    (beneath : body.beneath = grid.get body.offset) :
    ground (grid.set body.offset (.organism slot)) (Function.update residents slot (some body)) =
      ground grid residents := by
  -- Once it has come, what it stands on is read off its body.
  have arrived := exclusive.occupy vacant inside unoccupied (beneath ▸ unoccupied)
  funext place
  by_cases same : place = body.offset
  · subst same
    rw [ground_of_resident arrived (Function.update_self slot (some body) residents),
      ground_of_not_organism unoccupied, beneath]
  · unfold ground
    rw [grid.get_set _ _ _ inside, if_neg same]
    split
    next => rfl
    next => rfl
    next other shown =>
      have elsewhere : other ≠ slot := by
        rintro rfl
        obtain ⟨held, here, -⟩ := (exclusive.shown place other).mp shown
        cases vacant.symm.trans here
      rw [Function.update_of_ne elsewhere]

theorem ground_walk (exclusive : Exclusive grid residents) (resident : residents slot = some body)
    {target : Nat} (inside : target < grid.size)
    (unoccupied : (grid.get target).isOrganism = false) :
    ground (grid.moveOrganism body.offset target slot body.beneath)
        (Function.update residents slot
          (some { body with beneath := grid.get target, offset := target })) =
      ground grid residents := by
  let moved : Body := { body with beneath := grid.get target, offset := target }
  have kept := exclusive.get_target resident unoccupied
  have arrived : ground ((grid.set body.offset body.beneath).set moved.offset (.organism slot))
      (Function.update (Function.update residents slot none) slot (some moved)) = _ :=
    ground_occupy (exclusive.vacate resident) (Function.update_self slot none residents)
      (by rwa [grid.size_set]) (kept ▸ unoccupied) kept.symm
  rw [Function.update_idem, ground_vacate exclusive resident] at arrived
  exact arrived

theorem hands_update (held : Option Body) :
    hands (Function.update residents slot held) =
      Function.update (hands residents) slot (held.bind (·.packet)) := by
  funext other
  simp only [hands, Function.update_apply]
  split <;> rfl

theorem hands_reseat (resident : residents slot = some body) (packet : after.packet = body.packet) :
    hands (Function.update residents slot (some after)) = hands residents := by
  have held : hands residents slot = after.packet := by simp [hands, resident, packet]
  rw [hands_update, Option.bind_some, ← held, Function.update_eq_self]

end Vivarium
