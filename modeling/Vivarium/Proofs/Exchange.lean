import Vivarium.Proofs.Accounting
import Vivarium.Proofs.Ledger

/-!
# Exchanges of energy

What organisms have together is counted here without their debts: an organism in debt
counts with nothing, so that it may die of it. Energy is there as such funds or as atoms
in energy tokens, and a move does one of four things to it: it moves or loses energy,
turns a token into what it yields, or brings energy in as an organism or as a token, for
which it has to be admitted.
-/
namespace Vivarium

namespace Scene

/-- What organisms have together, debts left out. -/
def funds (scene : Scene) : Int :=
  total scene.capacity (fun body => max 0 body.energy) scene.residents

/-- A scene where nobody lives. -/
def Deserted (scene : Scene) : Prop := ∀ slot, scene.residents slot = none

variable {scene next : Scene} {slot : Nat} {body : Body}

/-! ### Funds -/

theorem funds_seat (slotted : scene.Slotted) (resident : scene.residents slot = some body)
    (after : Body) :
    (scene.seat slot after).funds + max 0 body.energy = scene.funds + max 0 after.energy :=
  total_seat slotted resident (fun body => max 0 body.energy) after

theorem funds_seat_same (slotted : scene.Slotted) (resident : scene.residents slot = some body)
    (after : Body) (energy : after.energy = body.energy) :
    (scene.seat slot after).funds = scene.funds := by
  have changed := funds_seat slotted resident after
  rw [energy] at changed
  omega

theorem funds_receive (newborn : scene.Newborn slot body) (code : Genome) :
    (scene.receive slot body code).funds = scene.funds + max 0 body.energy :=
  total_put newborn.inside newborn.vacant (fun body => max 0 body.energy) body

theorem funds_vacate (slotted : scene.Slotted) (resident : scene.residents slot = some body) :
    (scene.vacate slot body).funds + max 0 body.energy = scene.funds :=
  total_clear (slotted slot body resident) resident fun body => max 0 body.energy

theorem Departure.funds (departure : Departure scene slot body next) :
    next.funds = (scene.vacate slot body).funds := by
  cases departure <;> rfl

theorem funds_nonneg : 0 ≤ scene.funds := by
  unfold funds total
  refine Finset.sum_nonneg fun slot _ => ?_
  cases scene.residents slot with
  | none => exact Int.le_refl _
  | some body => exact Int.le_max_left _ _

/-- Nobody is in debt between turns. -/
theorem Settled.funds_eq (settled : scene.Settled) (thriving : scene.Thriving)
    (idle : scene.acting = none) : scene.funds = scene.totalEnergy := by
  rw [settled]
  unfold funds total
  refine Finset.sum_congr rfl fun slot _ => ?_
  cases resident : scene.residents slot with
  | none => rfl
  | some body =>
    have alive := thriving slot body resident (by simp [idle])
    simp only [Option.elim_some]
    omega

theorem not_deserted (resident : scene.residents slot = some body) : ¬ scene.Deserted := by
  intro deserted
  rw [deserted] at resident
  cases resident

theorem Deserted.funds_eq (deserted : scene.Deserted) : scene.funds = 0 :=
  total_empty _ deserted

/-! ### Costs and shares -/

theorem Cost.nonneg {amount : Int} (cost : scene.Cost amount) (accepted : scene.config.Accepted)
    (furnished : scene.Furnished) : 0 ≤ amount := by
  rcases cost with rfl | rfl | ⟨surface, member, rfl⟩
  · exact accepted.stepEnergy
  · decide
  · obtain ⟨kind, own⟩ := List.getElem?_of_mem member
    have configured := (furnished.own kind surface own).2
    exact (accepted.amounts _ (List.mem_of_getElem? configured)).2

/-- What remains is at least the half that was given away. -/
theorem half_le {whole half : Int} (share : half = whole.tdiv 2) (positive : 0 < half) :
    half ≤ whole - half := by
  rcases Int.lt_or_le whole 0 with debt | nonneg
  · have debtShare : (-whole).tdiv 2 = -half := by rw [Int.neg_tdiv, share]
    rw [Int.tdiv_eq_ediv_of_nonneg (by omega)] at debtShare
    omega
  · rw [Int.tdiv_eq_ediv_of_nonneg nonneg] at share
    omega

/-! ### What a move does -/

/-- What becomes of the energy in a scene. -/
inductive Exchange (admits : Scene → Int → Prop) (scene next : Scene) : Prop where
  /-- Energy is moved or lost, and nobody comes into a deserted scene. -/
  | keeps (poorer : next.funds ≤ scene.funds) (fewer : next.atoms ≤ scene.atoms)
      (deserted : scene.Deserted → next.Deserted)
  /-- A token is turned into what it yields. -/
  | yields (token : Token) (inhabited : ¬ scene.Deserted) (positive : 1 ≤ token.atoms)
      (light : token.atoms ≤ maxAtoms)
      (gained : next.funds ≤ scene.funds + World.gainOf scene.config token)
      (eaten : next.atoms + token.atoms = scene.atoms)
  /-- Energy comes in, for an organism or in atoms of a token. -/
  | brings (amount earned : Int) (added : Nat) (idle : scene.acting = none)
      (admitted : admits scene amount)
      (sum : amount = earned + added * scene.config.energyValue)
      (richer : next.funds = scene.funds + earned) (more : next.atoms = scene.atoms + added)

variable {admits : Scene → Int → Prop}

theorem Exchange.of_resident (resident : scene.residents slot = some body)
    (poorer : next.funds ≤ scene.funds) (fewer : next.atoms ≤ scene.atoms) :
    Exchange admits scene next :=
  .keeps poorer fewer fun deserted => absurd deserted (not_deserted resident)

/-- Where the residents stay as they are, so do the funds. -/
theorem Exchange.of_same (residents : next.residents = scene.residents)
    (capacity : next.capacity = scene.capacity) (fewer : next.atoms ≤ scene.atoms) :
    Exchange admits scene next := by
  refine .keeps (Int.le_of_eq ?_) fewer fun deserted => ?_
  · rw [funds, capacity, residents, funds]
  · intro slot
    rw [residents]
    exact deserted slot

/-- Only what was admitted brings energy in, and only a meal of a token makes any. -/
theorem Move.exchange (move : Move admits scene next) (accepted : scene.config.Accepted)
    (accounted : scene.Accounted) : Exchange admits scene next := by
  have slotted := accounted.slotted
  cases move with
  | start | stop | opened | closed => exact .of_same rfl rfl (Nat.le_refl _)
  -- Who pays may fall into debt, which counts as nothing.
  | pay slot body amount acting resident cost =>
    have nonneg := cost.nonneg accepted accounted.furnished
    have paid : (scene.earn slot body (-amount)).funds + max 0 body.energy =
        scene.funds + max 0 (body.energy + -amount) := funds_seat slotted resident _
    exact .of_resident resident (by omega) (Nat.le_refl _)
  | walk slot body target acting resident inside noOrganism passable =>
    have moved := funds_seat_same slotted resident
      { body with beneath := scene.grid.get target, offset := target } rfl
    exact .of_resident resident (Int.le_of_eq moved) (Nat.le_refl _)
  | graze slot body target token surface found tokens acting resident own shown kind erased =>
    have lies : ground scene.grid scene.residents target = some token := ground_of_token shown
    have proper := accounted.balanced.lying target token lies
    have ownKind := (accounted.furnished.own energyKind surface own).1
    -- The token takes all of its atoms away, since it was counted.
    have counted :=
      (accounted.forget_exact own (kind.trans ownKind) (.inl ⟨target, lies⟩)).2
    have gain := accepted.gain_nonneg token
    let fed : Body := { body with energy := body.energy + World.gainOf scene.config token }
    have gained : (scene.seat slot fed).funds + max 0 body.energy =
        scene.funds + max 0 (body.energy + World.gainOf scene.config token) :=
      funds_seat slotted resident fed
    have richer : (scene.seat slot fed).funds ≤
        scene.funds + World.gainOf scene.config token := by omega
    refine .yields token (not_deserted resident) proper.positive proper.light richer ?_
    change (scene.furnish energyKind ({ surface with tokens }.forget token)
      (scene.grid.set target .empty)).atoms + token.atoms = scene.atoms
    rw [atoms_furnish own, atoms_eq own]
    exact counted
  | bite slot body victim prey taken acting resident other caught nonneg left =>
    let bitten : Body := { prey with energy := prey.energy - taken }
    let fed : Body := { body with energy := body.energy + taken }
    have loss : (scene.seat victim bitten).funds + max 0 prey.energy =
        scene.funds + max 0 (prey.energy - taken) := funds_seat slotted caught bitten
    have gain : ((scene.seat victim bitten).seat slot fed).funds + max 0 body.energy =
        (scene.seat victim bitten).funds + max 0 (body.energy + taken) :=
      funds_seat (slotted.update caught bitten) (update_beside other resident _) fed
    have poorer : ((scene.seat victim bitten).seat slot fed).funds ≤ scene.funds := by omega
    exact .of_resident resident poorer (Nat.le_refl _)
  | devour slot body victim prey next acting resident other caught departure =>
    let eaten : Body := { prey with energy := 0 }
    let fed : Body := { body with energy := body.energy + prey.energy }
    have slottedEaten := slotted.update caught eaten
    have slottedFed := slottedEaten.update (update_beside other resident _) fed
    have loss : (scene.seat victim eaten).funds + max 0 prey.energy = scene.funds + max 0 0 :=
      funds_seat slotted caught eaten
    have gain : ((scene.seat victim eaten).seat slot fed).funds + max 0 body.energy =
        (scene.seat victim eaten).funds + max 0 (body.energy + prey.energy) :=
      funds_seat slottedEaten (update_beside other resident _) fed
    have dead : ((scene.seat victim eaten).seat slot fed).residents victim = some eaten := by
      simp [seat, Function.update_of_ne other]
    have gone : (((scene.seat victim eaten).seat slot fed).vacate victim eaten).funds + max 0 0 =
        ((scene.seat victim eaten).seat slot fed).funds := funds_vacate slottedFed dead
    have poorer : (((scene.seat victim eaten).seat slot fed).vacate victim eaten).funds ≤
        scene.funds := by omega
    exact .of_resident resident (departure.funds ▸ poorer) departure.atoms_le
  | bear slot body fresh child code acting resident share newborn identity parent =>
    have paid : (scene.earn slot body (-child.energy)).funds + max 0 body.energy =
        scene.funds + max 0 (body.energy + -child.energy) := funds_seat slotted resident _
    -- The child has half of what its parent had, and the parent keeps as much at least.
    have born := funds_receive (newborn.earn resident (-child.energy)) code
    have alive := newborn.alive
    have half := half_le share alive
    exact .of_resident resident (by omega) (Nat.le_refl _)
  | spawn fresh body code idle newborn identity orphan admitted =>
    have born := funds_receive newborn code
    have alive := newborn.alive
    exact .brings body.energy body.energy 0 idle admitted (by simp) (by omega) rfl
  | pickUp slot body target kind token surface found tokens acting resident handsFree own shown
      isOwn erased =>
    have same := funds_seat_same slotted resident { body with packet := some token } rfl
    have fewer : (scene.furnish kind { surface with tokens }
        (scene.grid.set target .empty)).atoms ≤ scene.atoms :=
      atoms_furnish_le own (Nat.le_refl _)
    exact .of_resident resident (Int.le_of_eq same) fewer
  | putDown slot body target packet surface acting resident carried own free =>
    have same := funds_seat_same slotted resident { body with packet := none } rfl
    have fewer : (scene.furnish packet.kind
        { surface with tokens := (surface.tokens.insert target).2 }
        (scene.grid.set target (.token packet))).atoms ≤ scene.atoms :=
      atoms_furnish_le own (Nat.le_refl _)
    exact .of_resident resident (Int.le_of_eq same) fewer
  | mix slot body target packet lying surface atoms acting resident carried energy own shown isOwn
      capped =>
    have same := funds_seat_same slotted resident { body with packet := none } rfl
    have fewer : (scene.furnish energyKind
        { surface with
          live := surface.live - 1
          atoms := surface.atoms - (lying.atoms + packet.atoms - atoms) }
        (scene.grid.set target (.token { kind := lying.kind, atoms }))).atoms ≤ scene.atoms :=
      atoms_furnish_le own (Nat.sub_le _ _)
    exact .of_resident resident (Int.le_of_eq same) fewer
  | drop offset kind atoms surface idle own room free positive light admitted =>
    by_cases energy : kind = energyKind
    -- Only energy tokens count.
    · subst energy
      have more : (scene.furnish energyKind (surface.grow offset atoms)
          (scene.grid.set offset (.token { kind := surface.kind, atoms }))).atoms =
            scene.atoms + atoms := by
        rw [atoms_furnish own, atoms_eq own]
        rfl
      exact .brings _ 0 atoms idle (admitted rfl) (Int.zero_add _).symm (Int.add_zero _).symm more
    · exact .of_same rfl rfl (Nat.le_of_eq (atoms_furnish_of_ne energy _ _))
  | shift kind surface origin target token found tokens idle own shown isOwn free erased =>
    exact .of_same rfl rfl (atoms_furnish_le own (Nat.le_refl _))
  | wait kind surface waited own => exact .of_same rfl rfl (atoms_furnish_le own (Nat.le_refl _))
  | depart slot body next resident departure =>
    have gone := funds_vacate slotted resident
    refine .of_resident resident ?_ departure.atoms_le
    rw [departure.funds]
    omega

end Scene

end Vivarium
