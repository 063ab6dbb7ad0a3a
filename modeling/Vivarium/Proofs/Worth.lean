import Vivarium.Proofs.Solvency

/-!
# Worth

The worth of a scene is what organisms have together with what its energy tokens will yield
when they are eaten. No move raises it but those that have asked for the headroom, and after
one of those it has a ceiling: below the cap there are so many atoms at most, and each of
them yields so much. A scene whose worth is below the ceiling leaves room for one token more,
if the configuration does.
-/
namespace Vivarium

namespace Config

variable (config : Config)

/-- What a configuration says in amounts. -/
def amounts : List Int :=
  [config.orgEnergy, config.orgCloneEnergy, config.orgStepEnergy, config.energyValue] ++
    config.surfaces.map (·.energy)

/-- The amounts of a configuration are in their range. -/
def Representable : Prop := ∀ amount ∈ config.amounts, isAmount amount = true

instance : Decidable config.Representable :=
  inferInstanceAs (Decidable (∀ amount ∈ config.amounts, isAmount amount = true))

/-- The most that is worth below a cap, where an atom yields at most so much: all of it is in
atoms, as far as it goes, and each of them gains by being eaten. -/
def ceiling (cap yield : Int) : Int :=
  cap - 1 + (cap - 1) / config.energyValue * (yield - config.energyValue)

/-- There is room for all energy that can be, and for one token more. -/
structure Ample (cap yield : Int) : Prop where
  capped : config.maxEnergy = .ok cap
  fair : config.energyValue ≤ yield
  fertile : ∀ token : Token, 1 ≤ token.atoms → token.atoms ≤ maxAtoms →
    World.gainOf config token ≤ token.atoms * yield
  room : config.ceiling cap yield + config.energyValue ≤ maxAmount

end Config

namespace Scene

/-- What organisms have, and what they will have of the tokens. -/
def worth (yield : Int) (scene : Scene) : Int := scene.funds + scene.atoms * yield

/-- A scene with a configuration that leaves room, and books in order. -/
structure Regular (cap yield : Int) (scene : Scene) : Prop where
  accepted : scene.config.Accepted
  representable : scene.config.Representable
  ample : scene.config.Ample cap yield
  nonneg : 0 ≤ cap
  accounted : scene.Accounted
  settled : scene.Settled
  thriving : scene.Thriving

/-- A scene below the ceiling. -/
def Modest (cap yield : Int) (scene : Scene) : Prop :=
  scene.worth yield ≤ scene.config.ceiling cap yield

variable {cap yield : Int} {scene next : Scene} {slot : Nat} {body : Body}

theorem Move.regular (move : Move Affords scene next) (regular : scene.Regular cap yield) :
    next.Regular cap yield where
  accepted := move.config ▸ regular.accepted
  representable := move.config ▸ regular.representable
  ample := move.config ▸ regular.ample
  nonneg := regular.nonneg
  accounted := move.accounted regular.accounted
  settled := move.settled regular.settled regular.accounted.slotted
  thriving := move.thriving regular.thriving

theorem Regular.yield_nonneg (regular : scene.Regular cap yield) : 0 ≤ yield :=
  Int.le_trans (Int.le_of_lt regular.accepted.energyValue) regular.ample.fair

/-! ### The ceiling -/

/-- Below the cap there are only so many atoms. -/
theorem Regular.modest_of_belowCap (regular : scene.Regular cap yield)
    (below : scene.BelowCap) : scene.Modest cap yield := by
  obtain ⟨cap', capped, under⟩ := below
  cases capped.symm.trans regular.ample.capped
  have value := regular.accepted.energyValue
  have most := Config.maxEnergy_le capped
  have least : 0 ≤ scene.funds := funds_nonneg
  have tokens := scene.tokenEnergy_eq_stored
  rw [stored_eq value (by omega)] at tokens
  have few : (scene.atoms : Int) ≤ (cap - 1) / scene.config.energyValue :=
    Int.le_ediv_of_mul_le value (by omega)
  have gained := Int.mul_le_mul_of_nonneg_right few (Int.sub_nonneg_of_le regular.ample.fair)
  rw [Int.mul_sub] at gained
  unfold Modest worth Config.ceiling
  omega

/-- Nothing makes a scene worth more but what was afforded, and that leaves it modest. -/
theorem Exchange.modest (exchange : Exchange Affords scene next)
    (config : next.config = scene.config) (regular : scene.Regular cap yield)
    (after : next.Regular cap yield) (modest : scene.Modest cap yield) :
    next.Modest cap yield := by
  have nonneg := regular.yield_nonneg
  cases exchange with
  | keeps poorer fewer deserted =>
    have tokens : next.atoms * yield ≤ scene.atoms * yield :=
      Int.mul_le_mul_of_nonneg_right (Int.ofNat_le.mpr fewer) nonneg
    unfold Modest worth at *
    rw [config]
    omega
  | yields token inhabited positive light gained eaten =>
    -- What is gained is at most what the atoms of the token were worth.
    have gain := regular.ample.fertile token positive light
    have atoms : scene.atoms * yield = next.atoms * yield + token.atoms * yield := by
      rw [← eaten, ← Int.add_mul]
      push_cast
      rfl
    unfold Modest worth at *
    rw [config]
    omega
  | brings amount earned added idle admitted sum richer more =>
    apply after.modest_of_belowCap
    exact belowCap_of_afforded regular.accepted regular.settled regular.thriving idle admitted sum
      config richer more

theorem Move.modest (move : Move Affords scene next) (regular : scene.Regular cap yield)
    (modest : scene.Modest cap yield) : next.Modest cap yield :=
  (move.exchange regular.accepted regular.accounted).modest move.config regular
    (move.regular regular) modest

/-- Where nobody lives tokens may be worth what they like; whoever comes in has asked for the
headroom. -/
theorem Move.deserted_or_modest (move : Move Affords scene next)
    (regular : scene.Regular cap yield)
    (before : scene.Deserted ∨ scene.Modest cap yield) :
    next.Deserted ∨ next.Modest cap yield := by
  rcases before with deserted | modest
  · cases move.exchange regular.accepted regular.accounted with
    | keeps poorer fewer stays => exact .inl (stays deserted)
    | yields token inhabited => exact absurd deserted inhabited
    | brings amount earned added idle admitted sum richer more =>
      refine .inr ((move.regular regular).modest_of_belowCap ?_)
      exact belowCap_of_afforded regular.accepted regular.settled regular.thriving idle admitted
        sum move.config richer more
  · exact .inr (move.modest regular modest)

theorem Moves.regular (moves : Moves Affords scene next) (regular : scene.Regular cap yield) :
    next.Regular cap yield := moves.preserve _ (fun move => move.regular) regular

theorem Moves.modest (moves : Moves Affords scene next) (regular : scene.Regular cap yield)
    (modest : scene.Modest cap yield) : next.Modest cap yield := by
  have both : next.Regular cap yield ∧ next.Modest cap yield :=
    moves.preserve (fun scene => scene.Regular cap yield ∧ scene.Modest cap yield)
      (fun move before => ⟨move.regular before.1, move.modest before.1 before.2⟩)
      ⟨regular, modest⟩
  exact both.2

theorem Moves.deserted_or_modest (moves : Moves Affords scene next)
    (regular : scene.Regular cap yield)
    (before : scene.Deserted ∨ scene.Modest cap yield) :
    next.Deserted ∨ next.Modest cap yield := by
  have both : next.Regular cap yield ∧ (next.Deserted ∨ next.Modest cap yield) :=
    moves.preserve
      (fun scene => scene.Regular cap yield ∧ (scene.Deserted ∨ scene.Modest cap yield))
      (fun move before => ⟨move.regular before.1, move.deserted_or_modest before.1 before.2⟩)
      ⟨regular, before⟩
  exact both.2

/-! ### Ranges -/

/-- Tokens are worth what is in them at least. -/
theorem Regular.tokenEnergy_le (regular : scene.Regular cap yield) :
    scene.tokenEnergy ≤ scene.atoms * yield := by
  have value := Int.le_of_lt regular.accepted.energyValue
  have stored_le := stored_add_le 0 scene.atoms value
  have nothing : stored 0 scene.config.energyValue = 0 := by
    have none : min maxAmount ((0 : Nat) : Int) = 0 := by decide
    rw [stored, none, Int.zero_mul]
    rfl
  have dear : scene.atoms * scene.config.energyValue ≤ scene.atoms * yield :=
    Int.mul_le_mul_of_nonneg_left regular.ample.fair (Int.natCast_nonneg _)
  rw [Nat.zero_add, nothing, ← scene.tokenEnergy_eq_stored] at stored_le
  omega

/-- All energy together leaves room for one token more. -/
theorem Regular.funds_le (regular : scene.Regular cap yield) (modest : scene.Modest cap yield) :
    scene.funds + scene.tokenEnergy + scene.config.energyValue ≤ maxAmount := by
  have tokens := regular.tokenEnergy_le
  have room := regular.ample.room
  unfold Modest worth at modest
  omega

/-- An organism that executes may be in debt, but not the others: they have what it has not. -/
theorem Regular.others (regular : scene.Regular cap yield)
    (resident : scene.residents slot = some body)
    (turn : ∀ other, scene.acting = some other → other = slot) :
    0 ≤ scene.totalEnergy - body.energy ∧
      scene.totalEnergy - body.energy + max 0 body.energy = scene.funds := by
  have slotted := regular.accounted.slotted
  have without : (scene.vacate slot body).Settled := regular.settled.vacate slotted resident
  have idle : (scene.vacate slot body).acting = none := by
    cases acting : scene.acting with
    | none => simp [vacate, acting]
    | some other => simp [vacate, acting, turn other acting]
  have stay : (scene.vacate slot body).Thriving :=
    thriving_vacate fun other held here _ => regular.thriving other held here
  have funds := without.funds_eq stay idle
  have left := funds_vacate slotted resident
  have nonneg : 0 ≤ (scene.vacate slot body).funds := funds_nonneg
  change (scene.vacate slot body).funds = scene.totalEnergy - body.energy at funds
  omega

/-- Two organisms have no more than all of them. -/
theorem Regular.pair_le (regular : scene.Regular cap yield)
    (resident : scene.residents slot = some body) {other : Nat} {beside : Body}
    (elsewhere : other ≠ slot) (held : scene.residents other = some beside) :
    max 0 body.energy + max 0 beside.energy ≤ scene.funds := by
  have slotted := regular.accounted.slotted
  let drained : Body := { beside with energy := 0 }
  have poorer : (scene.seat other drained).funds + max 0 beside.energy = scene.funds + max 0 0 :=
    funds_seat slotted held drained
  have left := funds_vacate (slotted.update held drained) (update_beside elsewhere resident _)
  have nonneg : 0 ≤ ((scene.seat other drained).vacate slot body).funds := funds_nonneg
  omega

/-- What is charged is an amount. -/
theorem Regular.cost_mem (regular : scene.Regular cap yield) {amount : Int}
    (cost : scene.Cost amount) : 0 ≤ amount ∧ amount ≤ maxAmount := by
  refine ⟨cost.nonneg regular.accepted regular.accounted.furnished, ?_⟩
  have most : ∀ charged ∈ scene.config.amounts, charged ≤ maxAmount := fun charged member =>
    ((isAmount_iff _).mp (regular.representable charged member)).2
  rcases cost with rfl | rfl | ⟨surface, member, rfl⟩
  · exact most _ (by simp [Config.amounts])
  · decide
  · obtain ⟨kind, own⟩ := List.getElem?_of_mem member
    have configured := (regular.accounted.furnished.own kind surface own).2
    refine most _ (List.mem_append_right _ ?_)
    exact List.mem_map.mpr ⟨surface.config, List.mem_of_getElem? configured, rfl⟩

/-- What a token yields fits into the funds. -/
theorem Regular.gain_le (regular : scene.Regular cap yield) (modest : scene.Modest cap yield)
    {token : Token} {offset : Nat} (shown : scene.grid.get offset = .token token)
    (energy : token.kind = energyKind) :
    scene.funds + World.gainOf scene.config token ≤ maxAmount := by
  have lies : ground scene.grid scene.residents offset = some token := ground_of_token shown
  have proper := regular.accounted.balanced.lying offset token lies
  have known : energyKind < scene.surfaces.length := energy ▸ proper.known
  have own := List.getElem?_eq_getElem known
  have counted := (regular.accounted.forget_exact own energy (.inl ⟨offset, lies⟩)).2
  rw [← atoms_eq own] at counted
  have few : (token.atoms : Int) ≤ scene.atoms := by omega
  have eaten := Int.mul_le_mul_of_nonneg_right few regular.yield_nonneg
  have gain := regular.ample.fertile token proper.positive proper.light
  have room := regular.ample.room
  have value := regular.accepted.energyValue
  unfold Modest worth at modest
  omega

end Scene

end Vivarium
