import Vivarium.Proofs.Terrain

/-!
# Conservation of terrain

Along a trail on which no token is placed on demand, the tokens of each kind of terrain stay
what they were, one atom each. Their number goes down by one with each burial for whose
packet no empty cell is found, and never otherwise.
-/
namespace Vivarium

/-! ### Burials -/

/-- A packet is laid on an empty cell that is found for it, or there is none and it is no more. -/
theorem Surface.restore_cases {ρ : Type} [DrawSource ρ] {surface next : Surface}
    {grid after : Grid} {token : Token} {source rest : ρ} {landed : Option Nat}
    (done : surface.restore grid token source = .ok (landed, next, after, rest)) :
    (grid.randomEmpty restoreAttempts source = .ok (none, rest) ∧ next = surface.forget token) ∨
      ∃ offset, grid.randomEmpty restoreAttempts source = .ok (some offset, rest) ∧
        next = (surface.lay grid offset token).1 := by
  obtain ⟨⟨found, drawn⟩, search, done⟩ := (bind_eq_ok_iff _ _ _).mp done
  cases found with
  | none =>
    cases done
    exact .inl ⟨search, rfl⟩
  | some offset =>
    cases done
    exact .inr ⟨offset, search, rfl⟩

variable {ρ : Type} [DrawSource ρ]

namespace Burial

omit [DrawSource ρ] in
/-- The field on which a cell is looked for: where the bearer was, what lay beneath it shows. -/
def field (burial : Burial ρ) : Grid := burial.world.grid.set burial.org.offset burial.org.beneath

/-- Whether the one that is buried carries a token of a kind, and no empty cell is found for
it. -/
def loses (kind : Nat) (burial : Burial ρ) : Bool :=
  match burial.org.packet with
  | none => false
  | some packet =>
    packet.kind == kind &&
      match burial.field.randomEmpty restoreAttempts burial.world.source with
      | .ok (none, _) => true
      | _ => false

end Burial

namespace World

variable {world next : World ρ} {org : Organism} {kind : Nat} {surface : Surface}

/-- A burial that loses a token of a kind forgets it, and any other one counts as before. -/
theorem tally_of_bury (buried : world.bury org = .ok next)
    (own : world.surfaces[kind]? = some surface) :
    ((⟨world, org⟩ : Burial ρ).loses kind = true ∧
      ∃ packet, org.packet = some packet ∧ packet.kind = kind ∧
        next.surfaces[kind]? = some (surface.forget packet)) ∨
    ((⟨world, org⟩ : Burial ρ).loses kind = false ∧
      tally next.surfaces kind = tally world.surfaces kind) := by
  cases bury_cases buried with
  | emptyHanded carried => exact .inr ⟨by simp only [Burial.loses, carried], rfl⟩
  | homeless packet carried unknown =>
    have other : packet.kind ≠ kind := by
      rintro rfl
      cases own.symm.trans unknown
    exact .inr ⟨by simp [Burial.loses, carried, other], rfl⟩
  | @carrying packet held changed landed grid source carried found restored =>
    have loses : (⟨world, org⟩ : Burial ρ).loses kind = (packet.kind == kind &&
        match (world.grid.set org.offset org.beneath).randomEmpty restoreAttempts world.source with
        | .ok (none, _) => true
        | _ => false) := by
      simp only [Burial.loses, carried, Burial.field]
    by_cases same : packet.kind = kind
    · subst same
      cases own.symm.trans found
      have inside := (List.getElem?_eq_some_iff.mp own).1
      rcases Surface.restore_cases restored with ⟨search, rfl⟩ | ⟨offset, search, rfl⟩
      · refine .inl ⟨by simp [loses, search], packet, carried, rfl, ?_⟩
        exact List.getElem?_set_self inside
      · exact .inr ⟨by simp [loses, search], tally_set_of_eq own rfl rfl⟩
    · exact .inr ⟨by simp [loses, same], tally_set_of_ne (Ne.symm same) changed⟩

/-- On a field of one cell that shows sand again, there is no place for the sand its bearer
carried. -/
example : Burial.loses 1
    ⟨barren .small [] (.empty 1 1) (Generator.ofSeed 7) false,
      { Organism.fresh 0 0 10 .small with
        packet := some (.single 1), beneath := .token (.single 1) }⟩ = true := by
  decide +kernel

end World

/-! ### Weights -/

theorem total_one_le_total (size : Nat) {shelf : Nat → Option Token}
    (positive : ∀ place token, shelf place = some token → 1 ≤ token.atoms) :
    total size (fun _ => 1) shelf ≤ total size Token.atoms shelf := by
  refine Finset.sum_le_sum fun place _ => ?_
  cases held : shelf place with
  | none => exact Nat.le_refl _
  | some token => exact positive place token held

/-- With as many atoms as tokens on a shelf, each of them has one. -/
theorem atoms_eq_one_of_total {size place : Nat} {shelf : Nat → Option Token} {token : Token}
    (positive : ∀ place token, shelf place = some token → 1 ≤ token.atoms)
    (few : total size Token.atoms shelf ≤ total size (fun _ => 1) shelf) (inside : place < size)
    (here : shelf place = some token) : token.atoms = 1 := by
  have ones := total_clear inside here (fun _ => 1)
  have weights := total_clear inside here Token.atoms
  have others : total size (fun _ => 1) (Function.update shelf place none) ≤
      total size Token.atoms (Function.update shelf place none) := by
    refine total_one_le_total size fun other token held => ?_
    rw [Function.update_apply] at held
    split at held
    · cases held
    · exact positive other token held
  have least := positive place token here
  omega

namespace Scene

variable {scene : Scene} {kind : Nat} {surface : Surface} {token : Token}

/-- A surface that counts as many atoms as tokens has no token of more than one atom. -/
theorem Accounted.atoms_eq_one (accounted : scene.Accounted)
    (own : scene.surfaces[kind]? = some surface) (single : surface.atoms = surface.live)
    (isOwn : token.kind = kind)
    (here : (∃ offset, ground scene.grid scene.residents offset = some token) ∨
      ∃ slot, hands scene.residents slot = some token) : token.atoms = 1 := by
  have audited := accounted.balanced.own kind surface own
  have lying : ∀ offset token, ofKind kind (ground scene.grid scene.residents) offset = some token →
      1 ≤ token.atoms := fun offset token lies =>
    (accounted.balanced.lying offset token (ofKind_eq_some_iff.mp lies).1).positive
  have carried : ∀ slot token, ofKind kind (hands scene.residents) slot = some token →
      1 ≤ token.atoms := fun slot token carries =>
    (accounted.balanced.carried slot token (ofKind_eq_some_iff.mp carries).1).positive
  have live := audited.live
  have atoms := audited.atoms
  -- On neither shelf are there fewer atoms than tokens, so on neither there are more.
  have lyingLe := total_one_le_total scene.grid.size lying
  have carriedLe := total_one_le_total scene.capacity carried
  rcases here with ⟨offset, lies⟩ | ⟨slot, carries⟩
  · exact atoms_eq_one_of_total lying (by omega) (inside_of_ground lies)
      (ofKind_eq_some_iff.mpr ⟨lies, isOwn⟩)
  · exact atoms_eq_one_of_total carried (by omega) (accounted.within carries)
      (ofKind_eq_some_iff.mpr ⟨carries, isOwn⟩)

end Scene

/-! ### Acts -/

section Acts

variable {config : Config} {stage last : Stage ρ} {kind live : Nat}

/-- Of what is buried out of a sound stage, a lost packet is one token and one atom. -/
theorem counts_of_bury {world next : World ρ} {org : Organism} {slot : Nat}
    (sound : stage.Sound config)
    (carries : hands stage.scene.residents slot = org.packet)
    (same : world.surfaces = stage.world.surfaces)
    (counts : tally stage.world.surfaces kind = some (live, live))
    (buried : world.bury org = .ok next) :
    ∃ left, tally next.surfaces kind = some (left, left) ∧
      left + [(⟨world, org⟩ : Burial ρ)].countP (·.loses kind) = live := by
  rw [← same] at counts
  obtain ⟨surface, own, counted⟩ := Option.map_eq_some_iff.mp counts
  obtain ⟨rfl, atoms⟩ := Prod.mk.inj counted
  rcases World.tally_of_bury buried own with
    ⟨loses, packet, carried, isOwn, forgotten⟩ | ⟨keeps, kept⟩
  · have shown : stage.scene.surfaces[kind]? = some surface := by
      rw [stage.surfaces_scene, ← same]
      exact own
    have inHand : hands stage.scene.residents slot = some packet := carries.trans carried
    have one := sound.accounted.atoms_eq_one shown atoms isOwn (.inr ⟨slot, inHand⟩)
    obtain ⟨fewer, lighter⟩ := sound.accounted.forget_exact shown isOwn (.inr ⟨slot, inHand⟩)
    refine ⟨(surface.forget packet).live, ?_, ?_⟩
    · simp only [tally, forgotten, Option.map_some, Option.some.injEq, Prod.mk.injEq, true_and]
      omega
    · rw [List.countP_singleton, if_pos loses]
      exact fewer
  · refine ⟨surface.live, kept.trans counts, ?_⟩
    rw [List.countP_singleton, keeps]
    rfl

/-- The number of the tokens of a kind of terrain, of one atom each, goes down by one with an
act that loses one of them, and stays with any other act. -/
theorem Act.counts {burial : Option (Burial ρ)} (act : Act False stage burial last)
    (sound : stage.Sound config) (foreign : kind ≠ energyKind)
    (counts : tally stage.world.surfaces kind = some (live, live)) :
    ∃ left, tally last.world.surfaces kind = some (left, left) ∧
      left + burial.toList.countP (·.loses kind) = live := by
  -- Without a burial the count stays.
  have stays : ∀ {next : World ρ}, tally next.surfaces kind = tally stage.world.surfaces kind →
      ∃ left, tally next.surfaces kind = some (left, left) ∧ left + 0 = live :=
    fun same => ⟨live, same.trans counts, Nat.add_zero live⟩
  cases act with
  | notes | enters | returns => exact stays rfl
  | line ran goesOn => exact stays (World.tally_of_executeLine foreign goesOn ran)
  | year aged => exact stays (by rw [World.surfaces_of_ageOrganism aged])
  | spawns spawned => exact stays (by rw [World.surfaces_of_spawnOrganism spawned])
  | places allowed => exact allowed.elim
  | replenishes replenished => exact stays (World.tally_of_replenish foreign replenished)
  | ticks ticked => exact stays (World.tally_of_tickSurfaces ticked)
  | @devours world next slot org after prey pool ran lost =>
    obtain ⟨victim, energy, live, removed, buried⟩ := lost
    have elsewhere := (sound.executing.other live).1
    have carries : hands (Stage.scene ⟨world, some ⟨slot, org, .alive⟩⟩).residents victim =
        prey.packet := by
      simp only [Stage.scene, World.during, World.sceneWith, hands,
        Function.update_of_ne elsewhere, Pool.bodies_eq_some live]
      rfl
    exact counts_of_bury sound carries rfl counts buried
  | @leaves world left slot org pool buried released =>
    have carries : hands (Stage.scene ⟨world, some ⟨slot, org, .dead⟩⟩).residents slot =
        org.packet := by
      simp only [Stage.scene, hands, World.resident_during]
      rfl
    -- The slot is given up after the burial, and the surfaces do not show it.
    have counted := counts_of_bury sound carries rfl counts buried
    exact counted
  | @killed world next slot org pool removed buried =>
    have live := Pool.get?_of_remove removed
    have carries : hands (Stage.scene ⟨world, none⟩).residents slot = org.packet := by
      simp only [Stage.scene, World.scene, World.sceneWith, hands, Pool.bodies_eq_some live]
      rfl
    exact counts_of_bury sound carries rfl counts buried

theorem Trail.counts {burials : List (Burial ρ)} (trail : Trail False stage burials last)
    (sound : stage.Sound config) (foreign : kind ≠ energyKind)
    (counts : tally stage.world.surfaces kind = some (live, live)) :
    ∃ left, tally last.world.surfaces kind = some (left, left) ∧
      left + burials.countP (·.loses kind) = live := by
  induction trail generalizing live with
  | refl stage => exact ⟨live, counts, rfl⟩
  | act first rest ih =>
    obtain ⟨between, counted, one⟩ := first.counts sound foreign counts
    obtain ⟨left, remaining, others⟩ := ih (first.sound sound) counted
    refine ⟨left, remaining, ?_⟩
    rw [List.countP_append]
    omega

end Acts

/-! ### Tokens -/

namespace Stage

variable {ρ : Type}

/-- The world in which the organism that executes is back in its slot. -/
def atRest (stage : Stage ρ) : World ρ :=
  match stage.player with
  | none => stage.world
  | some player =>
    { stage.world with pool := stage.world.pool.restore player.slot player.org }

/-- The tokens of a kind, wherever they are: shown, beneath organisms or carried. -/
def tokens (stage : Stage ρ) (kind : Nat) : List Token :=
  (stage.atRest.shown ++ stage.atRest.covered ++ stage.atRest.carried).filter (·.kind == kind)

variable {config : Config} {stage : Stage ρ} {kind : Nat} {surface : Surface}

theorem Sound.accounted_atRest (sound : stage.Sound config) : stage.atRest.scene.Accounted := by
  obtain ⟨world, player⟩ := stage
  cases player with
  | none => exact sound.accounted
  | some player =>
    obtain ⟨-, map, capacity⟩ := Pool.restore_of_lent sound.lent player.org
    have bodies := Pool.bodies_update map
    -- Only the pool is another one, and it shows the same residents.
    have accounted : (world.during player.slot player.org.body).Accounted := sound.accounted
    have shown : (Stage.atRest ⟨world, some player⟩).scene =
        { world.during player.slot player.org.body with acting := none } := by
      simp only [atRest, World.scene, World.during, World.sceneWith, bodies, capacity,
        Option.map_some]
    rw [shown]
    exact ⟨accounted.exclusive, ⟨accounted.furnished.length, accounted.furnished.own⟩,
      accounted.slotted, accounted.balanced⟩

theorem surfaces_atRest (stage : Stage ρ) : stage.atRest.surfaces = stage.world.surfaces := by
  unfold atRest
  split <;> rfl

/-- A surface with as many atoms as tokens says all that there is to say of them. -/
theorem Sound.tokens_eq (sound : stage.Sound config)
    (own : stage.world.surfaces[kind]? = some surface)
    (single : surface.atoms = surface.live) :
    stage.tokens kind = List.replicate surface.live (.single kind) := by
  have accounted := sound.accounted_atRest
  rw [← surfaces_atRest] at own
  have audited := accounted.balanced.own kind surface own
  have number : (stage.tokens kind).length = surface.live := by
    have ones := stage.atRest.sum_ofKind kind (fun _ => 1) accounted.exclusive accounted.slotted
    simp only [List.map_const', List.sum_replicate, smul_eq_mul, Nat.mul_one] at ones
    exact ones.trans audited.live.symm
  refine List.eq_replicate_iff.mpr ⟨number, fun token member => ?_⟩
  obtain ⟨member, isOwn⟩ := List.mem_filter.mp member
  have here := stage.atRest.mem_tokens accounted.exclusive token member
  have isOwn : token.kind = kind := by simpa using isOwn
  have one := accounted.atoms_eq_one own single isOwn here
  rw [← isOwn, Token.single, ← one]

end Stage

/-! ### Runs -/

namespace World

variable {config : Config} {source : ρ} {recording : Bool} {start world : World ρ}

/-- A created world has as many atoms as tokens on each surface. -/
theorem single_of_create (created : create config source recording = .ok (.ok start))
    (kind : Nat) (surface : Surface) (own : start.surfaces[kind]? = some surface) :
    surface.atoms = surface.live := by
  obtain ⟨-, surfaces, grid, rest, placed, seeding, populating⟩ :=
    (create_eq_ok_iff _ _ _ _).mp created
  have kept : start.surfaces = surfaces := surfaces_of_seedPopulation populating
  -- Each surface starts from nothing, and what is put on it is a token of one atom.
  have single : ∀ (kind : Nat) (surface : Surface), surfaces[kind]? = some surface →
      surface.atoms = surface.live := by
    refine onSurfaces_preserve (fun surfaces _ => ∀ (kind : Nat) (surface : Surface),
      surfaces[kind]? = some surface → surface.atoms = surface.live) ?_ seeding [] ?_
    · intro surfaces state place held value changed next single own seeded kind surface here
      have counted := (putMany_counts seeded).2
      have before := single place held own
      rw [List.getElem?_set] at here
      split at here
      next =>
        split at here
        · cases here
          omega
        · cases here
      next => exact single kind surface here
    · intro kind surface here
      rw [List.nil_append, Scene.surfacesFrom_getElem?, Option.map_eq_some_iff] at here
      obtain ⟨configured, -, rfl⟩ := here
      rfl
  exact single kind surface (kept ▸ own)

/-- Whatever is called but to place tokens, the calls leave a trail; and on every such trail
the tokens of a kind of terrain are from stage to stage the same but for those that were lost
with their bearers, and of one atom each. -/
theorem performAll_terrain (calls : List Call)
    (created : create config source recording = .ok (.ok start))
    (unaided : ∀ call ∈ calls, call.placesToken = false)
    (performed : performAll calls start = .ok world) :
    (∃ burials, Trail False ⟨start, none⟩ burials ⟨world, none⟩) ∧
    ∀ early late stage last, Trail False ⟨start, none⟩ early stage → Trail False stage late last →
      ∀ kind surface, kind ≠ energyKind → stage.world.surfaces[kind]? = some surface →
        ∃ after, last.world.surfaces[kind]? = some after ∧
          after.live + late.countP (·.loses kind) = surface.live ∧
          after.atoms = after.live ∧
          last.tokens kind = List.replicate after.live (.single kind) := by
  constructor
  · refine performAll_unfolds (fun call member places => ?_) performed
    rw [unaided call member] at places
    cases places
  · -- At first each token has one atom. The trail to the stage keeps that, so tokens are counted by
    -- atoms from there on, and an act takes away one of each or none.
    intro early late stage last first rest kind surface foreign own
    have started := sound_of_create created
    have sound := first.sound started
    have inside : kind < start.surfaces.length := by
      have place := (List.getElem?_eq_some_iff.mp own).1
      rwa [sound.length_surfaces, ← started.length_surfaces] at place
    have single := single_of_create created kind _ (List.getElem?_eq_getElem inside)
    have counts : tally start.surfaces kind =
        some (start.surfaces[kind].live, start.surfaces[kind].live) := by
      simp only [tally, List.getElem?_eq_getElem inside, Option.map_some, single]
    obtain ⟨live, counted, -⟩ := first.counts started foreign counts
    obtain ⟨left, remaining, lost⟩ := rest.counts sound foreign counted
    obtain ⟨surface', own', held⟩ := Option.map_eq_some_iff.mp counted
    cases own.symm.trans own'
    obtain ⟨rfl, -⟩ := Prod.mk.inj held
    obtain ⟨after, ownAfter, heldAfter⟩ := Option.map_eq_some_iff.mp remaining
    obtain ⟨rfl, atoms⟩ := Prod.mk.inj heldAfter
    exact ⟨after, ownAfter, lost, atoms, (rest.sound sound).tokens_eq ownAfter atoms⟩

end World

/-! ### A strait -/

/-- A row of three cells, two of which show sand. -/
def Config.strait : Config :=
  { Config.small with
    worldHeight := 1
    orgInitialPercent := 0.0
    surfaces := [.energyPackets, { SurfaceConfig.sand with capacity := 2, initial := 2 }] }

/-- The calls of a life on sand: an organism steps onto it and is killed there. -/
def Call.straitLife : List Call :=
  [.spawnOrganism 1 [6, Opcode.step.word] 50, .runOrganism 0 2, .kill 0]

namespace World

set_option maxRecDepth 20000 in
theorem performAll_strait :
    ∃ start world : World Generator, create .strait (.ofSeed 7) false = .ok (.ok start) ∧
      performAll Call.straitLife start = .ok world ∧ tally start.surfaces 1 = some (2, 2) ∧
      tally world.surfaces 1 = some (2, 2) :=
  ⟨_, _, rfl, rfl, by decide +kernel, by decide +kernel⟩

/-- What was trodden on is uncovered as it was. -/
theorem performAll_terrain_strait :
    ∃ start world : World Generator, create .strait (.ofSeed 7) false = .ok (.ok start) ∧
      performAll Call.straitLife start = .ok world ∧
      ∃ burials, Trail False ⟨start, none⟩ burials ⟨world, none⟩ ∧
        burials.countP (·.loses 1) = 0 ∧
        (⟨world, none⟩ : Stage Generator).tokens 1 = [.single 1, .single 1] := by
  obtain ⟨start, world, created, performed, before, later⟩ := performAll_strait
  obtain ⟨⟨burials, trail⟩, conserved⟩ :=
    performAll_terrain Call.straitLife created (by decide) performed
  obtain ⟨surface, own, held⟩ := Option.map_eq_some_iff.mp before
  obtain ⟨after, ownAfter, lost, -, tokens⟩ :=
    conserved [] burials _ _ (.refl _) trail 1 surface (by decide) own
  simp only [tally, ownAfter, Option.map_some, Option.some.injEq, Prod.mk.injEq] at later
  obtain ⟨two, -⟩ := Prod.mk.inj held
  rw [later.1] at tokens
  exact ⟨start, world, created, performed, burials, trail, by omega, tokens⟩

end World

end Vivarium
