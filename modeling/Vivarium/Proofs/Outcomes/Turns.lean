import Vivarium.World.Population
import Vivarium.Proofs.Outcomes

/-!
# What comes of a turn

The instructions that act on the world, the lines of a program, slices and turns, each read off
its answer. Where an instruction ends in more than two ways, these are the constructors of a
relation; `Line` collects them as what a line can come to.
-/
namespace Vivarium.World

variable {ρ : Type} {world next : World ρ} {org after : Organism} {flow : Flow}

/-! ### Steps -/

/-- The surface of the token on which an organism stands. -/
def terrainOf (world : World ρ) (org : Organism) : Option Surface :=
  org.beneath.token?.bind fun token => world.surfaces[token.kind]?

/-- Who is on its way waits, is held up, or goes on to the next cell. -/
inductive Walks (world : World ρ) (slot : Nat) (org : Organism) (delay : Nat) :
    Flow → Organism → World ρ → Prop where
  | waits {after : Organism} {next : World ρ} (early : org.steps + 1 < delay)
      (charged : world.charge { org with steps := org.steps + 1 } world.config.orgStepEnergy =
        .ok (after, next)) : Walks world slot org delay (flowOf after) after next
  | stays (due : delay ≤ org.steps + 1)
      (barred : ∀ target, world.targetOf org = some target →
        world.isBarrier (world.grid.get target) = true) :
    Walks world slot org delay .next { org with steps := 0 } world
  | goes {target : Nat} {after : Organism} {next : World ρ} (due : delay ≤ org.steps + 1)
      (pointed : world.targetOf org = some target)
      (passable : world.isBarrier (world.grid.get target) = false)
      (charged :
        { world with grid := world.grid.moveOrganism org.offset target slot org.beneath }.charge
          { org with steps := 0, beneath := world.grid.get target, offset := target }
          world.config.orgStepEnergy = .ok (after, next)) :
    Walks world slot org delay (flowOf after) after next

theorem walk_cases {slot delay : Nat}
    (walked : world.walk slot org delay = .ok (flow, after, next)) :
    world.Walks slot org delay flow after next := by
  obtain ⟨steps, counted, walked⟩ := (bind_eq_ok_iff _ _ _).mp walked
  obtain ⟨-, rfl⟩ := (Count.add_eq_ok_iff _ _ _ _).mp counted
  split at walked
  next early =>
    obtain ⟨⟨paid, charged⟩, charging, answer⟩ := (bind_eq_ok_iff _ _ _).mp walked
    cases answer
    exact .waits early charging
  next due =>
    simp only at walked
    split at walked
    next nowhere =>
      cases walked
      refine .stays (Nat.not_lt.mp due) fun target pointed => ?_
      cases nowhere.symm.trans pointed
    next target pointed =>
      split at walked
      next barrier =>
        -- There is one target, so whatever the organism points to is this barrier.
        cases walked
        refine .stays (Nat.not_lt.mp due) fun other same => ?_
        cases Option.some.inj (pointed.symm.trans same)
        exact barrier
      next passable =>
        obtain ⟨⟨paid, charged⟩, charging, answer⟩ := (bind_eq_ok_iff _ _ _).mp walked
        cases answer
        exact .goes (Nat.not_lt.mp due) pointed (Bool.not_eq_true _ ▸ passable) charging

section Drawing

variable [DrawSource ρ]

/-- A dose is taken up, or a full one is used up in a mutation. -/
theorem irradiate_cases {radiation : Float}
    (done : world.irradiate org radiation = .ok (after, next)) :
    (after = { org with radiation := org.radiation + radiation } ∧ next = world) ∨
      ∃ events source, { org with radiation := 0.0 }.mutate world.config world.source =
          .ok (events, after, source) ∧ next = { world with source } := by
  simp only [irradiate] at done
  split at done
  next =>
    obtain ⟨⟨events, mutant, source⟩, mutated, answer⟩ := (bind_eq_ok_iff _ _ _).mp done
    cases answer
    exact .inr ⟨events, source, mutated, rfl⟩
  next =>
    cases done
    exact .inl ⟨rfl, rfl⟩

/-- Terrain is paid for before anything else. Who survives that takes up its radiation and is on
its way, held up by it. -/
inductive Steps (world : World ρ) (slot : Nat) (org : Organism) :
    Flow → Organism → World ρ → Prop where
  | bare {flow : Flow} {after : Organism} {next : World ρ} (free : world.terrainOf org = none)
      (walked : world.walk slot org.advance org.moves = .ok (flow, after, next)) :
    Steps world slot org flow after next
  | dies {surface : Surface} {paid : Organism} {charged : World ρ}
      (beneath : world.terrainOf org = some surface)
      (charging : world.charge org.advance surface.config.energy = .ok (paid, charged))
      (dead : paid.isAlive = false) : Steps world slot org .die paid charged
  | treads {surface : Surface} {flow : Flow} {paid dosed after : Organism}
      {charged drawn next : World ρ} (beneath : world.terrainOf org = some surface)
      (charging : world.charge org.advance surface.config.energy = .ok (paid, charged))
      (alive : paid.isAlive = true)
      (irradiated : charged.irradiate paid surface.config.radiation = .ok (dosed, drawn))
      (walked : drawn.walk slot dosed (Count.addClamped limit32 org.moves surface.config.step) =
        .ok (flow, after, next)) : Steps world slot org flow after next

theorem runStep_cases {slot : Nat} (ran : world.runStep slot org = .ok (flow, after, next)) :
    world.Steps slot org flow after next := by
  simp only [runStep] at ran
  split at ran
  next free => exact .bare free ran
  next surface beneath =>
    obtain ⟨⟨paid, charged⟩, charging, ran⟩ := (bind_eq_ok_iff _ _ _).mp ran
    simp only at ran
    split at ran
    next alive =>
      obtain ⟨⟨dosed, drawn⟩, irradiated, walked⟩ := (bind_eq_ok_iff _ _ _).mp ran
      exact .treads beneath charging alive irradiated walked
    next dead =>
      cases ran
      exact .dies beneath charging (Bool.not_eq_true _ ▸ dead)

/-! ### Meals -/

/-- There is nobody to eat, or somebody who has more than is taken, or who is drained and dies. -/
inductive Bites (world : World ρ) (org : Organism) (victim : Nat) (amount : Int) :
    Flow → Organism → World ρ → Prop where
  | misses (nobody : world.pool.get? victim = none) :
    Bites world org victim amount .next { org with b := 0.0 } world
  | bites {prey : Organism} (caught : world.pool.get? victim = some prey)
      (less : amount < prey.energy) :
    Bites world org victim amount .next
      { org with energy := org.energy + amount, b := Register.ofInt amount }
      { world with
        pool := world.pool.update victim { prey with energy := prey.energy - amount } }
  | drains {prey : Organism} {done : Bool} {next : World ρ}
      (caught : world.pool.get? victim = some prey) (all : prey.energy ≤ amount)
      (killing : { world with pool := world.pool.update victim { prey with energy := 0 } }.kill
        victim = .ok (done, next)) :
    Bites world org victim amount .stop
      { org with energy := org.energy + prey.energy, b := Register.ofInt prey.energy } next

theorem eatOrganism_cases {victim : Nat} {amount : Int}
    (ran : world.eatOrganism org victim amount = .ok (flow, after, next)) :
    world.Bites org victim amount flow after next := by
  unfold eatOrganism at ran
  split at ran
  next nobody =>
    cases ran
    exact .misses nobody
  next prey caught =>
    obtain ⟨left, difference, ran⟩ := (bind_eq_ok_iff _ _ _).mp ran
    obtain ⟨energy, sum, ran⟩ := (bind_eq_ok_iff _ _ _).mp ran
    obtain ⟨-, remains⟩ := (Amount.sub_eq_ok_iff _ _ _).mp difference
    obtain ⟨-, rfl⟩ := (Amount.add_eq_ok_iff _ _ _).mp sum
    simp only at ran
    -- What is left says which of the two was the smaller amount.
    split at ran
    next drained =>
      obtain ⟨⟨done, killed⟩, killing, answer⟩ := (bind_eq_ok_iff _ _ _).mp ran
      have all : min prey.energy amount = prey.energy := by omega
      obtain rfl : left = 0 := by omega
      cases answer
      rw [all]
      exact .drains caught (by omega) killing
    next lives =>
      have part : min prey.energy amount = amount := by omega
      obtain rfl : left = prey.energy - amount := by omega
      cases ran
      rw [part]
      exact .bites caught (by omega)

omit [DrawSource ρ] in
/-- A token that is eaten is gone from its surface. -/
theorem eatToken_eq_ok {target : Nat} {token : Token}
    (ran : world.eatToken org target token = .ok (flow, after, next)) :
    ∃ surface eaten changed grid, world.surfaces[energyKind]? = some surface ∧
      surface.remove world.grid target false = .ok (eaten, changed, grid) ∧ flow = .next ∧
      after = { org with
        energy := org.energy + gainOf world.config token
        b := Register.ofInt (gainOf world.config token) } ∧
      next = { world with
        grid
        surfaces := world.surfaces.set energyKind changed
        totalEnergy := world.totalEnergy + gainOf world.config token } := by
  obtain ⟨⟨eaten, surfaces, grid⟩, removed, ran⟩ := (bind_eq_ok_iff _ _ _).mp ran
  rcases onSurface_eq_ok removed with
    ⟨-, rfl, -⟩ | ⟨surface, found, changed, own, taken, rfl, rfl⟩
  · cases ran
  · obtain ⟨⟨fed, credited⟩, crediting, answer⟩ := (bind_eq_ok_iff _ _ _).mp ran
    obtain ⟨rfl, rfl⟩ := credit_eq_ok crediting
    cases answer
    exact ⟨surface, found, changed, grid, own, taken, rfl, rfl, rfl⟩

/-- Feeding gives nothing, or terrain has been found, or an organism or a token is eaten. -/
inductive Feeds (world : World ρ) (org : Organism) (target : Option Nat) :
    Flow → Organism → World ρ → Prop where
  | nothing : Feeds world org target .next { org with b := 0.0 } world
  | terrain : Feeds world org target .next org world
  | organism {offset victim : Nat} {flow : Flow} {after : Organism} {next : World ρ}
      (pointed : target = some offset) (shown : world.grid.get offset = .organism victim)
      (bitten : world.eatOrganism org victim (Amount.magnitude (Register.toInt org.d)) =
        .ok (flow, after, next)) : Feeds world org target flow after next
  | token {offset : Nat} {token : Token} {flow : Flow} {after : Organism} {next : World ρ}
      (pointed : target = some offset) (shown : world.grid.get offset = .token token)
      (energy : token.isEnergy = true)
      (eaten : world.eatToken org offset token = .ok (flow, after, next)) :
    Feeds world org target flow after next

theorem eatAt_cases {target : Option Nat}
    (ran : world.eatAt org target = .ok (flow, after, next)) :
    world.Feeds org target flow after next := by
  cases target with
  | none =>
    cases ran
    exact .nothing
  | some offset =>
    simp only [eatAt] at ran
    split at ran
    next =>
      cases ran
      exact .nothing
    next victim shown =>
      split at ran
      next => exact .organism rfl shown ran
      next =>
        cases ran
        exact .nothing
    next token shown =>
      split at ran
      next energy => exact .token rfl shown energy ran
      next =>
        cases ran
        exact .terrain

/-! ### Offspring -/

/-- A clone mutates or it does not; in the world nothing but a draw is gone. -/
theorem mutateClone_cases (done : world.mutateClone org = .ok (after, next)) :
    (∃ source, next = { world with source }) ∧
      (after = org ∨ ∃ (events : Nat) (source rest : ρ),
        org.mutate world.config source = .ok (events, after, rest)) := by
  obtain ⟨⟨chosen, source⟩, -, done⟩ := (bind_eq_ok_iff _ _ _).mp done
  simp only at done
  split at done
  · obtain ⟨⟨events, mutant, rest⟩, mutated, answer⟩ := (bind_eq_ok_iff _ _ _).mp done
    cases answer
    exact ⟨⟨rest, rfl⟩, .inr ⟨events, source, rest, mutated⟩⟩
  · cases done
    exact ⟨⟨source, rfl⟩, .inl rfl⟩

/-- A clone is crossed with an organism of the pool or it is not. -/
theorem crossClone_cases (done : world.crossClone org = .ok (after, next)) :
    (∃ source, next = { world with source }) ∧
      (after = org ∨ ∃ (slot : Nat) (donor : Organism) (found : Bool) (source rest : ρ),
        world.pool.get? slot = some donor ∧
          org.crossover donor.code world.config source = .ok (found, after, rest)) := by
  obtain ⟨⟨chosen, source⟩, -, done⟩ := (bind_eq_ok_iff _ _ _).mp done
  simp only at done
  split at done
  · obtain ⟨⟨slot, source⟩, -, done⟩ := (bind_eq_ok_iff _ _ _).mp done
    simp only at done
    split at done
    next =>
      cases done
      exact ⟨⟨source, rfl⟩, .inl rfl⟩
    next donor live =>
      obtain ⟨⟨found, crossed, rest⟩, crossing, answer⟩ := (bind_eq_ok_iff _ _ _).mp done
      cases answer
      exact ⟨⟨rest, rfl⟩, .inr ⟨slot, donor, found, source, rest, live, crossing⟩⟩
  · cases done
    exact ⟨⟨source, rfl⟩, .inl rfl⟩

/-- How a clone is born: its parent pays half of the energy for it, and it is endowed with that,
changed by chance and adopted. A register tells the parent whether there was room. -/
inductive Bears (world : World ρ) (org : Organism) (target : Nat) (after : Organism)
    (next : World ρ) : Prop where
  | clone {payer mutant : Organism} {paid mutated drawn : World ρ} (child : Organism)
      (placed : Option Nat)
      (charged : { world with nextId := world.nextId + 1 }.charge org (org.energy.tdiv 2) =
        .ok (payer, paid))
      (mutates : paid.mutateClone
          (org.endow (.fresh world.nextId target (org.energy.tdiv 2) world.config)) =
        .ok (mutant, mutated))
      (crosses : mutated.crossClone mutant = .ok (child, drawn))
      (adopted : drawn.adopt child = .ok (placed, next))
      (told : after = if placed.isSome then { payer with b := 1.0 } else payer)

/-- Who has nothing to share dies of the attempt. -/
theorem bear_cases {target : Nat} (ran : world.bear org target = .ok (flow, after, next)) :
    (org.energy.tdiv 2 ≤ 0 ∧ flow = .die ∧ after = org ∧ next = world) ∨
      0 < org.energy.tdiv 2 ∧ flow = .next ∧ world.Bears org target after next := by
  simp only [bear] at ran
  split at ran
  next poor =>
    cases ran
    exact .inl ⟨poor, rfl, rfl, rfl⟩
  next share =>
    obtain ⟨⟨id, named⟩, allocated, ran⟩ := (bind_eq_ok_iff _ _ _).mp ran
    obtain ⟨heir, begotten, ran⟩ := (bind_eq_ok_iff _ _ _).mp ran
    obtain ⟨⟨payer, paid⟩, charged, ran⟩ := (bind_eq_ok_iff _ _ _).mp ran
    obtain ⟨⟨mutant, mutated⟩, mutates, ran⟩ := (bind_eq_ok_iff _ _ _).mp ran
    obtain ⟨⟨child, drawn⟩, crosses, ran⟩ := (bind_eq_ok_iff _ _ _).mp ran
    obtain ⟨⟨placed, grown⟩, adopted, answer⟩ := (bind_eq_ok_iff _ _ _).mp ran
    -- Only the name is new when the parent pays, and an heir is what its parent endows.
    obtain ⟨rfl, rfl⟩ := allocateId_eq_ok allocated
    cases Organism.offspring_eq_ok begotten
    cases answer
    exact .inr ⟨Int.not_le.mp share, rfl, .clone child placed charged mutates crosses adopted rfl⟩

/-- A clone is refused, or born on the empty cell to which the organism points. -/
theorem runClone_cases (ran : world.runClone org = .ok (flow, after, next)) :
    (flow = .next ∧ after = { org.advance with b := 0.0 } ∧ next = world) ∨
      ∃ target, world.pool.isFull = false ∧ world.config.orgCloneEnergy ≤ org.energy ∧
        world.targetOf { org.advance with b := 0.0 } = some target ∧
        world.grid.get target = .empty ∧
        world.bear { org.advance with b := 0.0 } target = .ok (flow, after, next) := by
  simp only [runClone] at ran
  split at ran
  next =>
    cases ran
    exact .inl ⟨rfl, rfl, rfl⟩
  next able =>
    obtain ⟨room, rich⟩ := not_or.mp able
    split at ran
    next =>
      cases ran
      exact .inl ⟨rfl, rfl, rfl⟩
    next target pointed =>
      split at ran
      next free =>
        exact .inr ⟨target, by simpa using room, Int.not_lt.mp rich, pointed,
          (Cell.isEmpty_iff _).mp free, ran⟩
      next =>
        cases ran
        exact .inl ⟨rfl, rfl, rfl⟩

/-! ### Carried tokens -/

omit [DrawSource ρ] in
theorem pickupAt_eq_some {target kind : Nat}
    (able : world.pickupAt org = some (target, kind)) : org.packet = none := by
  unfold pickupAt at able
  split at able
  next => cases able
  next handsFree => simpa using handsFree

omit [DrawSource ρ] in
/-- Hands that are free pick up a token, or nothing has changed. -/
theorem runGet_cases (ran : world.runGet org = .ok (after, next)) :
    (after = { org.advance with b := 0.0 } ∧ next = world) ∨
      ∃ target kind surface token changed grid, org.packet = none ∧
        world.surfaces[kind]? = some surface ∧
        surface.remove world.grid target true = .ok (some token, changed, grid) ∧
        after = { org.advance with b := token.raw, packet := some token } ∧
        next = { world with grid, surfaces := world.surfaces.set kind changed } := by
  simp only [runGet] at ran
  split at ran
  next =>
    cases ran
    exact .inl ⟨rfl, rfl⟩
  next target kind able =>
    have free : org.packet = none := pickupAt_eq_some able
    obtain ⟨⟨taken, surfaces, grid⟩, removed, ran⟩ := (bind_eq_ok_iff _ _ _).mp ran
    rcases onSurface_eq_ok removed with
      ⟨-, rfl, rfl, rfl⟩ | ⟨surface, found, changed, own, operated, rfl, rfl⟩
    · cases ran
      exact .inl ⟨rfl, rfl⟩
    · cases found with
      | none =>
        obtain ⟨rfl, rfl, -⟩ := Surface.remove_eq_none operated
        rw [set_getElem?_self own] at ran
        cases ran
        exact .inl ⟨rfl, rfl⟩
      | some token =>
        cases ran
        exact .inr ⟨target, kind, surface, token, changed, grid, free, own, operated, rfl, rfl⟩

omit [DrawSource ρ] in
/-- A packet is put down on a free cell, or nothing has changed. -/
theorem putAt_cases {packet : Option Token} {target : Option Nat}
    (ran : world.putAt org packet target = .ok (after, next)) :
    (after = org ∧ next = world) ∨
      ∃ offset token surface changed grid, packet = some token ∧
        world.surfaces[token.kind]? = some surface ∧ world.grid.Free offset ∧
        (changed, grid) = surface.lay world.grid offset token ∧
        after = { org with b := token.raw, packet := none } ∧
        next = { world with grid, surfaces := world.surfaces.set token.kind changed } := by
  unfold putAt at ran
  split at ran
  next token offset =>
    obtain ⟨⟨placed, surfaces, grid⟩, put, ran⟩ := (bind_eq_ok_iff _ _ _).mp ran
    rcases onSurface_eq_ok put with
      ⟨-, rfl, rfl, rfl⟩ | ⟨surface, done, changed, own, operated, rfl, rfl⟩
    · cases ran
      exact .inl ⟨rfl, rfl⟩
    · rw [Except.ok.injEq] at operated
      have change := Surface.place_eq operated
      cases done with
      | false =>
        obtain ⟨rfl, rfl⟩ := change
        rw [set_getElem?_self own] at ran
        cases ran
        exact .inl ⟨rfl, rfl⟩
      | true =>
        cases ran
        exact .inr ⟨offset, token, surface, changed, grid, rfl, own, change.1, change.2, rfl, rfl⟩
  next =>
    cases ran
    exact .inl ⟨rfl, rfl⟩

omit [DrawSource ρ] in
theorem mixAt_eq_some {target : Nat} {packet : Token}
    (able : world.mixAt org = some (target, packet)) :
    org.packet = some packet ∧ packet.kind = energyKind := by
  unfold mixAt at able
  obtain ⟨carried, isCarried, able⟩ := Option.bind_eq_some_iff.mp able
  obtain ⟨pointed, -, able⟩ := Option.bind_eq_some_iff.mp able
  obtain ⟨lying, -, able⟩ := Option.bind_eq_some_iff.mp able
  split at able
  next energies =>
    cases able
    exact ⟨isCarried, by simpa [Token.isEnergy] using energies.1⟩
  next => cases able

omit [DrawSource ρ] in
/-- A packet of energy is fused with another one, or nothing has changed. -/
theorem runMix_cases (ran : world.runMix org = .ok (after, next)) :
    (after = { org.advance with b := 0.0 } ∧ next = world) ∨
      ∃ target packet surface merged changed grid,
        (org.packet = some packet ∧ packet.kind = energyKind) ∧
        world.surfaces[energyKind]? = some surface ∧
        surface.merge world.grid target packet = .ok (some merged, changed, grid) ∧
        after = { org.advance with b := merged.raw, packet := none } ∧
        next = { world with grid, surfaces := world.surfaces.set energyKind changed } := by
  simp only [runMix] at ran
  split at ran
  next =>
    cases ran
    exact .inl ⟨rfl, rfl⟩
  next target packet able =>
    have carried : org.packet = some packet ∧ packet.kind = energyKind := mixAt_eq_some able
    obtain ⟨⟨merged, surfaces, grid⟩, fused, ran⟩ := (bind_eq_ok_iff _ _ _).mp ran
    rcases onSurface_eq_ok fused with
      ⟨-, rfl, rfl, rfl⟩ | ⟨surface, fusion, changed, own, operated, rfl, rfl⟩
    · cases ran
    · cases fusion with
      | none =>
        obtain ⟨rfl, rfl⟩ := Surface.merge_eq_none operated
        rw [set_getElem?_self own] at ran
        cases ran
        exact .inl ⟨rfl, rfl⟩
      | some merged =>
        cases ran
        exact .inr ⟨target, packet, surface, merged, changed, grid, carried, own, operated, rfl,
          rfl⟩

/-! ### Lines and slices -/

omit [DrawSource ρ] in
theorem goOn_eq_ok {done : Outcome (Organism × World ρ)}
    (ran : goOn done = .ok (flow, after, next)) : flow = .next ∧ done = .ok (after, next) := by
  obtain ⟨⟨org, world⟩, finished, answer⟩ := (bind_eq_ok_iff _ _ _).mp ran
  cases answer
  exact ⟨rfl, finished⟩

/-- What a line is, and what comes of it. -/
inductive Line (world : World ρ) (slot : Nat) (org : Organism) :
    Flow → Organism → World ρ → Prop where
  | leaves (behind : org.fetch = none) : Line world slot org .next org.leaveCode world
  | loads (value : Int) (fetched : org.fetch = some (.literal value)) :
    Line world slot org .next { org with d := Register.ofInt value }.advance world
  | passes (word : Int) (fetched : org.fetch = some (.invalid word)) :
    Line world slot org .next org.advance world
  | steps {flow : Flow} {after : Organism} {next : World ρ}
      (fetched : org.fetch = some (.op .step))
      (ran : world.runStep slot org = .ok (flow, after, next)) : Line world slot org flow after next
  | eats {flow : Flow} {after : Organism} {next : World ρ} (fetched : org.fetch = some (.op .eat))
      (ran : world.eatAt org.advance (world.targetOf org.advance) = .ok (flow, after, next)) :
    Line world slot org flow after next
  | clones {flow : Flow} {after : Organism} {next : World ρ}
      (fetched : org.fetch = some (.op .clone))
      (ran : world.runClone org = .ok (flow, after, next)) : Line world slot org flow after next
  | sees (fetched : org.fetch = some (.op .see)) :
    Line world slot org .next (world.runSee org) world
  | draws (number : Int) (source : ρ) (fetched : org.fetch = some (.op .rand)) :
    Line world slot org .next { org.advance with a := Register.ofInt number }
      { world with source }
  | gets {after : Organism} {next : World ρ} (fetched : org.fetch = some (.op .get))
      (ran : world.runGet org = .ok (after, next)) : Line world slot org .next after next
  | puts {after : Organism} {next : World ρ} (fetched : org.fetch = some (.op .put))
      (ran : world.putAt org.advance org.packet (world.targetOf org.advance) = .ok (after, next)) :
    Line world slot org .next after next
  | mixes {after : Organism} {next : World ρ} (fetched : org.fetch = some (.op .mix))
      (ran : world.runMix org = .ok (after, next)) : Line world slot org .next after next
  | computes {after : Organism} (opcode : Opcode) (fetched : org.fetch = some (.op opcode))
      (ran : org.execute opcode = .ok after) : Line world slot org .next after world

theorem executeLine_cases {slot : Nat}
    (ran : world.executeLine slot org = .ok (flow, after, next)) :
    world.Line slot org flow after next := by
  unfold executeLine at ran
  split at ran
  next behind =>
    cases ran
    exact .leaves behind
  next value fetched =>
    cases ran
    exact .loads value fetched
  next word fetched =>
    cases ran
    exact .passes word fetched
  next opcode fetched =>
    unfold runOpcode at ran
    -- Opcodes that only compute come last, together.
    split at ran
    next => exact .steps fetched ran
    next => exact .eats fetched ran
    next => exact .clones fetched ran
    next =>
      cases ran
      exact .sees fetched
    next =>
      obtain ⟨rfl, drawn⟩ := goOn_eq_ok ran
      obtain ⟨⟨number, source⟩, -, answer⟩ := (bind_eq_ok_iff _ _ _).mp drawn
      cases answer
      exact .draws number source fetched
    next =>
      obtain ⟨rfl, got⟩ := goOn_eq_ok ran
      exact .gets fetched got
    next =>
      obtain ⟨rfl, put⟩ := goOn_eq_ok ran
      exact .puts fetched put
    next =>
      obtain ⟨rfl, mixed⟩ := goOn_eq_ok ran
      exact .mixes fetched mixed
    next =>
      obtain ⟨computed, executed, answer⟩ := (bind_eq_ok_iff _ _ _).mp ran
      cases answer
      exact .computes _ fetched executed

/-- There is nobody in the slot, or its organism executes the slice and returns or leaves. -/
theorem runOrganism_cases {slot lines : Nat} {answer : Option Fate}
    (ran : world.runOrganism slot lines = .ok (answer, next)) :
    (world.pool.take slot = none ∧ answer = none ∧ next = world) ∨
      ∃ org pool fate after executed, world.pool.take slot = some (org, pool) ∧
        executeLines slot lines org { world with pool } = .ok (fate, after, executed) ∧
        executed.settle slot after fate = .ok next ∧ answer = some fate := by
  unfold runOrganism at ran
  split at ran
  next nobody =>
    cases ran
    exact .inl ⟨nobody, rfl, rfl⟩
  next org pool taken =>
    obtain ⟨⟨fate, after, executed⟩, slice, ran⟩ := (bind_eq_ok_iff _ _ _).mp ran
    obtain ⟨settled, settling, answer⟩ := (bind_eq_ok_iff _ _ _).mp ran
    cases answer
    exact .inr ⟨org, pool, fate, after, executed, taken, slice, settling, rfl⟩

/-! ### Years -/

/-- A mutation by age takes place or it does not, and nothing else happens. -/
theorem mutateByAge_cases (done : world.mutateByAge org = .ok (after, next)) :
    after = org ∧ next = world ∨
      ∃ events source, org.mutate world.config world.source = .ok (events, after, source) ∧
        next = { world with source } := by
  unfold mutateByAge at done
  split at done
  · cases done
    exact .inl ⟨rfl, rfl⟩
  · obtain ⟨phase, -, done⟩ := (bind_eq_ok_iff _ _ _).mp done
    simp only at done
    split at done
    · obtain ⟨⟨events, mutant, source⟩, mutated, answer⟩ := (bind_eq_ok_iff _ _ _).mp done
      cases answer
      exact .inr ⟨events, source, mutated, rfl⟩
    · cases done
      exact .inl ⟨rfl, rfl⟩

/-- A year is a mutation by age; after it, only energy and age may change. -/
theorem ageOrganism_eq_ok {fate : Fate}
    (aged : world.ageOrganism org = .ok (fate, after, next)) :
    ∃ (mutant : Organism) (between : World ρ) (energy totalEnergy : Int) (age : Nat),
      world.mutateByAge org = .ok (mutant, between) ∧ after = { mutant with energy, age } ∧
        next = { between with totalEnergy } := by
  obtain ⟨⟨mutant, between⟩, mutated, aged⟩ := (bind_eq_ok_iff _ _ _).mp aged
  simp only at aged
  -- It dies of age; or it pays for the year and dies of that or not; or the year is free.
  split at aged
  · cases aged
    exact ⟨_, _, _, _, _, mutated, rfl, rfl⟩
  · split at aged
    · obtain ⟨⟨paid, charged⟩, charging, aged⟩ := (bind_eq_ok_iff _ _ _).mp aged
      obtain ⟨energy, -, charging⟩ := (bind_eq_ok_iff _ _ _).mp charging
      obtain ⟨total, -, pays⟩ := (bind_eq_ok_iff _ _ _).mp charging
      cases pays
      simp only at aged
      split at aged
      · obtain ⟨older, grown, answer⟩ := (bind_eq_ok_iff _ _ _).mp aged
        obtain ⟨age, -, grows⟩ := (bind_eq_ok_iff _ _ _).mp grown
        cases grows
        cases answer
        exact ⟨_, _, _, _, _, mutated, rfl, rfl⟩
      · cases aged
        exact ⟨_, _, _, _, _, mutated, rfl, rfl⟩
    · obtain ⟨older, grown, answer⟩ := (bind_eq_ok_iff _ _ _).mp aged
      obtain ⟨age, -, grows⟩ := (bind_eq_ok_iff _ _ _).mp grown
      cases grows
      cases answer
      exact ⟨_, _, _, _, _, mutated, rfl, rfl⟩

/-! ### Turns -/

/-- Energy drops while there is room for it below the cap. -/
theorem replenish_cases (replenished : world.replenish = .ok next) :
    next = world ∨ ∃ cap surface landed changed grid source, world.config.maxEnergy = .ok cap ∧
      world.totalEnergy + world.tokenEnergy + world.config.energyValue < cap ∧
      world.surfaces[energyKind]? = some surface ∧
      surface.put world.grid world.source = .ok (landed, changed, grid, source) ∧
      next = { world with grid, source, surfaces := world.surfaces.set energyKind changed } := by
  obtain ⟨energy, known, replenished⟩ := (bind_eq_ok_iff _ _ _).mp replenished
  obtain ⟨increased, more, replenished⟩ := (bind_eq_ok_iff _ _ _).mp replenished
  obtain ⟨cap, capped, replenished⟩ := (bind_eq_ok_iff _ _ _).mp replenished
  -- That the sums fit is not kept: what matters is that they are the sums, and below the cap.
  obtain ⟨-, rfl⟩ := (Amount.add_eq_ok_iff _ _ _).mp known
  obtain ⟨-, rfl⟩ := (Amount.add_eq_ok_iff _ _ _).mp more
  split at replenished
  next below =>
    obtain ⟨⟨put, surfaces, grid, source⟩, done, answer⟩ := (bind_eq_ok_iff _ _ _).mp replenished
    rcases onSurface_eq_ok done with ⟨-, rfl, -⟩ | ⟨surface, landed, changed, own, did, rfl, rfl⟩
    · cases answer
    · cases answer
      exact .inr ⟨cap, surface, landed, changed, grid, source, capped, below, own, did, rfl⟩
  next =>
    cases replenished
    exact .inl rfl

theorem replenish_eq_ok (replenished : world.replenish = .ok next) :
    ∃ surfaces grid source, next = { world with surfaces, grid, source } := by
  obtain rfl | ⟨cap, surface, landed, changed, grid, source, -, -, -, -, rfl⟩ :=
    replenish_cases replenished
  · exact ⟨next.surfaces, next.grid, next.source, rfl⟩
  · exact ⟨_, grid, source, rfl⟩

theorem tickSurfaces_eq_ok (ticked : world.tickSurfaces = .ok next) :
    ∃ surfaces grid source, next = { world with surfaces, grid, source } := by
  obtain ⟨⟨surfaces, grid, source⟩, -, answer⟩ := (bind_eq_ok_iff _ _ _).mp ticked
  cases answer
  exact ⟨surfaces, grid, source, rfl⟩

/-- A turn that an organism has: it executes one slice, of as many lines as an iteration grants,
and lives through a year if it survives the slice. Then it returns to its slot or leaves, and the
world drops energy and moves its tokens. -/
inductive Visits (world : World ρ) (slot : Nat) (org : Organism) (next : World ρ) : Prop where
  | turn {pool : Pool} {fate later : Fate} {moved aged : Organism}
      {executed older replenished : World ρ} (settled : World ρ) (linesGranted : Nat)
      (taken : world.pool.take slot = some (org, pool))
      (slice : executeLines slot world.config.linesPerIteration org { world with pool } =
        .ok (fate, moved, executed))
      (year : executed.ageSurvivor moved fate = .ok (later, aged, older))
      (settling : older.settle slot aged later = .ok settled)
      (granted : Count.add limit64 settled.linesGranted world.config.linesPerIteration =
        .ok linesGranted)
      (dropping : { settled with linesGranted }.replenish = .ok replenished)
      (ticking : replenished.tickSurfaces = .ok next)

/-- Whoever is in the slot has the turn. -/
theorem visit_cases {slot : Nat} (visited : world.visit slot = .ok next) :
    (world.pool.get? slot = none ∧ next = world) ∨
      ∃ org, world.pool.get? slot = some org ∧ world.Visits slot org next := by
  unfold visit at visited
  cases live : world.pool.get? slot with
  | none =>
    have nobody : world.pool.take slot = none := by simp only [Pool.take, live]
    rw [nobody] at visited
    cases visited
    exact .inl ⟨rfl, rfl⟩
  | some org =>
    obtain ⟨pool, taken⟩ : ∃ pool, world.pool.take slot = some (org, pool) := by
      simp only [Pool.take, live, Option.some.injEq, Prod.mk.injEq, true_and, exists_eq']
    rw [taken] at visited
    obtain ⟨⟨fate, moved, executed⟩, slice, visited⟩ := (bind_eq_ok_iff _ _ _).mp visited
    obtain ⟨⟨later, aged, older⟩, year, visited⟩ := (bind_eq_ok_iff _ _ _).mp visited
    obtain ⟨settled, settling, visited⟩ := (bind_eq_ok_iff _ _ _).mp visited
    obtain ⟨linesGranted, granted, visited⟩ := (bind_eq_ok_iff _ _ _).mp visited
    obtain ⟨replenished, dropping, ticking⟩ := (bind_eq_ok_iff _ _ _).mp visited
    exact .inr ⟨org, rfl, .turn settled _ taken slice year settling granted dropping ticking⟩

end Drawing

end Vivarium.World
