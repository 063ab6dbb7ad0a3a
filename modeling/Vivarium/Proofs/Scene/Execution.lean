import Vivarium.Proofs.Lines
import Vivarium.Proofs.Scene.OfWorld
import Vivarium.Proofs.Config.Accepted

/-!
# Moves of an organism that executes

A line of a program changes the scene by moves, as many as its instruction takes.
Whether the organism still has energy afterwards is what the flow says: it dies
exactly when it has none left. So a slice is a run of moves as well, and at its
end the organism goes back to its slot or departs.
-/
namespace Vivarium.World

variable {ρ : Type} (admits : Scene → Int → Prop)

/-- The organism of a slot executes: its slot alone is lent, and it has energy, as
all others do. -/
structure Executing (world : World ρ) (slot : Nat) (body : Body) : Prop where
  lent : world.pool.LentOnly (some slot)
  accepted : world.config.Accepted
  furnished : (world.during slot body).Furnished
  thriving : (world.during slot body).Thriving
  alive : 0 < body.energy

/-- From one moment to a later one while the organism of a slot executes. -/
structure Reaches (slot : Nat) (world : World ρ) (body : Body) (next : World ρ) (after : Body) :
    Prop where
  moves : Scene.Moves admits (world.during slot body) (next.during slot after)
  lent : next.pool.LentOnly (some slot)

/-- An instruction that ends with a flow. -/
structure Turn (slot : Nat) (world : World ρ) (body : Body) (flow : Flow) (next : World ρ)
    (after : Body) : Prop extends Reaches admits slot world body next after where
  lives : flow ≠ .die → 0 < after.energy

variable {admits}

/-- A move to what the next world shows. -/
theorem Reaches.of_move {slot : Nat} {world next : World ρ} {body after : Body} {scene : Scene}
    (move : Scene.Move admits (world.during slot body) scene)
    (shown : scene = next.during slot after) (lent : next.pool.LentOnly (some slot)) :
    Reaches admits slot world body next after := by
  subst shown
  exact ⟨move.single, lent⟩

theorem Reaches.trans {slot : Nat} {world next last : World ρ} {body after final : Body}
    (first : Reaches admits slot world body next after)
    (rest : Reaches admits slot next after last final) :
    Reaches admits slot world body last final :=
  ⟨first.moves.trans rest.moves, rest.lent⟩

theorem Reaches.turn {slot : Nat} {world next last : World ρ} {body after final : Body}
    {flow : Flow} (first : Reaches admits slot world body next after)
    (rest : Turn admits slot next after flow last final) :
    Turn admits slot world body flow last final :=
  ⟨first.trans rest.toReaches, rest.lives⟩

theorem Executing.after {slot : Nat} {world next : World ρ} {body after : Body}
    (executing : Executing world slot body)
    (reaches : Reaches admits slot world body next after) (alive : 0 < after.energy) :
    Executing next slot after where
  lent := reaches.lent
  accepted := by
    have same : next.config = world.config := reaches.moves.config
    exact same ▸ executing.accepted
  furnished := reaches.moves.preserve _ (fun move => move.furnished) executing.furnished
  thriving := reaches.moves.preserve _ (fun move => move.thriving) executing.thriving
  alive := alive

/-- Chance is not part of the scene. -/
theorem Executing.drawn {slot : Nat} {world : World ρ} {body after : Body}
    (executing : Executing world slot body) (source : ρ) (same : after = body) :
    Reaches admits slot world body { world with source } after := by
  subst same
  exact ⟨Scene.Moves.refl, executing.lent⟩

theorem Executing.still {slot : Nat} {world : World ρ} {body : Body} {flow : Flow}
    (executing : Executing world slot body) : Turn admits slot world body flow world body :=
  ⟨⟨Scene.Moves.refl, executing.lent⟩, fun _ => executing.alive⟩

theorem Executing.same {slot : Nat} {world : World ρ} {body after : Body} {flow : Flow}
    (executing : Executing world slot body) (same : after = body) :
    Turn admits slot world body flow world after := by
  subst same
  exact executing.still

theorem resident_of_other {slot victim : Nat} {world : World ρ} {prey : Organism}
    (elsewhere : victim ≠ slot) (live : world.pool.get? victim = some prey) (body : Body) :
    (world.during slot body).residents victim = some prey.body := by
  simp only [during, sceneWith, Function.update_of_ne elsewhere]
  exact Pool.bodies_eq_some live

/-- What else is in the pool is in another slot, and has energy. -/
theorem Executing.other {slot victim : Nat} {world : World ρ} {body : Body} {prey : Organism}
    (executing : Executing world slot body) (live : world.pool.get? victim = some prey) :
    victim ≠ slot ∧ 0 < prey.energy := by
  have elsewhere : victim ≠ slot := by
    rintro rfl
    rw [Pool.get?_eq_some_iff, (executing.lent.lent victim).mpr rfl] at live
    cases live
  refine ⟨elsewhere, executing.thriving victim prey.body (resident_of_other elsewhere live _) ?_⟩
  exact fun acting => elsewhere (Option.some.inj acting).symm

theorem energy_of_flow {org : Organism} (lives : flowOf org ≠ .die) : 0 < org.energy := by
  unfold flowOf at lives
  split at lives
  next alive => simpa [Organism.isAlive] using alive
  next => exact absurd rfl lives

/-! ### Steps -/

theorem charge_reaches {slot : Nat} {world next : World ρ} {org after : Organism} {amount : Int}
    (charged : world.charge org amount = .ok (after, next))
    (lent : world.pool.LentOnly (some slot))
    (cost : (world.during slot org.body).Cost amount) :
    Reaches admits slot world org.body next after.body := by
  obtain ⟨rfl, rfl⟩ := charge_eq_ok charged
  exact .of_move (.pay slot org.body amount rfl (world.resident_during slot org.body) cost)
    (world.earn_during slot org.body (-amount)) lent

theorem isBarrier_eq_false {world : World ρ} {cell : Cell}
    (open_ : world.isBarrier cell = false) :
    cell.isOrganism = false ∧ ∀ token surface, cell = .token token →
      world.surfaces[token.kind]? = some surface → surface.config.barrier = false := by
  cases cell with
  | empty => exact ⟨rfl, fun token surface shown => nomatch shown⟩
  | organism slot => cases open_
  | token token =>
    refine ⟨rfl, fun other surface shown own => ?_⟩
    cases shown
    simpa only [isBarrier, own] using open_

theorem walk_turn {slot delay : Nat} {world next : World ρ} {org after : Organism} {flow : Flow}
    (executing : Executing world slot org.body)
    (walked : world.walk slot org delay = .ok (flow, after, next)) :
    Turn admits slot world org.body flow next after.body := by
  cases walk_cases walked with
  | waits early charged =>
    have waited : Reaches admits slot world _ next after.body :=
      charge_reaches charged executing.lent (.inl rfl)
    exact ⟨waited, energy_of_flow⟩
  | stays due barred => exact executing.still
  | @goes target _ _ due pointed passable charged =>
    obtain ⟨noOrganism, passable⟩ := isBarrier_eq_false passable
    -- The organism has moved before it is charged.
    have moved : Reaches admits slot world org.body
        { world with grid := world.grid.moveOrganism org.offset target slot org.beneath } _ :=
      .of_move (.walk slot org.body target rfl (world.resident_during slot org.body)
          (Grid.neighbor_lt_size pointed) noOrganism passable)
        (by rw [seat_during]; rfl) executing.lent
    have stepped : Reaches admits slot _ _ next after.body :=
      charge_reaches charged executing.lent (.inl rfl)
    exact ⟨moved.trans stepped, energy_of_flow⟩

section Drawing

variable [DrawSource ρ]

theorem irradiate_reaches {slot : Nat} {world next : World ρ} {org after : Organism}
    {radiation : Float} (executing : Executing world slot org.body)
    (done : world.irradiate org radiation = .ok (after, next)) :
    Reaches admits slot world org.body next after.body ∧ after.body = org.body := by
  obtain ⟨rfl, rfl⟩ | ⟨events, source, mutated, rfl⟩ := irradiate_cases done
  · exact ⟨executing.drawn next.source rfl, rfl⟩
  · -- A mutation changes the genome, which the scene does not show.
    have same : after.body = org.body := (Organism.body_mutate mutated).trans rfl
    exact ⟨executing.drawn source same, same⟩

theorem runStep_turn {slot : Nat} {world next : World ρ} {org after : Organism} {flow : Flow}
    (executing : Executing world slot org.body)
    (ran : world.runStep slot org = .ok (flow, after, next)) :
    Turn admits slot world org.body flow next after.body := by
  have advanced : Executing world slot org.advance.body := executing
  cases runStep_cases ran with
  | bare free walked =>
    have onWay : Turn admits slot world org.advance.body flow next after.body :=
      walk_turn advanced walked
    exact onWay
  | @dies surface _ _ beneath charging dead =>
    obtain ⟨token, -, own⟩ := Option.bind_eq_some_iff.mp beneath
    have terrain : Reaches admits slot world _ next after.body :=
      charge_reaches charging executing.lent
        (.inr (.inr ⟨surface, List.mem_of_getElem? own, rfl⟩))
    exact ⟨terrain, fun notDie => absurd rfl notDie⟩
  | @treads surface _ paid dosed _ charged drawn _ beneath charging alive irradiated walked =>
    obtain ⟨token, -, own⟩ := Option.bind_eq_some_iff.mp beneath
    have terrain : Reaches admits slot world _ charged paid.body :=
      charge_reaches charging executing.lent
        (.inr (.inr ⟨surface, List.mem_of_getElem? own, rfl⟩))
    have positive : 0 < paid.energy := by simpa [Organism.isAlive] using alive
    have executing' := advanced.after terrain positive
    obtain ⟨dose, sameBody⟩ : Reaches admits slot charged _ drawn dosed.body ∧ _ :=
      irradiate_reaches executing' irradiated
    have executing'' := executing'.after dose (sameBody ▸ positive)
    exact terrain.turn (dose.turn (walk_turn executing'' walked))

/-! ### Meals -/

omit [DrawSource ρ] in
theorem eatToken_turn {slot target : Nat} {token : Token} {world next : World ρ}
    {org after : Organism} {flow : Flow} (executing : Executing world slot org.body)
    (shown : world.grid.get target = .token token) (energy : token.kind = energyKind)
    (ran : world.eatToken org target token = .ok (flow, after, next)) :
    Turn admits slot world org.body flow next after.body := by
  obtain ⟨surface, found, changed, grid, own, taken, rfl, rfl, rfl⟩ := eatToken_eq_ok ran
  -- The token shown is one of the energy surface, so it is there to be removed.
  have isOwn : token.kind = surface.kind :=
    energy.trans (executing.furnished.own energyKind surface own).1.symm
  have ownToken : surface.ownToken? world.grid target = some token :=
    (surface.ownToken?_eq_some_iff _ _ _).mpr ⟨shown, isOwn⟩
  cases found with
  | none =>
    rw [(Surface.remove_eq_none taken).2.2] at ownToken
    cases ownToken
  | some removedToken =>
    obtain ⟨here, -, wasThere, tokens, erased, rfl, rfl⟩ := Surface.remove_eq_some taken
    rw [here, Cell.token.injEq] at shown
    subst shown
    have fed : 0 < org.energy + gainOf world.config removedToken := by
      have alive : 0 < org.energy := executing.alive
      have gain := executing.accepted.gain_nonneg removedToken
      omega
    refine ⟨.of_move (.graze slot org.body target removedToken surface wasThere tokens rfl
      (world.resident_during slot org.body) own here isOwn erased) ?_ executing.lent,
      fun _ => fed⟩
    rw [furnish_during, earn_during]
    rfl

theorem eatOrganism_turn {slot victim : Nat} {amount : Int} {world next : World ρ}
    {org after : Organism} {flow : Flow} (executing : Executing world slot org.body)
    (nonneg : 0 ≤ amount)
    (ran : world.eatOrganism org victim amount = .ok (flow, after, next)) :
    Turn admits slot world org.body flow next after.body := by
  have alive : 0 < org.energy := executing.alive
  cases eatOrganism_cases ran with
  | misses nobody => exact executing.still
  | @bites prey caught less =>
    obtain ⟨elsewhere, -⟩ := executing.other caught
    have resident := resident_of_other elsewhere caught org.body
    obtain ⟨lent, map, capacity⟩ :=
      Pool.update_of_get? executing.lent caught { prey with energy := prey.energy - amount }
    refine ⟨.of_move (.bite slot org.body victim prey.body amount rfl
      (world.resident_during slot org.body) elsewhere resident nonneg less)
      (seat_during_pool elsewhere (Pool.bodies_update map) capacity _ _) lent, fun _ => ?_⟩
    change 0 < org.energy + amount
    omega
  | @drains prey done _ caught all killing =>
    obtain ⟨elsewhere, preyAlive⟩ := executing.other caught
    have resident := resident_of_other elsewhere caught org.body
    -- The prey has nothing left when it departs, and the ledger stays as it is.
    obtain ⟨lent, map, capacity⟩ :=
      Pool.update_of_get? executing.lent caught { prey with energy := 0 }
    rcases kill_eq_ok lent killing with ⟨vacant, -⟩ | ⟨dead, found, lent', -, departs⟩
    · simp [map] at vacant
    · simp only [map, Function.update_self, Option.some.injEq] at found
      subst found
      have departure := departs slot { org.body with energy := org.energy + prey.energy }
        elsewhere.symm
      rw [← seat_during_pool elsewhere (Pool.bodies_update map) capacity org.body] at departure
      refine ⟨.of_move (.devour slot org.body victim prey.body _ rfl
        (world.resident_during slot org.body) elsewhere resident departure) rfl lent',
        fun _ => ?_⟩
      change 0 < org.energy + prey.energy
      omega

theorem eatAt_turn {slot : Nat} {target : Option Nat} {world next : World ρ}
    {org after : Organism} {flow : Flow} (executing : Executing world slot org.body)
    (ran : world.eatAt org target = .ok (flow, after, next)) :
    Turn admits slot world org.body flow next after.body := by
  cases eatAt_cases ran with
  | nothing => exact executing.same (org.body_setB _)
  | terrain => exact executing.still
  | organism pointed shown bitten =>
    exact eatOrganism_turn executing (Amount.magnitude_mem _).1 bitten
  | token pointed shown energy eaten =>
    exact eatToken_turn executing shown (by simpa [Token.isEnergy] using energy) eaten

/-! ### Offspring -/

theorem mutateClone_eq_ok {world next : World ρ} {child after : Organism}
    (done : world.mutateClone child = .ok (after, next)) :
    after.body = child.body ∧ ∃ source, next = { world with source } := by
  obtain ⟨drawn, rfl | ⟨events, source, rest, mutated⟩⟩ := mutateClone_cases done
  · exact ⟨rfl, drawn⟩
  · exact ⟨Organism.body_mutate mutated, drawn⟩

theorem crossClone_eq_ok {world next : World ρ} {child after : Organism}
    (done : world.crossClone child = .ok (after, next)) :
    after.body = child.body ∧ ∃ source, next = { world with source } := by
  obtain ⟨drawn, rfl | ⟨slot, donor, found, source, rest, -, crossed⟩⟩ := crossClone_cases done
  · exact ⟨rfl, drawn⟩
  · exact ⟨Organism.body_crossover crossed, drawn⟩

theorem body_endow (org : Organism) (id offset : Nat) (energy : Int) (config : Config) :
    (org.endow (.fresh id offset energy config)).body =
      { id, parent := some org.id, offset, energy, packet := none, beneath := .empty } := rfl

theorem bear_turn {slot target : Nat} {world next : World ρ} {org after : Organism} {flow : Flow}
    (executing : Executing world slot org.body) (room : world.pool.isFull = false)
    (free : world.grid.Free target)
    (ran : world.bear org target = .ok (flow, after, next)) :
    Turn admits slot world org.body flow next after.body := by
  rcases bear_cases ran with ⟨-, rfl, rfl, rfl⟩ | ⟨share, rfl, bears⟩
  · exact executing.still
  · obtain ⟨child, inserted, charged, mutated, crossing, adopted, rfl⟩ := bears
    obtain ⟨rfl, rfl⟩ := charge_eq_ok charged
    obtain ⟨mutantBody, source₁, rfl⟩ := mutateClone_eq_ok mutated
    obtain ⟨crossedBody, source₂, rfl⟩ := crossClone_eq_ok crossing
    -- Neither mutation nor crossover changes what the scene shows of the child.
    have childBody := crossedBody.trans (mutantBody.trans (body_endow ..))
    cases inserted with
    | none =>
      -- The parent has been charged by now, so a full pool would lose energy.
      have full := adopt_eq_none adopted
      rw [room] at full
      cases full
    | some fresh =>
      dsimp only at adopted
      obtain ⟨lent, inside, vacant, notOut, -, shown⟩ := adopt_eq_some adopted executing.lent rfl
      have elsewhere : slot ≠ fresh := fun same => notOut (congrArg some same)
      have lives : 0 < org.energy + -org.energy.tdiv 2 := by
        have alive : 0 < org.energy := executing.alive
        rw [Int.tdiv_eq_ediv_of_nonneg (Int.le_of_lt alive)]
        omega
      have newborn : (world.during slot org.body).Newborn fresh child.body := by
        rw [childBody]
        refine ⟨free, ?_, inside, share, rfl, rfl⟩
        simpa only [during, sceneWith, Function.update_of_ne elsewhere.symm] using vacant
      have energy : child.body.energy = org.energy.tdiv 2 := congrArg Body.energy childBody
      refine ⟨.of_move (.bear slot org.body fresh child.body child.code rfl
        (world.resident_during slot org.body) (by rw [childBody]; rfl) newborn
        (by rw [childBody]; rfl) (by rw [childBody]; rfl)) ?_ lent, fun _ => lives⟩
      simp only [Option.isSome_some, if_true]
      rw [energy, earn_during]
      exact (shown slot _ elsewhere).symm

theorem runClone_turn {slot : Nat} {world next : World ρ} {org after : Organism} {flow : Flow}
    (executing : Executing world slot org.body)
    (ran : world.runClone org = .ok (flow, after, next)) :
    Turn admits slot world org.body flow next after.body := by
  have silent : Executing world slot { org.advance with b := 0.0 }.body := by
    rw [Organism.body_setB]
    exact executing
  have cloned : Turn admits slot world { org.advance with b := 0.0 }.body flow next after.body := by
    rcases runClone_cases ran with ⟨rfl, rfl, rfl⟩ | ⟨target, room, -, pointed, empty, bearing⟩
    · exact silent.still
    · exact bear_turn silent room ⟨Grid.neighbor_lt_size pointed, empty⟩ bearing
  rw [Organism.body_setB] at cloned
  exact cloned

/-! ### Carried tokens -/

omit [DrawSource ρ] in
theorem runGet_turn {slot : Nat} {world next : World ρ} {org after : Organism} {flow : Flow}
    (executing : Executing world slot org.body) (ran : world.runGet org = .ok (after, next)) :
    Turn admits slot world org.body flow next after.body := by
  have silent : Executing world slot { org.advance with b := 0.0 }.body := by
    rw [Organism.body_setB]
    exact executing
  have got : Turn admits slot world { org.advance with b := 0.0 }.body flow next after.body := by
    obtain ⟨rfl, rfl⟩ | ⟨target, kind, surface, token, changed, grid, free, own, taken, rfl, rfl⟩ :=
      runGet_cases ran
    · exact silent.still
    · obtain ⟨shown, isOwn, wasThere, tokens, erased, rfl, rfl⟩ := Surface.remove_eq_some taken
      refine ⟨.of_move (.pickUp slot _ target kind token surface wasThere tokens rfl
        (world.resident_during slot _) free own shown isOwn erased) ?_ executing.lent,
        fun _ => executing.alive⟩
      rw [furnish_during, seat_during]
      rfl
  rw [Organism.body_setB] at got
  exact got

omit [DrawSource ρ] in
theorem putAt_turn {slot : Nat} {packet : Option Token} {target : Option Nat}
    {world next : World ρ} {org after : Organism} {flow : Flow}
    (executing : Executing world slot org.body) (carried : org.packet = packet)
    (ran : world.putAt org packet target = .ok (after, next)) :
    Turn admits slot world org.body flow next after.body := by
  obtain ⟨rfl, rfl⟩ | ⟨offset, token, surface, changed, grid, rfl, own, free, laid, rfl, rfl⟩ :=
    putAt_cases ran
  · exact executing.still
  · cases laid
    refine ⟨.of_move (.putDown slot _ offset token surface rfl (world.resident_during slot _)
      carried own free) ?_ executing.lent, fun _ => executing.alive⟩
    rw [furnish_during, seat_during]
    rfl

omit [DrawSource ρ] in
theorem runMix_turn {slot : Nat} {world next : World ρ} {org after : Organism} {flow : Flow}
    (executing : Executing world slot org.body) (ran : world.runMix org = .ok (after, next)) :
    Turn admits slot world org.body flow next after.body := by
  have silent : Executing world slot { org.advance with b := 0.0 }.body := by
    rw [Organism.body_setB]
    exact executing
  have mixed : Turn admits slot world { org.advance with b := 0.0 }.body flow next after.body := by
    obtain ⟨rfl, rfl⟩ |
        ⟨target, packet, surface, merged, changed, grid, ⟨carried, energy⟩, own, fused, rfl, rfl⟩ :=
      runMix_cases ran
    · exact silent.still
    · obtain ⟨lying, shown, isOwn, rfl, rfl, rfl⟩ := Surface.merge_eq_some fused
      refine ⟨.of_move (.mix slot _ target packet lying surface _ rfl
        (world.resident_during slot _) carried energy own shown isOwn rfl) ?_ executing.lent,
        fun _ => executing.alive⟩
      rw [furnish_during, seat_during]
      rfl
  rw [Organism.body_setB] at mixed
  exact mixed

/-! ### Lines and slices -/

omit [DrawSource ρ] in
theorem body_runSee (world : World ρ) (org : Organism) : (world.runSee org).body = org.body := by
  unfold runSee
  exact org.advance.body_setD _

theorem executeLine_turn {slot : Nat} {world next : World ρ} {org after : Organism} {flow : Flow}
    (executing : Executing world slot org.body)
    (executed : world.executeLine slot org = .ok (flow, after, next)) :
    Turn admits slot world org.body flow next after.body := by
  cases executeLine_cases executed with
  -- Behind the last line the program starts over, or goes on after a call.
  | leaves behind => exact executing.same org.body_leaveCode
  | loads value fetched => exact executing.still
  | passes word fetched => exact executing.still
  | steps fetched ran => exact runStep_turn executing ran
  | eats fetched ran =>
    have eaten : Turn admits slot world org.advance.body flow next after.body :=
      eatAt_turn executing ran
    exact eaten
  | clones fetched ran => exact runClone_turn executing ran
  | sees fetched => exact executing.same (world.body_runSee org)
  | draws number source fetched => exact ⟨executing.drawn source rfl, fun _ => executing.alive⟩
  | gets fetched ran => exact runGet_turn executing ran
  | puts fetched ran =>
    have put : Turn admits slot world org.advance.body .next next after.body :=
      putAt_turn executing rfl ran
    exact put
  | mixes fetched ran => exact runMix_turn executing ran
  | computes opcode fetched ran => exact executing.same (Organism.body_execute ran)

/-- A slice is a run of moves, and whoever is alive at its end has energy. -/
theorem executeLines_reaches {slot lines : Nat} {world next : World ρ} {org after : Organism}
    {fate : Fate} (executing : Executing world slot org.body)
    (ran : executeLines slot lines org world = .ok (fate, after, next)) :
    Reaches admits slot world org.body next after.body ∧
      (fate = .alive → 0 < after.energy) := by
  -- By induction on the lines granted; only a line that goes on leaves any to the rest.
  induction lines generalizing org world with
  | zero =>
    cases ran
    exact ⟨executing.drawn next.source rfl, fun _ => executing.alive⟩
  | succ lines ih =>
    simp only [executeLines] at ran
    obtain ⟨⟨flow, moved, world'⟩, line, ran⟩ := (bind_eq_ok_iff _ _ _).mp ran
    have turn : Turn admits slot world org.body flow world' moved.body :=
      executeLine_turn executing line
    simp only at ran
    cases flow with
    | next =>
      have alive := turn.lives (by decide)
      obtain ⟨rest, lives⟩ := ih (executing.after turn.toReaches alive) ran
      exact ⟨turn.toReaches.trans rest, lives⟩
    | stop =>
      cases ran
      exact ⟨turn.toReaches, fun _ => turn.lives (by decide)⟩
    | die =>
      cases ran
      exact ⟨turn.toReaches, fun alive => nomatch alive⟩

end Drawing

end Vivarium.World
