import Mathlib.Logic.Function.Basic
import Mathlib.Logic.Relation
import Vivarium.World.Population
import Vivarium.Proofs.Organism.Body
import Vivarium.Proofs.Surface.Changes

/-!
# Scenes

A scene is what the invariants of a world are about: cells, surfaces, the bodies
of the organisms and the ledger. The organism that executes counts as a resident
of its slot, although the pool has lent it. Whatever a world does changes its
scene by moves, of which there are few; so an invariant of all worlds is a
statement about scenes that each move preserves.

A move that brings energy in names the amount it has to be admitted for. What is
admitted is left open: everything, or only what stays below a cap.
-/
namespace Vivarium

/-- What the invariants of a world are about. -/
structure Scene where
  config : Config
  grid : Grid
  surfaces : List Surface
  residents : Nat → Option Body
  /-- The slot of the organism that executes. -/
  acting : Option Nat
  capacity : Nat
  totalEnergy : Int
  nextId : Nat
  iteration : Nat
  births : Nat
  deaths : Nat
  lineage : Option (List BirthRecord)

namespace Scene

/-! ### Edits -/

/-- Put a body into a slot. -/
def seat (scene : Scene) (slot : Nat) (body : Body) : Scene :=
  { scene with residents := Function.update scene.residents slot (some body) }

/-- Put a surface in the place of another one, and the grid with it. -/
def furnish (scene : Scene) (kind : Nat) (surface : Surface) (grid : Grid) : Scene :=
  { scene with surfaces := scene.surfaces.set kind surface, grid }

/-- Give energy to a resident, and to the ledger. -/
def earn (scene : Scene) (slot : Nat) (body : Body) (amount : Int) : Scene :=
  { scene.seat slot { body with energy := body.energy + amount } with
    totalEnergy := scene.totalEnergy + amount }

/-- The record of the birth of a body with a genome. -/
def recordOf (scene : Scene) (body : Body) (code : Genome) : BirthRecord :=
  { id := body.id, parent := body.parent, iteration := scene.iteration, offset := body.offset,
    energy := body.energy, code }

/-- Take in a newborn. -/
def receive (scene : Scene) (slot : Nat) (body : Body) (code : Genome) : Scene :=
  { scene.seat slot body with
    grid := scene.grid.set body.offset (.organism slot)
    totalEnergy := scene.totalEnergy + body.energy
    nextId := scene.nextId + 1
    births := scene.births + 1
    lineage := scene.lineage.map (scene.recordOf body code :: ·) }

/-- Take a resident out; its cell shows what lay beneath. -/
def vacate (scene : Scene) (slot : Nat) (body : Body) : Scene :=
  { scene with
    residents := Function.update scene.residents slot none
    acting := if scene.acting = some slot then none else scene.acting
    grid := scene.grid.set body.offset body.beneath
    totalEnergy := scene.totalEnergy - body.energy
    deaths := scene.deaths + 1 }

/-! ### Moves -/

/-- A body as it comes into the world. -/
structure Newborn (scene : Scene) (slot : Nat) (body : Body) : Prop where
  free : scene.grid.Free body.offset
  vacant : scene.residents slot = none
  inside : slot < scene.capacity
  alive : 0 < body.energy
  packet : body.packet = none
  beneath : body.beneath = .empty

/-- What an organism can be charged in one go. -/
def Cost (scene : Scene) (amount : Int) : Prop :=
  amount = scene.config.orgStepEnergy ∨ amount = 1 ∨
    ∃ surface ∈ scene.surfaces, amount = surface.config.energy

/-- How a resident leaves: the token it carried is laid on a free cell, or it is no
more. -/
inductive Departure (scene : Scene) (slot : Nat) (body : Body) : Scene → Prop where
  | emptyHanded (nothing : body.packet = none) : Departure scene slot body (scene.vacate slot body)
  | homeless (packet : Token) (carried : body.packet = some packet)
      (unknown : scene.surfaces[packet.kind]? = none) :
      Departure scene slot body (scene.vacate slot body)
  | lost (packet : Token) (surface : Surface) (carried : body.packet = some packet)
      (own : scene.surfaces[packet.kind]? = some surface) :
      Departure scene slot body
        ((scene.vacate slot body).furnish packet.kind (surface.forget packet)
          (scene.vacate slot body).grid)
  | restored (packet : Token) (surface : Surface) (offset : Nat)
      (carried : body.packet = some packet)
      (own : scene.surfaces[packet.kind]? = some surface)
      (free : (scene.vacate slot body).grid.Free offset) :
      Departure scene slot body
        ((scene.vacate slot body).furnish packet.kind
          { surface with tokens := (surface.tokens.insert offset).2 }
          ((scene.vacate slot body).grid.set offset (.token packet)))

/-- One step of a scene. -/
inductive Move (admits : Scene → Int → Prop) (scene : Scene) : Scene → Prop where
  /-- An organism begins to execute. -/
  | start (slot : Nat) (body : Body) (idle : scene.acting = none)
      (resident : scene.residents slot = some body) :
      Move admits scene { scene with acting := some slot }
  /-- It stops and lives on. -/
  | stop (slot : Nat) (body : Body) (acting : scene.acting = some slot)
      (resident : scene.residents slot = some body) (alive : 0 < body.energy) :
      Move admits scene { scene with acting := none }
  | pay (slot : Nat) (body : Body) (amount : Int) (acting : scene.acting = some slot)
      (resident : scene.residents slot = some body) (cost : scene.Cost amount) :
      Move admits scene (scene.earn slot body (-amount))
  | walk (slot : Nat) (body : Body) (target : Nat) (acting : scene.acting = some slot)
      (resident : scene.residents slot = some body) (inside : target < scene.grid.size)
      (noOrganism : (scene.grid.get target).isOrganism = false)
      (passable : ∀ token surface, scene.grid.get target = .token token →
        scene.surfaces[token.kind]? = some surface → surface.config.barrier = false) :
      Move admits scene
        { scene.seat slot { body with beneath := scene.grid.get target, offset := target } with
          grid := scene.grid.moveOrganism body.offset target slot body.beneath }
  /-- It eats an energy token. -/
  | graze (slot : Nat) (body : Body) (target : Nat) (token : Token) (surface : Surface)
      (found : Bool) (tokens : TokenSet) (acting : scene.acting = some slot)
      (resident : scene.residents slot = some body)
      (own : scene.surfaces[energyKind]? = some surface)
      (shown : scene.grid.get target = .token token) (kind : token.kind = surface.kind)
      (erased : surface.tokens.erase target = .ok (found, tokens)) :
      Move admits scene
        ((scene.furnish energyKind ({ surface with tokens }.forget token)
          (scene.grid.set target .empty)).earn slot body (World.gainOf scene.config token))
  /-- It eats of another organism, which lives on. -/
  | bite (slot : Nat) (body : Body) (victim : Nat) (prey : Body) (taken : Int)
      (acting : scene.acting = some slot) (resident : scene.residents slot = some body)
      (other : victim ≠ slot) (caught : scene.residents victim = some prey)
      (nonneg : 0 ≤ taken) (left : taken < prey.energy) :
      Move admits scene
        ((scene.seat victim { prey with energy := prey.energy - taken }).seat slot
          { body with energy := body.energy + taken })
  /-- It eats all that another organism has. -/
  | devour (slot : Nat) (body : Body) (victim : Nat) (prey : Body) (next : Scene)
      (acting : scene.acting = some slot) (resident : scene.residents slot = some body)
      (other : victim ≠ slot) (caught : scene.residents victim = some prey)
      (departure : Departure
        ((scene.seat victim { prey with energy := 0 }).seat slot
          { body with energy := body.energy + prey.energy })
        victim { prey with energy := 0 } next) :
      Move admits scene next
  | bear (slot : Nat) (body : Body) (fresh : Nat) (child : Body) (code : Genome)
      (acting : scene.acting = some slot) (resident : scene.residents slot = some body)
      (share : child.energy = body.energy.tdiv 2) (newborn : scene.Newborn fresh child)
      (identity : child.id = scene.nextId) (parent : child.parent = some body.id) :
      Move admits scene ((scene.earn slot body (-child.energy)).receive fresh child code)
  | spawn (fresh : Nat) (body : Body) (code : Genome) (idle : scene.acting = none)
      (newborn : scene.Newborn fresh body) (identity : body.id = scene.nextId)
      (orphan : body.parent = none) (admitted : admits scene body.energy) :
      Move admits scene (scene.receive fresh body code)
  | pickUp (slot : Nat) (body : Body) (target kind : Nat) (token : Token) (surface : Surface)
      (found : Bool) (tokens : TokenSet) (acting : scene.acting = some slot)
      (resident : scene.residents slot = some body) (handsFree : body.packet = none)
      (own : scene.surfaces[kind]? = some surface)
      (shown : scene.grid.get target = .token token) (isOwn : token.kind = surface.kind)
      (erased : surface.tokens.erase target = .ok (found, tokens)) :
      Move admits scene
        ((scene.furnish kind { surface with tokens } (scene.grid.set target .empty)).seat slot
          { body with packet := some token })
  | putDown (slot : Nat) (body : Body) (target : Nat) (packet : Token) (surface : Surface)
      (acting : scene.acting = some slot) (resident : scene.residents slot = some body)
      (carried : body.packet = some packet)
      (own : scene.surfaces[packet.kind]? = some surface) (free : scene.grid.Free target) :
      Move admits scene
        ((scene.furnish packet.kind { surface with tokens := (surface.tokens.insert target).2 }
          (scene.grid.set target (.token packet))).seat slot { body with packet := none })
  /-- It fuses the energy token it carries into another one. -/
  | mix (slot : Nat) (body : Body) (target : Nat) (packet lying : Token) (surface : Surface)
      (atoms : Nat) (acting : scene.acting = some slot)
      (resident : scene.residents slot = some body) (carried : body.packet = some packet)
      (energy : packet.kind = energyKind)
      (own : scene.surfaces[energyKind]? = some surface)
      (shown : scene.grid.get target = .token lying) (isOwn : lying.kind = surface.kind)
      (capped : atoms = min maxAtoms (lying.atoms + packet.atoms)) :
      Move admits scene
        ((scene.furnish energyKind
          { surface with
            live := surface.live - 1
            atoms := surface.atoms - (lying.atoms + packet.atoms - atoms) }
          (scene.grid.set target (.token { kind := lying.kind, atoms }))).seat slot
            { body with packet := none })
  /-- A new token comes into the world. -/
  | drop (offset kind atoms : Nat) (surface : Surface) (idle : scene.acting = none)
      (own : scene.surfaces[kind]? = some surface)
      (room : surface.live < surface.config.capacity) (free : scene.grid.Free offset)
      (positive : 1 ≤ atoms) (light : atoms ≤ maxAtoms)
      (admitted : kind = energyKind → admits scene (atoms * scene.config.energyValue)) :
      Move admits scene
        (scene.furnish kind (surface.grow offset atoms)
          (scene.grid.set offset (.token { kind := surface.kind, atoms })))
  /-- A token moves as its surface does. -/
  | shift (kind : Nat) (surface : Surface) (origin target : Nat) (token : Token) (found : Bool)
      (tokens : TokenSet) (idle : scene.acting = none)
      (own : scene.surfaces[kind]? = some surface)
      (shown : scene.grid.get origin = .token token) (isOwn : token.kind = surface.kind)
      (free : scene.grid.Free target)
      (erased : surface.tokens.erase origin = .ok (found, tokens)) :
      Move admits scene
        (scene.furnish kind { surface with tokens := (tokens.insert target).2 }
          ((scene.grid.set origin .empty).set target (.token token)))
  /-- A surface waits. -/
  | wait (kind : Nat) (surface : Surface) (waited : Nat)
      (own : scene.surfaces[kind]? = some surface) :
      Move admits scene (scene.furnish kind { surface with waited } scene.grid)
  | depart (slot : Nat) (body : Body) (next : Scene)
      (resident : scene.residents slot = some body)
      (departure : Departure scene slot body next) : Move admits scene next
  /-- An iteration begins. -/
  | opened : Move admits scene { scene with births := 0, deaths := 0 }
  /-- An iteration is over. -/
  | closed : Move admits scene { scene with iteration := scene.iteration + 1 }

/-- Any number of steps. -/
def Moves (admits : Scene → Int → Prop) : Scene → Scene → Prop :=
  Relation.ReflTransGen (Move admits)

section Moves

variable {admits : Scene → Int → Prop} {scene next last : Scene}

theorem Moves.refl : Moves admits scene scene := Relation.ReflTransGen.refl

theorem Move.single (move : Move admits scene next) : Moves admits scene next :=
  Relation.ReflTransGen.single move

theorem Moves.trans (first : Moves admits scene next) (rest : Moves admits next last) :
    Moves admits scene last := Relation.ReflTransGen.trans first rest

/-- What each move preserves holds after any number of them. -/
theorem Moves.preserve (holds : Scene → Prop) (moves : Moves admits scene next)
    (step : ∀ {before after}, Move admits before after → holds before → holds after)
    (start : holds scene) : holds next := by
  induction moves with
  | refl => exact start
  | tail _ move ih => exact step move ih

/-! ### What never changes -/

theorem Departure.config {slot : Nat} {body : Body} (departure : Departure scene slot body next) :
    next.config = scene.config := by
  cases departure <;> rfl

theorem Move.config (move : Move admits scene next) : next.config = scene.config := by
  cases move with
  | devour slot body victim prey next acting resident other caught departure =>
    exact departure.config
  | depart slot body next resident departure => exact departure.config
  | _ => rfl

theorem Departure.size {slot : Nat} {body : Body} (departure : Departure scene slot body next) :
    next.grid.size = scene.grid.size := by
  cases departure <;> simp only [vacate, furnish, Grid.size_set]

/-- The grid keeps its size. -/
theorem Move.size (move : Move admits scene next) : next.grid.size = scene.grid.size := by
  cases move with
  | devour slot body victim prey next acting resident other caught departure =>
    exact departure.size
  | depart slot body next resident departure => exact departure.size
  | _ => simp only [seat, earn, receive, furnish, Grid.moveOrganism, Grid.size_set]

theorem Moves.config (moves : Moves admits scene next) : next.config = scene.config :=
  moves.preserve (·.config = scene.config) (fun move same => move.config.trans same) rfl

theorem Moves.size (moves : Moves admits scene next) : next.grid.size = scene.grid.size :=
  moves.preserve (·.grid.size = scene.grid.size) (fun move same => move.size.trans same) rfl

/-- What happens in one slot leaves the others alone. -/
theorem update_beside {residents : Nat → Option Body} {slot other : Nat} {body : Body}
    (elsewhere : other ≠ slot) (resident : residents slot = some body) (held : Option Body) :
    Function.update residents other held slot = some body := by
  rw [Function.update_of_ne elsewhere.symm]
  exact resident

/-! ### Slots -/

/-- Residents live in the slots there are. -/
def Slotted (scene : Scene) : Prop :=
  ∀ slot body, scene.residents slot = some body → slot < scene.capacity

theorem Slotted.put {slot : Nat} (slotted : scene.Slotted) (inside : slot < scene.capacity)
    (body : Body) : (scene.seat slot body).Slotted := by
  intro other held here
  simp only [Scene.seat, Function.update_apply] at here
  split at here
  next same => exact same ▸ inside
  next => exact slotted other held here

theorem Slotted.update {slot : Nat} {body : Body} (slotted : scene.Slotted)
    (resident : scene.residents slot = some body) (after : Body) :
    (scene.seat slot after).Slotted := slotted.put (slotted slot body resident) after

theorem Departure.slotted {slot : Nat} {body : Body} (departure : Departure scene slot body next)
    (slotted : scene.Slotted) : next.Slotted := by
  -- A departure differs from `vacate` in surfaces and cells only.
  have stay : (scene.vacate slot body).Slotted := by
    intro other held here
    simp only [Scene.vacate, Function.update_apply] at here
    split at here
    next => cases here
    next => exact slotted other held here
  cases departure <;> exact stay

theorem Move.slotted (move : Move admits scene next) (slotted : scene.Slotted) :
    next.Slotted := by
  cases move with
  -- Only a newborn takes a slot nobody lived in, and it was given one of the pool.
  | start | stop | drop | shift | wait | opened | closed => exact slotted
  | pay slot body amount acting resident cost => exact slotted.update resident _
  | walk slot body target acting resident inside noOrganism passable =>
    exact slotted.update resident _
  | graze slot body target token surface found tokens acting resident own shown kind erased =>
    exact slotted.update resident _
  | bite slot body victim prey taken acting resident other caught nonneg left =>
    exact (slotted.update caught _).update (update_beside other resident _) _
  | devour slot body victim prey next acting resident other caught departure =>
    exact departure.slotted ((slotted.update caught _).update (update_beside other resident _) _)
  | bear slot body fresh child code acting resident share newborn identity parent =>
    have paid : (scene.earn slot body (-child.energy)).Slotted := slotted.update resident _
    exact paid.put newborn.inside _
  | spawn fresh body code idle newborn identity orphan admitted =>
    exact slotted.put newborn.inside _
  | pickUp slot body target kind token surface found tokens acting resident handsFree own shown
      isOwn erased => exact slotted.update resident _
  | putDown slot body target packet surface acting resident carried own free =>
    exact slotted.update resident _
  | mix slot body target packet lying surface atoms acting resident carried energy own shown isOwn
      capped => exact slotted.update resident _
  | depart slot body next resident departure => exact departure.slotted slotted

/-- A parent may pay before its child comes. -/
theorem Newborn.earn {slot fresh : Nat} {body child : Body} (newborn : scene.Newborn fresh child)
    (resident : scene.residents slot = some body) (amount : Int) :
    (scene.earn slot body amount).Newborn fresh child := by
  -- The child's slot is vacant, so it is not the one its parent pays from.
  have elsewhere : fresh ≠ slot := by
    rintro rfl
    rw [newborn.vacant] at resident
    cases resident
  have vacant : (scene.earn slot body amount).residents fresh = none := by
    simp only [Scene.earn, Scene.seat, Function.update_of_ne elsewhere]
    exact newborn.vacant
  exact ⟨newborn.free, vacant, newborn.inside, newborn.alive, newborn.packet, newborn.beneath⟩

/-! ### Thriving residents -/

/-- Every organism has energy; the one that executes may have spent it. -/
def Thriving (scene : Scene) : Prop :=
  ∀ slot body, scene.residents slot = some body → scene.acting ≠ some slot → 0 < body.energy

/-- Whatever becomes of the organism that executes, the others have energy. -/
theorem Thriving.seat {slot : Nat} (thriving : scene.Thriving) (body : Body)
    (acting : scene.acting = some slot) : (scene.seat slot body).Thriving := by
  intro other resident held notActing
  have elsewhere : other ≠ slot := by
    rintro rfl
    exact notActing acting
  simp only [Scene.seat, Function.update_of_ne elsewhere] at held
  exact thriving other resident held notActing

theorem Thriving.receive {slot : Nat} {body : Body} (thriving : scene.Thriving)
    (newborn : scene.Newborn slot body) (code : Genome) :
    (scene.receive slot body code).Thriving := by
  intro other resident held notActing
  simp only [Scene.receive, Scene.seat, Function.update_apply] at held
  split at held
  next =>
    cases held
    exact newborn.alive
  next => exact thriving other resident held notActing

/-- Whoever leaves, the residents that stay have energy. -/
theorem thriving_vacate {slot : Nat} {body : Body}
    (thriving : ∀ other resident, scene.residents other = some resident → other ≠ slot →
      scene.acting ≠ some other → 0 < resident.energy) : (scene.vacate slot body).Thriving := by
  intro other resident held notActing
  simp only [Scene.vacate, Function.update_apply] at held notActing
  split at held
  next => cases held
  next elsewhere =>
    refine thriving other resident held elsewhere fun acting => notActing ?_
    rw [if_neg (by simpa [acting] using elsewhere), acting]

theorem Thriving.departure {slot : Nat} {body : Body}
    (thriving : ∀ other resident, scene.residents other = some resident → other ≠ slot →
      scene.acting ≠ some other → 0 < resident.energy)
    (departure : Departure scene slot body next) : next.Thriving := by
  have stay : (scene.vacate slot body).Thriving := thriving_vacate thriving
  cases departure <;> exact stay

theorem Move.thriving (move : Move admits scene next) (thriving : scene.Thriving) :
    next.Thriving := by
  cases move with
  | start slot body idle resident =>
    -- Nobody executed before, so nobody was exempt.
    intro other held here _
    exact thriving other held here (by simp [idle])
  | stop slot body acting resident alive =>
    intro other held here _
    by_cases same : other = slot
    · subst same
      change scene.residents other = some held at here
      rw [resident, Option.some.injEq] at here
      exact here ▸ alive
    · refine thriving other held here fun lent => same ?_
      rw [acting, Option.some.injEq] at lent
      exact lent.symm
  | pay slot body amount acting resident cost => exact thriving.seat _ acting
  | walk slot body target acting resident inside noOrganism passable =>
    exact thriving.seat _ acting
  | graze slot body target token surface found tokens acting resident own shown kind erased =>
    exact thriving.seat _ acting
  | bite slot body victim prey taken acting resident other caught nonneg left =>
    have bitten : (scene.seat victim { prey with energy := prey.energy - taken }).Thriving := by
      intro third held here notActing
      simp only [Scene.seat, Function.update_apply] at here
      split at here
      next =>
        cases here
        simp only
        omega
      next => exact thriving third held here notActing
    exact bitten.seat _ acting
  | devour slot body victim prey next acting resident other caught departure =>
    refine Thriving.departure ?_ departure
    -- Eater and eaten have changed; the one executes and the other one leaves.
    intro third held here notVictim notActing
    have notSlot : third ≠ slot := by
      rintro rfl
      exact notActing acting
    simp only [Scene.seat, Function.update_of_ne notSlot, Function.update_of_ne notVictim] at here
    exact thriving third held here notActing
  | bear slot body fresh child code acting resident share newborn identity parent =>
    -- The parent may be left with nothing, but it still executes.
    have paid : (scene.earn slot body (-child.energy)).Thriving := thriving.seat _ acting
    exact paid.receive (newborn.earn resident _) code
  | spawn fresh body code idle newborn identity orphan admitted =>
    exact thriving.receive newborn code
  | pickUp slot body target kind token surface found tokens acting resident handsFree own shown
      isOwn erased => exact thriving.seat _ acting
  | putDown slot body target packet surface acting resident carried own free =>
    exact thriving.seat _ acting
  | mix slot body target packet lying surface atoms acting resident carried energy own shown isOwn
      capped => exact thriving.seat _ acting
  | depart slot body next resident departure =>
    exact Thriving.departure (fun other held here _ => thriving other held here) departure
  | drop | shift | wait | opened | closed => exact thriving

/-! ### Energy in tokens -/

/-- Atoms in the energy tokens, carried ones included. -/
def atoms (scene : Scene) : Nat :=
  match scene.surfaces[energyKind]? with
  | none => 0
  | some surface => surface.atoms

/-- Energy in the energy tokens, carried ones included. -/
def tokenEnergy (scene : Scene) : Int :=
  match scene.surfaces[energyKind]? with
  | none => 0
  | some surface => Amount.clamp (min maxAmount surface.atoms * scene.config.energyValue)

/-- So much energy can be added below the cap. -/
def Affords (scene : Scene) (amount : Int) : Prop :=
  ∃ cap, scene.config.maxEnergy = .ok cap ∧
    scene.totalEnergy + scene.tokenEnergy + amount < cap

/-- What stays below the cap is admitted. -/
def Lenient (admits : Scene → Int → Prop) : Prop :=
  ∀ scene amount, scene.Affords amount → admits scene amount

theorem lenient_affords : Lenient Affords := fun _ _ affords => affords

theorem atoms_eq {surface : Surface} (own : scene.surfaces[energyKind]? = some surface) :
    scene.atoms = surface.atoms := by
  simp only [atoms, own]

theorem tokenEnergy_eq (scene : Scene) :
    scene.tokenEnergy = Amount.clamp (min maxAmount scene.atoms * scene.config.energyValue) := by
  unfold tokenEnergy atoms
  split
  next =>
    have nothing : min maxAmount ((0 : Nat) : Int) = 0 := by decide
    rw [nothing, Int.zero_mul]
    rfl
  next => rfl

theorem clamp_le_clamp {a b : Int} (le : a ≤ b) : Amount.clamp a ≤ Amount.clamp b := by
  unfold Amount.clamp minAmount maxAmount
  omega

/-- With fewer atoms in the tokens there is less energy in them. -/
theorem tokenEnergy_mono (config : next.config = scene.config) (fewer : next.atoms ≤ scene.atoms)
    (value : 0 ≤ scene.config.energyValue) : next.tokenEnergy ≤ scene.tokenEnergy := by
  rw [tokenEnergy_eq, tokenEnergy_eq, config]
  apply clamp_le_clamp
  apply Int.mul_le_mul_of_nonneg_right _ value
  omega

theorem atoms_furnish {surface : Surface} (own : scene.surfaces[energyKind]? = some surface)
    (changed : Surface) (grid : Grid) :
    (scene.furnish energyKind changed grid).atoms = changed.atoms := by
  have inside := (List.getElem?_eq_some_iff.mp own).1
  apply atoms_eq
  exact List.getElem?_set_self inside

/-- Only the surface of energy counts; a change of another one is not seen at all. -/
theorem atoms_furnish_of_ne {kind : Nat} (other : kind ≠ energyKind) (changed : Surface)
    (grid : Grid) : (scene.furnish kind changed grid).atoms = scene.atoms := by
  simp only [atoms, furnish, List.getElem?_set_ne other]

theorem atoms_furnish_le {kind : Nat} {surface changed : Surface} {grid : Grid}
    (own : scene.surfaces[kind]? = some surface) (fewer : changed.atoms ≤ surface.atoms) :
    (scene.furnish kind changed grid).atoms ≤ scene.atoms := by
  by_cases same : kind = energyKind
  · subst same
    rw [atoms_furnish own, atoms_eq own]
    exact fewer
  · exact Nat.le_of_eq (atoms_furnish_of_ne same changed grid)

theorem Departure.atoms_le {slot : Nat} {body : Body}
    (departure : Departure scene slot body next) : next.atoms ≤ scene.atoms := by
  cases departure with
  | emptyHanded | homeless => exact Nat.le_refl _
  | lost packet surface carried own =>
    have vacated : (scene.vacate slot body).surfaces[packet.kind]? = some surface := own
    exact atoms_furnish_le vacated (Nat.sub_le _ _)
  | restored packet surface offset carried own free =>
    have vacated : (scene.vacate slot body).surfaces[packet.kind]? = some surface := own
    exact atoms_furnish_le vacated (Nat.le_refl _)

theorem Departure.totalEnergy {slot : Nat} {body : Body}
    (departure : Departure scene slot body next) :
    next.totalEnergy = scene.totalEnergy - body.energy := by
  cases departure <;> rfl

/-! ### The surfaces of the configuration -/

/-- The surfaces are those of the configuration, each in the place its kind numbers. -/
structure Furnished (scene : Scene) : Prop where
  length : scene.surfaces.length = scene.config.surfaces.length
  own : ∀ (kind : Nat) (surface : Surface), scene.surfaces[kind]? = some surface →
    surface.kind = kind ∧ scene.config.surfaces[kind]? = some surface.config

theorem Furnished.furnish {kind : Nat} {surface : Surface} (furnished : scene.Furnished)
    (own : scene.surfaces[kind]? = some surface) (changed : Surface) (grid : Grid)
    (sameKind : changed.kind = surface.kind) (sameConfig : changed.config = surface.config) :
    (scene.furnish kind changed grid).Furnished where
  length := by
    simpa [Scene.furnish] using furnished.length
  own other held here := by
    simp only [Scene.furnish, List.getElem?_set] at here ⊢
    split at here
    next same =>
      subst same
      split at here
      next =>
        cases here
        rw [sameKind, sameConfig]
        exact furnished.own kind surface own
      next => cases here
    next => exact furnished.own other held here

theorem Departure.furnished {slot : Nat} {body : Body}
    (departure : Departure scene slot body next) (furnished : scene.Furnished) :
    next.Furnished := by
  have left : (scene.vacate slot body).Furnished := ⟨furnished.length, furnished.own⟩
  cases departure with
  | emptyHanded | homeless => exact left
  | lost packet surface carried own => exact left.furnish own _ _ rfl rfl
  | restored packet surface offset carried own free => exact left.furnish own _ _ rfl rfl

theorem Move.furnished (move : Move admits scene next) (furnished : scene.Furnished) :
    next.Furnished := by
  cases move with
  | devour slot body victim prey next acting resident other caught departure =>
    exact departure.furnished ⟨furnished.length, furnished.own⟩
  | depart slot body next resident departure => exact departure.furnished furnished
  | graze slot body target token surface found tokens acting resident own shown kind erased =>
    have eaten := furnished.furnish own ({ surface with tokens }.forget token)
      (scene.grid.set target .empty) rfl rfl
    exact ⟨eaten.length, eaten.own⟩
  | pickUp slot body target kind token surface found tokens acting resident handsFree own shown
      isOwn erased =>
    have taken := furnished.furnish own { surface with tokens } (scene.grid.set target .empty) rfl
      rfl
    exact ⟨taken.length, taken.own⟩
  | putDown slot body target packet surface acting resident carried own free =>
    have laid := furnished.furnish own
      { surface with tokens := (surface.tokens.insert target).2 }
      (scene.grid.set target (.token packet)) rfl rfl
    exact ⟨laid.length, laid.own⟩
  | mix slot body target packet lying surface atoms acting resident carried energy own shown isOwn
      capped =>
    have mixed := furnished.furnish own
      { surface with
        live := surface.live - 1
        atoms := surface.atoms - (lying.atoms + packet.atoms - atoms) }
      (scene.grid.set target (.token { kind := lying.kind, atoms })) rfl rfl
    exact ⟨mixed.length, mixed.own⟩
  | drop offset kind atoms surface idle own room free positive light admitted =>
    exact furnished.furnish own _ _ rfl rfl
  | shift kind surface origin target token found tokens idle own shown isOwn free erased =>
    exact furnished.furnish own _ _ rfl rfl
  | wait kind surface waited own => exact furnished.furnish own _ _ rfl rfl
  | start | stop | pay | walk | bite | bear | spawn | opened | closed =>
    exact ⟨furnished.length, furnished.own⟩

end Moves

end Scene

end Vivarium
