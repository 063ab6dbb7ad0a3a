import Vivarium.World
import Vivarium.Organism.Program

/-!
# Executing organisms

An organism executes outside the pool while its slot stays lent. What a line
does is decided by its word: numbers are loaded, meaningless words are passed
by, and the instructions below act on the world. Each of them moves on by one
line before anything else, so an instruction that is refused costs one line and
nothing more.
-/
namespace Vivarium

/-- What becomes of an organism in a slice. -/
inductive Fate where
  | alive
  | dead
  deriving DecidableEq, Repr

/-- How a slice goes on after a line. -/
inductive Flow where
  | next
  /-- The slice ends here. -/
  | stop
  | die
  deriving DecidableEq, Repr

namespace World

variable {ρ : Type} [DrawSource ρ]

def targetOf (world : World ρ) (org : Organism) : Option Nat :=
  world.grid.neighbor org.offset (Register.toDirection org.d) 0

/-- The slice goes on as long as the organism lives. -/
def flowOf (org : Organism) : Flow := if org.isAlive then .next else .die

/-- Take up the radiation of a surface; a full dose mutates and is used up. -/
def irradiate (world : World ρ) (org : Organism) (radiation : Float) :
    Outcome (Organism × World ρ) :=
  let dose := org.radiation + radiation
  if 1.0 ≤ dose then do
    let (_, org, source) ← { org with radiation := 0.0 }.mutate world.config world.source
    return (org, { world with source })
  else .ok ({ org with radiation := dose }, world)

/-- Wait until `delay` steps are done, then move where the organism points. A move
onto a barrier or off the grid does not take place and costs nothing. -/
def walk (world : World ρ) (slot : Nat) (org : Organism) (delay : Nat) :
    Outcome (Flow × Organism × World ρ) := do
  let steps ← Count.add limit32 org.steps 1
  if steps < delay then
    let (org, world) ← world.charge { org with steps } world.config.orgStepEnergy
    return (flowOf org, org, world)
  else
    let org := { org with steps := 0 }
    match world.targetOf org with
    | none => return (.next, org, world)
    | some target =>
      let cell := world.grid.get target
      if world.isBarrier cell then return (.next, org, world)
      else
        -- What lay beneath comes back, and the cell entered lies beneath from now on.
        let grid := world.grid.moveOrganism org.offset target slot org.beneath
        let org := { org with beneath := cell, offset := target }
        let (org, world) ← { world with grid }.charge org world.config.orgStepEnergy
        return (flowOf org, org, world)

/-- `step`: pay for the terrain beneath, take up its radiation, and walk. -/
def runStep (world : World ρ) (slot : Nat) (org : Organism) :
    Outcome (Flow × Organism × World ρ) :=
  let org := org.advance
  match org.beneath.token?.bind fun token => world.surfaces[token.kind]? with
  | none => world.walk slot org org.moves
  | some surface => do
    let delay := Count.addClamped limit32 org.moves surface.config.step
    let (org, world) ← world.charge org surface.config.energy
    if org.isAlive then
      let (org, world) ← world.irradiate org surface.config.radiation
      world.walk slot org delay
    else return (.die, org, world)

/-- Energy gained from an energy token. -/
def gainOf (config : Config) (token : Token) : Int :=
  Register.truncate
    (Register.round (Register.ofNat token.atoms * Register.ofInt config.energyValue
      * config.orgEnergyMultiplier))

/-- Take energy from another organism. One that is drained dies, which ends the
slice of the eater. -/
def eatOrganism (world : World ρ) (org : Organism) (victim : Nat) (amount : Int) :
    Outcome (Flow × Organism × World ρ) :=
  match world.pool.get? victim with
  | none => .ok (.next, { org with b := 0.0 }, world)
  | some prey => do
    -- Energy moves from prey to eater and the ledger stays as it is.
    let taken := min prey.energy amount
    let left ← Amount.sub prey.energy taken
    let energy ← Amount.add org.energy taken
    let org := { org with energy, b := Register.ofInt taken }
    let world := { world with pool := world.pool.update victim { prey with energy := left } }
    if left ≤ 0 then
      let (_, world) ← world.kill victim
      return (.stop, org, world)
    else return (.next, org, world)

/-- Eat the energy token at an offset. -/
def eatToken (world : World ρ) (org : Organism) (target : Nat) (token : Token) :
    Outcome (Flow × Organism × World ρ) := do
  let gain := gainOf world.config token
  let (eaten, surfaces, grid) ←
    onSurface (fun surface grid => surface.remove grid target false) world.surfaces energyKind
      world.grid
  match eaten with
  | none => .error .outOfRange
  | some _ =>
    let (org, world) ← { world with surfaces, grid }.credit org gain
    return (.next, { org with b := Register.ofInt gain }, world)

/-- Feed on what an offset shows, if there is one, and say in `b` how much that gave.
Terrain is no food and leaves `b` as it is. -/
def eatAt (world : World ρ) (org : Organism) :
    (target : Option Nat) → Outcome (Flow × Organism × World ρ)
  | none => .ok (.next, { org with b := 0.0 }, world)
  | some target =>
    match world.grid.get target with
    | .empty => .ok (.next, { org with b := 0.0 }, world)
    | .organism victim =>
      if world.config.orgEatOrgs then
        world.eatOrganism org victim (Amount.magnitude (Register.toInt org.d))
      else .ok (.next, { org with b := 0.0 }, world)
    | .token token =>
      if token.isEnergy then world.eatToken org target token
      else .ok (.next, org, world)

/-- `eat`: feed on what the organism points to. -/
def runEat (world : World ρ) (org : Organism) : Outcome (Flow × Organism × World ρ) :=
  world.eatAt org.advance (world.targetOf org.advance)

/-- Whether a chance of one in `every` comes true; with zero it never does and
nothing is drawn. -/
def oneIn (every : Nat) (source : ρ) : Outcome (Bool × ρ) :=
  if every = 0 then .ok (false, source)
  else do
    let (number, source) ← Draw.below .word32 every source
    return (number == 0, source)

/-- Mutate a clone, in one of so many cases. -/
def mutateClone (world : World ρ) (child : Organism) : Outcome (Organism × World ρ) := do
  let (chosen, source) ← oneIn world.config.codeMutateEveryClone world.source
  if chosen then
    let (_, child, source) ← child.mutate world.config source
    return (child, { world with source })
  else return (child, { world with source })

/-- Cross a clone with the organism of a random slot, in one of so many cases. -/
def crossClone (world : World ρ) (child : Organism) : Outcome (Organism × World ρ) := do
  let (chosen, source) ← oneIn world.config.codeCrossoverEveryClone world.source
  if chosen then
    let (slot, source) ← Draw.position world.pool.capacity source
    match world.pool.get? slot with
    | none => return (child, { world with source })
    | some donor =>
      let (_, child, source) ← child.crossover donor.code world.config source
      return (child, { world with source })
  else return (child, { world with source })

/-- Give half of the energy to a child at an empty offset. -/
def bear (world : World ρ) (org : Organism) (target : Nat) :
    Outcome (Flow × Organism × World ρ) :=
  let share := org.energy.tdiv 2
  if share ≤ 0 then .ok (.die, org, world)
  else do
    let (id, world) ← world.allocateId
    -- The child is entered into the ledger when it is adopted, so the parent pays first.
    let child ← org.offspring id target share world.config
    let (org, world) ← world.charge org share
    let (child, world) ← world.mutateClone child
    let (child, world) ← world.crossClone child
    let (slot, world) ← world.adopt child
    return (.next, if slot.isSome then { org with b := 1.0 } else org, world)

/-- `clone`: bear a child where the organism points, if there is room in the pool
and on the grid and energy enough; `b` says whether it did. -/
def runClone (world : World ρ) (org : Organism) : Outcome (Flow × Organism × World ρ) :=
  let org := { org.advance with b := 0.0 }
  if world.pool.isFull ∨ org.energy < world.config.orgCloneEnergy then .ok (.next, org, world)
  else
    match world.targetOf org with
    | none => .ok (.next, org, world)
    | some target =>
      if (world.grid.get target).isEmpty then world.bear org target
      else .ok (.next, org, world)

/-- `see`: read the cell that `d` points to, moved on by `a`. -/
def runSee (world : World ρ) (org : Organism) : Organism :=
  let target :=
    world.grid.neighbor org.offset (Register.toDirection org.d) (Register.toInt org.a)
  let seen := match target with
    | none => 0.0
    | some target => (world.grid.get target).raw
  { org.advance with d := seen }

/-- `rand`: a random number into `a`. -/
def runRand (world : World ρ) (org : Organism) : Outcome (Organism × World ρ) := do
  let (number, source) ← Draw.between .word32 (-randomBound) randomBound world.source
  return ({ org.advance with a := Register.ofInt number }, { world with source })

/-- The surface whose token an organism with free hands may pick up at an offset. -/
def pickupAt (world : World ρ) (org : Organism) : Option (Nat × Nat) :=
  if org.packet.isSome then none
  else do
    let target ← world.targetOf org
    let token ← (world.grid.get target).token?
    let surface ← world.surfaces[token.kind]?
    if surface.config.pickup then some (target, token.kind) else none

/-- `get`: pick up the token that the organism points to and read it into `b`. -/
def runGet (world : World ρ) (org : Organism) : Outcome (Organism × World ρ) :=
  let org := { org.advance with b := 0.0 }
  match world.pickupAt org with
  | none => .ok (org, world)
  | some (target, kind) => do
    let (taken, surfaces, grid) ←
      onSurface (fun surface grid => surface.remove grid target true) world.surfaces kind
        world.grid
    let world := { world with surfaces, grid }
    match taken.join with
    | none => return (org, world)
    | some token => return ({ org with b := token.raw, packet := some token }, world)

/-- Drop a carried token on an offset, if there are both and the cell is empty. -/
def putAt (world : World ρ) (org : Organism) :
    (packet : Option Token) → (target : Option Nat) → Outcome (Organism × World ρ)
  | some packet, some target => do
    let (placed, surfaces, grid) ←
      onSurface (fun surface grid => .ok (surface.place grid target packet)) world.surfaces
        packet.kind world.grid
    let world := { world with surfaces, grid }
    if placed.getD false then return ({ org with b := packet.raw, packet := none }, world)
    else return (org, world)
  | _, _ => .ok (org, world)

/-- `put`: drop the carried token where the organism points. -/
def runPut (world : World ρ) (org : Organism) : Outcome (Organism × World ρ) :=
  world.putAt org.advance org.packet (world.targetOf org.advance)

/-- The offset at which a carried energy token can be fused with another one. -/
def mixAt (world : World ρ) (org : Organism) : Option (Nat × Token) := do
  let packet ← org.packet
  let target ← world.targetOf org
  let token ← (world.grid.get target).token?
  if packet.isEnergy ∧ token.isEnergy then some (target, packet) else none

/-- `mix`: fuse the carried energy token into the one the organism points to. -/
def runMix (world : World ρ) (org : Organism) : Outcome (Organism × World ρ) :=
  let org := { org.advance with b := 0.0 }
  match world.mixAt org with
  | none => .ok (org, world)
  | some (target, packet) => do
    let (merged, surfaces, grid) ←
      onSurface (fun surface grid => surface.merge grid target packet) world.surfaces energyKind
        world.grid
    let world := { world with surfaces, grid }
    match merged with
    | none => .error .outOfRange
    | some none => return (org, world)
    | some (some token) => return ({ org with b := token.raw, packet := none }, world)

/-- Go on after an instruction that neither kills nor ends the slice. -/
def goOn (done : Outcome (Organism × World ρ)) : Outcome (Flow × Organism × World ρ) := do
  let (org, world) ← done
  return (.next, org, world)

def runOpcode (world : World ρ) (slot : Nat) (org : Organism) :
    Opcode → Outcome (Flow × Organism × World ρ)
  | .step => world.runStep slot org
  | .eat => world.runEat org
  | .clone => world.runClone org
  | .see => .ok (.next, world.runSee org, world)
  | .rand => goOn (world.runRand org)
  | .get => goOn (world.runGet org)
  | .put => goOn (world.runPut org)
  | .mix => goOn (world.runMix org)
  | opcode => do
    let org ← org.execute opcode
    return (.next, org, world)

/-- Execute one line of an organism that is outside the pool. -/
def executeLine (world : World ρ) (slot : Nat) (org : Organism) :
    Outcome (Flow × Organism × World ρ) :=
  match org.fetch with
  | none => .ok (.next, org.leaveCode, world)
  | some (.literal value) =>
    .ok (.next, { org with d := Register.ofInt value }.advance, world)
  | some (.invalid _) => .ok (.next, org.advance, world)
  | some (.op opcode) => world.runOpcode slot org opcode

/-- Execute a slice of at most so many lines. -/
def executeLines (slot : Nat) : (lines : Nat) → Organism → World ρ →
    Outcome (Fate × Organism × World ρ)
  | 0, org, world => .ok (.alive, org, world)
  | lines + 1, org, world => do
    let (flow, org, world) ← world.executeLine slot org
    match flow with
    | .next => executeLines slot lines org world
    | .stop => return (.alive, org, world)
    | .die => return (.dead, org, world)

/-- Bring an organism back to its slot, or bury it and free the slot. -/
def settle (world : World ρ) (slot : Nat) (org : Organism) : Fate → Outcome (World ρ)
  | .alive => .ok { world with pool := world.pool.restore slot org }
  | .dead => do
    let world ← world.bury org
    let pool ← world.pool.release slot
    return { world with pool }

/-- Execute a slice of the organism of a slot, and what becomes of it; none if the
slot holds no organism. -/
def runOrganism (world : World ρ) (slot lines : Nat) : Outcome (Option Fate × World ρ) :=
  match world.pool.take slot with
  | none => .ok (none, world)
  | some (org, pool) => do
    let (fate, org, world) ← executeLines slot lines org { world with pool }
    let world ← world.settle slot org fate
    return (some fate, world)

end World

end Vivarium
