import Mathlib.Logic.Function.Basic
import Mathlib.Logic.Relation
import Vivarium.Proofs.Organism.Evolution

/-!
# The census of a world

A census is a world seen as its organisms, each with all that it has, and the numbers
that are kept about them: how many there are, whose turn the next identity is, the
births and deaths of the iteration and the births recorded. Fields and tokens are not
part of it. As in a scene, the organism that executes counts as a resident of its slot.

Few changes are possible. The organism of a slot evolves alone, takes energy of another
one, or bears a child; a resident leaves; an orphan comes. Everything a world does to
its organisms is a sequence of these, so what each of them preserves holds for good.
-/
namespace Vivarium

/-- The organisms of a world and what is kept about them. -/
structure Census where
  config : Config
  residents : Nat → Option Organism
  /-- How many slots are taken. -/
  size : Nat
  nextId : Nat
  iteration : Nat
  births : Nat
  deaths : Nat
  /-- The births recorded, newest first. -/
  lineage : Option (List BirthRecord)

namespace World

variable {ρ : Type}

/-- The census of a world with certain residents. -/
def censusWith (world : World ρ) (residents : Nat → Option Organism) : Census where
  config := world.config
  residents := residents
  size := world.pool.size
  nextId := world.nextId
  iteration := world.iteration
  births := world.births
  deaths := world.deaths
  lineage := world.lineage

/-- The census of a world at rest. -/
def census (world : World ρ) : Census := world.censusWith world.pool.get?

/-- The census of a world while the organism of a slot executes outside of the pool. -/
def censusDuring (world : World ρ) (slot : Nat) (org : Organism) : Census :=
  world.censusWith (Function.update world.pool.get? slot (some org))

end World

namespace Census

/-! ### Edits -/

/-- Put another state of an organism into its slot. -/
def seat (census : Census) (slot : Nat) (org : Organism) : Census :=
  { census with residents := Function.update census.residents slot (some org) }

/-- The record of the birth of an organism in this iteration. -/
def recordOf (census : Census) (org : Organism) : BirthRecord :=
  { id := org.id, parent := org.parent, iteration := census.iteration, offset := org.offset,
    energy := org.energy, code := org.code }

/-- Take in a newborn. -/
def receive (census : Census) (slot : Nat) (org : Organism) : Census :=
  { census.seat slot org with
    size := census.size + 1
    nextId := census.nextId + 1
    births := census.births + 1
    lineage := census.lineage.map (census.recordOf org :: ·) }

/-- Take a resident out. -/
def dismiss (census : Census) (slot : Nat) : Census :=
  { census with
    residents := Function.update census.residents slot none
    size := census.size - 1
    deaths := census.deaths + 1 }

theorem seat_seat (census : Census) (slot : Nat) (before after : Organism) :
    (census.seat slot before).seat slot after = census.seat slot after := by
  simp [seat]

/-- Whoever leaves takes along what it had at last. -/
theorem dismiss_seat (census : Census) (slot : Nat) (org : Organism) :
    (census.seat slot org).dismiss slot = census.dismiss slot := by
  simp [seat, dismiss]

theorem dismiss_seat_of_ne (census : Census) {slot other : Nat} (elsewhere : other ≠ slot)
    (org : Organism) :
    (census.seat slot org).dismiss other = (census.dismiss other).seat slot org := by
  simp only [seat, dismiss]
  rw [Function.update_comm elsewhere]

theorem receive_seat (census : Census) {slot fresh : Nat} (elsewhere : slot ≠ fresh)
    (org child : Organism) :
    (census.seat slot org).receive fresh child = (census.receive fresh child).seat slot org := by
  simp only [seat, receive, recordOf]
  rw [Function.update_comm elsewhere.symm]

/-! ### Changes -/

/-- An organism as it comes into a world, as the child of a resident or of nobody. Its
words are among these, or a resident has them. -/
structure Newborn (words : Int → Prop) (census : Census) (bearer : Option Organism)
    (child : Organism) : Prop where
  identity : child.id = census.nextId
  parent : child.parent = bearer.map Organism.id
  memory : child.mem.size = census.config.orgMemSize
  length : (∀ org ∈ bearer, org.code.length ≤ census.config.codeMaxSize) →
    child.code.length ≤ census.config.codeMaxSize
  words : ∀ word ∈ child.code,
    words word ∨ ∃ slot org, census.residents slot = some org ∧ word ∈ org.code
  coherent : child.Coherent

/-- What the organism of a slot does while all others live on. -/
inductive Deed (words : Int → Prop) (slot : Nat) (census : Census) : Census → Prop where
  /-- No other one is concerned. -/
  | alone (org after : Organism) (resident : census.residents slot = some org)
      (evolves : org.Evolves words census.config after) :
      Deed words slot census (census.seat slot after)
  /-- It takes energy of another one, but not all. -/
  | bite (org after prey : Organism) (victim : Nat) (taken : Int)
      (resident : census.residents slot = some org)
      (evolves : org.Evolves words census.config after) (other : victim ≠ slot)
      (caught : census.residents victim = some prey) (nonneg : 0 ≤ taken)
      (left : taken < prey.energy) :
      Deed words slot census
        ((census.seat victim { prey with energy := prey.energy - taken }).seat slot after)
  | bear (org after child : Organism) (fresh : Nat)
      (resident : census.residents slot = some org)
      (evolves : org.Evolves words census.config after)
      (vacant : census.residents fresh = none) (newborn : census.Newborn words (some org) child) :
      Deed words slot census ((census.receive fresh child).seat slot after)

/-- Any number of deeds of the organism of a slot. -/
def Deeds (words : Int → Prop) (slot : Nat) : Census → Census → Prop :=
  Relation.ReflTransGen (Deed words slot)

/-- What happens within an iteration. -/
inductive Change (words : Int → Prop) (census : Census) : Census → Prop where
  | deed (slot : Nat) (next : Census) (done : census.Deed words slot next) :
      Change words census next
  | leave (slot : Nat) (org : Organism) (resident : census.residents slot = some org)
      (counted : 1 ≤ census.size) : Change words census (census.dismiss slot)
  | spawn (slot : Nat) (org : Organism) (vacant : census.residents slot = none)
      (newborn : census.Newborn words none org) :
      Change words census (census.receive slot org)

/-- Any number of changes. -/
def Changes (words : Int → Prop) : Census → Census → Prop :=
  Relation.ReflTransGen (Change words)

/-- A change, or the beginning or the end of an iteration. -/
inductive Move (words : Int → Prop) (census : Census) : Census → Prop where
  | change (next : Census) (changed : census.Change words next) : Move words census next
  | opened : Move words census { census with births := 0, deaths := 0 }
  | closed : Move words census { census with iteration := census.iteration + 1 }

/-- Any number of moves. -/
def Moves (words : Int → Prop) : Census → Census → Prop :=
  Relation.ReflTransGen (Move words)

variable {words more : Int → Prop} {census next last : Census} {slot : Nat}

theorem Deeds.changes (deeds : census.Deeds words slot next) : census.Changes words next :=
  Relation.ReflTransGen.mono (fun _ after done => Change.deed slot after done) _ _ deeds

theorem Changes.moves (changes : census.Changes words next) : census.Moves words next :=
  Relation.ReflTransGen.mono (fun _ after changed => Move.change after changed) _ _ changes

/-- What each move preserves holds after any number of them. -/
theorem Moves.preserve (holds : Census → Prop) (moves : census.Moves words next)
    (step : ∀ {before after : Census}, before.Move words after → holds before → holds after)
    (start : holds census) : holds next := by
  induction moves with
  | refl => exact start
  | tail _ move ih => exact step move ih

theorem Changes.preserve (holds : Census → Prop) (changes : census.Changes words next)
    (step : ∀ {before after : Census}, before.Change words after → holds before → holds after)
    (start : holds census) : holds next := by
  induction changes with
  | refl => exact start
  | tail _ changed ih => exact step changed ih

/-! ### Newborns -/

/-- What is fresh may come as an orphan. -/
theorem newborn_fresh (words : Int → Prop) (census : Census) (offset : Nat) (energy : Int) :
    census.Newborn words none (.fresh census.nextId offset energy census.config) where
  identity := rfl
  parent := rfl
  memory := by simp [Organism.fresh]
  length := fun _ => Nat.zero_le _
  words := fun _ member => nomatch member
  coherent := BlockTable.fits_ofGenome []

/-- A child has the words of its parent, which is a resident. -/
theorem newborn_endow (words : Int → Prop) {org : Organism}
    (resident : census.residents slot = some org) (offset : Nat) (energy : Int) :
    census.Newborn words (some org)
      (org.endow (.fresh census.nextId offset energy census.config)) where
  identity := rfl
  parent := rfl
  memory := by simp [Organism.endow, Organism.rebuild, Organism.fresh]
  length := fun bounded => bounded org rfl
  words := fun _ member => .inr ⟨slot, org, resident, member⟩
  coherent := BlockTable.fits_ofGenome _

/-- Before it comes in, a newborn may take over words of residents as well. -/
theorem Newborn.evolve {bearer : Option Organism} {child after : Organism}
    (newborn : census.Newborn words bearer child)
    (evolves : child.Evolves (fun word => words word ∨
      ∃ slot org, census.residents slot = some org ∧ word ∈ org.code) census.config after) :
    census.Newborn words bearer after where
  identity := evolves.id.trans newborn.identity
  parent := evolves.parent.trans newborn.parent
  memory := evolves.memory.trans newborn.memory
  length := fun bounded => evolves.length (newborn.length bounded)
  words := by
    intro word member
    rcases evolves.derives word member with old | new
    · exact newborn.words word old
    · exact new
  coherent := evolves.coherent newborn.coherent

/-! ### More words -/

theorem Newborn.mono {bearer : Option Organism} {child : Organism}
    (newborn : census.Newborn words bearer child) (wider : ∀ word, words word → more word) :
    census.Newborn more bearer child :=
  { newborn with words := fun word member => (newborn.words word member).imp_left (wider word) }

theorem Deed.mono (deed : census.Deed words slot next) (wider : ∀ word, words word → more word) :
    census.Deed more slot next := by
  cases deed with
  | alone org after resident evolves => exact .alone org after resident (evolves.mono wider)
  | bite org after prey victim taken resident evolves other caught nonneg left =>
    exact .bite org after prey victim taken resident (evolves.mono wider) other caught nonneg left
  | bear org after child fresh resident evolves vacant newborn =>
    exact .bear org after child fresh resident (evolves.mono wider) vacant (newborn.mono wider)

theorem Move.mono (move : census.Move words next) (wider : ∀ word, words word → more word) :
    census.Move more next := by
  cases move with
  | change next changed =>
    apply Move.change
    cases changed with
    | deed slot next done => exact .deed slot next (done.mono wider)
    | leave slot org resident counted => exact .leave slot org resident counted
    | spawn slot org vacant newborn => exact .spawn slot org vacant (newborn.mono wider)
  | opened => exact .opened
  | closed => exact .closed

theorem Moves.mono (moves : census.Moves words next) (wider : ∀ word, words word → more word) :
    census.Moves more next :=
  Relation.ReflTransGen.mono (fun _ _ move => Move.mono move wider) _ _ moves

/-! ### What never changes -/

theorem Deed.config (deed : census.Deed words slot next) : next.config = census.config := by
  cases deed <;> rfl

theorem Move.config (move : census.Move words next) : next.config = census.config := by
  cases move with
  | change next changed =>
    cases changed with
    | deed slot next done => exact done.config
    | leave | spawn => rfl
  | opened | closed => rfl

theorem Moves.config (moves : census.Moves words next) : next.config = census.config :=
  moves.preserve (·.config = census.config) (fun move same => move.config.trans same) rfl

/-! ### What all residents have -/

theorem resident_of_seat (slot : Nat) {org : Organism} {holds : Organism → Prop}
    (all : ∀ slot org, census.residents slot = some org → holds org) (here : holds org) :
    ∀ other resident, (census.seat slot org).residents other = some resident → holds resident := by
  intro other resident
  simp only [seat, Function.update_apply]
  split
  · rintro ⟨⟩
    exact here
  · exact all other resident

/-- What newborns have if all residents have it, and what organisms keep while they evolve,
all residents have after a move. -/
theorem Move.residents (move : census.Move words next) (holds : Organism → Prop)
    (born : ∀ bearer child, census.Newborn words bearer child → (∀ org ∈ bearer, holds org) →
      holds child)
    (kept : ∀ org after, org.Evolves words census.config after → holds org → holds after)
    (all : ∀ slot org, census.residents slot = some org → holds org) :
    ∀ slot org, next.residents slot = some org → holds org := by
  cases move with
  | opened | closed => exact all
  | change next changed =>
    cases changed with
    | spawn slot org vacant newborn =>
      exact resident_of_seat slot all (born none org newborn (fun _ nobody => nomatch nobody))
    | leave slot org resident counted =>
      intro other here
      simp only [dismiss, Function.update_apply]
      split
      · exact nofun
      · exact all other here
    | deed slot next done =>
      cases done with
      | alone org after resident evolves =>
        exact resident_of_seat slot all (kept org after evolves (all slot org resident))
      | bite org after prey victim taken resident evolves other caught nonneg left =>
        have bitten :
            prey.Evolves words census.config { prey with energy := prey.energy - taken } :=
          { Organism.Evolves.refl prey with }
        have rest := resident_of_seat victim all
          (kept prey _ bitten (all victim prey caught))
        exact resident_of_seat slot rest (kept org after evolves (all slot org resident))
      | bear org after child fresh resident evolves vacant newborn =>
        have here := all slot org resident
        have received := resident_of_seat fresh all
          (born (some org) child newborn (by simpa using here))
        exact resident_of_seat slot received (kept org after evolves here)

end Census

end Vivarium
