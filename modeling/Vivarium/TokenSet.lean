import Vivarium.Draw
import Std.Data.HashMap

/-!
# Sets of offsets that can be sampled

The members stand in an array, in the order in which they came, and an index
leads from a member to its place. To leave, a member swaps places with the last
one; so each operation takes constant time and any member can be drawn.
-/
namespace Vivarium

/-- Offsets, each at most once. -/
structure TokenSet where
  members : Array Nat
  /-- The place of each member. -/
  places : Std.HashMap Nat Nat

namespace TokenSet

def empty : TokenSet := { members := #[], places := ∅ }

instance : Inhabited TokenSet := ⟨empty⟩

def size (set : TokenSet) : Nat := set.members.size

def isEmpty (set : TokenSet) : Bool := set.members.isEmpty

def contains (set : TokenSet) (offset : Nat) : Bool := set.places.contains offset

def toList (set : TokenSet) : List Nat := set.members.toList

/-- Add a member at the end, and whether it is new. -/
def insert (set : TokenSet) (offset : Nat) : Bool × TokenSet :=
  if set.contains offset then (false, set)
  else
    (true,
      { places := set.places.insert offset set.members.size
        members := set.members.push offset })

/-- Remove a member, and whether it was there. The last member takes its place. -/
def erase (set : TokenSet) (offset : Nat) : Outcome (Bool × TokenSet) :=
  match set.places[offset]? with
  | none => .ok (false, set)
  | some place =>
    if inside : place < set.members.size then
      have last : set.members.size - 1 < set.members.size :=
        Nat.sub_lt (Nat.zero_lt_of_lt inside) Nat.one_pos
      let members := (set.members.swap place (set.members.size - 1) inside last).pop
      let places := set.places.erase offset
      match members[place]? with
      -- The member was the last one itself.
      | none => .ok (true, { members, places })
      | some moved => .ok (true, { members, places := places.insert moved place })
    else .error .outOfRange

/-- A member at a random place; none if there is no member. -/
def random {ρ : Type} [DrawSource ρ] (set : TokenSet) (source : ρ) : Outcome (Option Nat × ρ) :=
  if set.isEmpty then .ok (none, source)
  else do
    let (place, source) ← Draw.position set.size source
    match set.members[place]? with
    | none => .error .outOfRange
    | some member => return (some member, source)

/-- Each member is found at its place, and each place holds its member. -/
def Consistent (set : TokenSet) : Prop :=
  ∀ offset place : Nat, set.places[offset]? = some place ↔ set.members[place]? = some offset

theorem consistent_empty : empty.Consistent := by
  intro offset place
  simp [empty]

theorem consistent_insert (set : TokenSet) (offset : Nat) (consistent : set.Consistent) :
    (set.insert offset).2.Consistent := by
  unfold insert
  by_cases known : set.contains offset
  · simpa [known] using consistent
  · have absent : set.places[offset]? = none := by
      simpa [contains] using known
    have fresh : ∀ place : Nat, set.members[place]? ≠ some offset := by
      intro place found
      rw [← consistent, absent] at found
      cases found
    intro other place
    simp only [known, Bool.false_eq_true, if_false, Std.HashMap.getElem?_insert,
      Array.getElem?_push, beq_iff_eq]
    by_cases same : offset = other
    · subst same
      by_cases last : place = set.members.size
      · simp [last]
      · simp [last, fresh place, Ne.symm last]
    · by_cases last : place = set.members.size
      · subst last
        have outside : set.places[other]? ≠ some set.members.size := by
          rw [Ne, consistent]
          simp
        simp [same, outside]
      · simp [same, last, consistent other place]

end TokenSet

end Vivarium
