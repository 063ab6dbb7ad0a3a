import Vivarium.TokenSet

/-!
# The members of a token set

The places of a consistent set are the inverse of its array, so a set has no
member twice. To erase a member moves the last one to its place, which leaves all
others where they are.
-/
namespace Vivarium.TokenSet

theorem mem_toList_iff (set : TokenSet) (offset : Nat) :
    offset ∈ set.toList ↔ ∃ place : Nat, set.members[place]? = some offset := by
  unfold toList
  rw [Array.mem_toList_iff, Array.mem_iff_getElem?]

theorem mem_iff_place {set : TokenSet} (consistent : set.Consistent) (offset : Nat) :
    offset ∈ set.toList ↔ ∃ place, set.places[offset]? = some place := by
  rw [mem_toList_iff]
  exact exists_congr fun place => (consistent offset place).symm

theorem contains_iff_mem {set : TokenSet} (consistent : set.Consistent) (offset : Nat) :
    set.contains offset = true ↔ offset ∈ set.toList := by
  rw [mem_iff_place consistent, contains, Std.HashMap.contains_eq_isSome_getElem?,
    Option.isSome_iff_exists]

/-- A place holds one member, so two places do not hold the same one. -/
theorem place_unique {set : TokenSet} (consistent : set.Consistent) {offset first second : Nat}
    (atFirst : set.members[first]? = some offset)
    (atSecond : set.members[second]? = some offset) : first = second := by
  rw [← consistent] at atFirst atSecond
  rw [atFirst, Option.some.injEq] at atSecond
  exact atSecond

theorem nodup_toList {set : TokenSet} (consistent : set.Consistent) : set.toList.Nodup := by
  unfold toList
  rw [List.Nodup, List.pairwise_iff_getElem]
  intro first second firstInside secondInside before same
  have atFirst : set.members[first]? = some set.members.toList[first] := by
    rw [← Array.getElem?_toList, List.getElem?_eq_getElem firstInside]
  have atSecond : set.members[second]? = some set.members.toList[first] := by
    rw [← Array.getElem?_toList, List.getElem?_eq_getElem secondInside, same]
  have unique := place_unique consistent atFirst atSecond
  omega

theorem length_toList (set : TokenSet) : set.toList.length = set.size := by
  simp [toList, size]

theorem toList_empty : empty.toList = [] := rfl

/-! ### Inserting -/

theorem mem_insert {set : TokenSet} (consistent : set.Consistent) (offset other : Nat) :
    other ∈ (set.insert offset).2.toList ↔ other = offset ∨ other ∈ set.toList := by
  unfold insert
  by_cases known : set.contains offset = true
  · rw [if_pos known]
    have member := (contains_iff_mem consistent offset).mp known
    constructor
    · exact .inr
    · rintro (rfl | old)
      · exact member
      · exact old
  · rw [if_neg known]
    simp [toList, or_comm]

/-! ### Erasing -/

/-- The array without the entry at `place`, whose place the last entry takes. -/
private theorem getElem?_swap_pop (members : Array Nat) (place other : Nat)
    (inside : place < members.size) (last : members.size - 1 < members.size) :
    (members.swap place (members.size - 1) inside last).pop[other]?
      = if other + 1 < members.size then
          if other = place then members[members.size - 1]? else members[other]?
        else none := by
  rw [Array.getElem?_pop, Array.size_swap]
  by_cases below : other + 1 < members.size
  · rw [if_pos below, if_pos (by omega), Array.getElem?_swap]
    by_cases same : other = place
    · subst same
      rw [if_neg (by omega), if_pos rfl, if_pos rfl, Array.getElem?_eq_getElem last]
    · rw [if_neg (by omega), if_neg (Ne.symm same), if_neg same]
  · rw [if_neg below, if_neg (by omega)]

/-- The set without a member that stands in the last place. -/
private theorem consistent_eraseLast {set : TokenSet} (consistent : set.Consistent)
    {offset place : Nat} {members : Array Nat} (held : set.members[place]? = some offset)
    (isLast : place + 1 = set.members.size)
    (rest : ∀ other : Nat, members[other]? =
      if other + 1 < set.members.size then set.members[other]? else none) :
    ({ members, places := set.places.erase offset } : TokenSet).Consistent := by
  intro other position
  simp only [Std.HashMap.getElem?_erase, beq_iff_eq, rest]
  by_cases same : offset = other
  · subst same
    rw [if_pos rfl]
    constructor
    · intro absurd
      cases absurd
    · intro kept
      split at kept
      next below =>
        have unique := place_unique consistent kept held
        omega
      next => cases kept
  · rw [if_neg same, consistent other position]
    constructor
    · intro found
      have inside := (Array.getElem?_eq_some_iff.mp found).1
      have elsewhere : position ≠ place := by
        rintro rfl
        rw [held, Option.some.injEq] at found
        exact same found
      rw [if_pos (by omega)]
      exact found
    · intro kept
      split at kept
      next => exact kept
      next => cases kept

/-- The set without a member whose place the last one takes. -/
private theorem consistent_eraseInner {set : TokenSet} (consistent : set.Consistent)
    {offset place moved : Nat} {members : Array Nat} (held : set.members[place]? = some offset)
    (notLast : place + 1 < set.members.size)
    (last : set.members[set.members.size - 1]? = some moved)
    (rest : ∀ other : Nat, members[other]? =
      if other + 1 < set.members.size then
        if other = place then some moved else set.members[other]?
      else none) :
    TokenSet.Consistent { members, places := (set.places.erase offset).insert moved place } := by
  intro other position
  simp only [Std.HashMap.getElem?_insert, Std.HashMap.getElem?_erase, beq_iff_eq, rest]
  -- The member that moves is found in the last place only.
  have inner : ∀ {p : Nat}, set.members[p]? = some moved → p + 1 = set.members.size := by
    intro p found
    have unique := place_unique consistent found last
    omega
  by_cases isMoved : moved = other
  · subst isMoved
    rw [if_pos rfl]
    constructor
    · intro here
      cases here
      rw [if_pos notLast, if_pos rfl]
    · intro kept
      split at kept
      next below =>
        split at kept
        next here => rw [here]
        next =>
          have atEnd := inner kept
          omega
      next => cases kept
  · rw [if_neg isMoved]
    by_cases same : offset = other
    · subst same
      rw [if_pos rfl]
      constructor
      · intro absurd
        cases absurd
      · intro kept
        split at kept
        next below =>
          split at kept
          next here => exact absurd (Option.some.inj kept) isMoved
          next elsewhere => exact absurd (place_unique consistent kept held) elsewhere
        next => cases kept
    · rw [if_neg same, consistent other position]
      constructor
      · intro found
        have inside := (Array.getElem?_eq_some_iff.mp found).1
        have elsewhere : position ≠ place := by
          rintro rfl
          rw [held, Option.some.injEq] at found
          exact same found
        have notAtEnd : position ≠ set.members.size - 1 := by
          rintro rfl
          rw [last, Option.some.injEq] at found
          exact isMoved found
        rw [if_pos (by omega), if_neg elsewhere]
        exact found
      · intro kept
        split at kept
        next =>
          split at kept
          next => exact absurd (Option.some.inj kept) isMoved
          next => exact kept
        next => cases kept

/-- What is left when an offset is erased. -/
theorem erase_eq_ok {set next : TokenSet} {offset : Nat} {found : Bool}
    (consistent : set.Consistent) (erased : set.erase offset = .ok (found, next)) :
    next.Consistent ∧
      ∀ other, other ∈ next.toList ↔ other ≠ offset ∧ other ∈ set.toList := by
  unfold erase at erased
  split at erased
  -- What is not a member is no member afterwards either.
  next absent =>
    simp only [Except.ok.injEq, Prod.mk.injEq] at erased
    obtain ⟨-, rfl⟩ := erased
    refine ⟨consistent, fun other => ⟨fun member => ⟨?_, member⟩, fun member => member.2⟩⟩
    rintro rfl
    obtain ⟨place, found⟩ := (mem_iff_place consistent other).mp member
    rw [absent] at found
    cases found
  next place atPlace =>
    have held := (consistent offset place).mp atPlace
    split at erased
    next inside =>
      -- The last member takes the place of the one erased, and the array ends before it.
      have last : set.members.size - 1 < set.members.size := by omega
      have rest := fun other => getElem?_swap_pop set.members place other inside last
      simp only at erased
      split at erased
      -- It was the last member itself, so no place has to be noted.
      next ended =>
        simp only [Except.ok.injEq, Prod.mk.injEq] at erased
        obtain ⟨-, rfl⟩ := erased
        have isLast : place + 1 = set.members.size := by
          rw [rest, if_pos rfl] at ended
          split at ended
          next => simp [Array.getElem?_eq_getElem last] at ended
          next => omega
        have consistent' := consistent_eraseLast consistent held isLast fun other => by
          rw [rest]
          by_cases below : other + 1 < set.members.size
          · rw [if_pos below, if_pos below, if_neg (by omega)]
          · rw [if_neg below, if_neg below]
        refine ⟨consistent', fun other => ?_⟩
        rw [mem_iff_place consistent', mem_iff_place consistent]
        simp only [Std.HashMap.getElem?_erase, beq_iff_eq]
        by_cases same : offset = other
        · simp [same]
        · simp [same, Ne.symm same]
      next moved movedHere =>
        simp only [Except.ok.injEq, Prod.mk.injEq] at erased
        obtain ⟨-, rfl⟩ := erased
        rw [rest, if_pos rfl] at movedHere
        split at movedHere
        next notLast =>
          have consistent' :=
            consistent_eraseInner consistent held notLast movedHere fun other => by
              rw [rest, movedHere]
          refine ⟨consistent', fun other => ?_⟩
          rw [mem_iff_place consistent', mem_iff_place consistent]
          simp only [Std.HashMap.getElem?_insert, Std.HashMap.getElem?_erase, beq_iff_eq]
          by_cases isMoved : moved = other
          · subst isMoved
            have known : set.places[moved]? = some (set.members.size - 1) :=
              (consistent _ _).mpr movedHere
            have distinct : moved ≠ offset := by
              rintro rfl
              have unique := place_unique consistent movedHere held
              omega
            simp [known, distinct]
          · by_cases same : offset = other
            · simp [isMoved, same]
            · simp [isMoved, same, Ne.symm same]
        next => cases movedHere
    next => cases erased

end Vivarium.TokenSet
