import Mathlib.Data.List.Nodup
import Vivarium.Draw.Generator
import Vivarium.Proofs.TokenSet.Members

/-!
# Token sets as lists

A token set answers like a list without repetitions that is searched from end to end. The
index beside the array only makes it faster: after any requests the two are each other's
inverse, the array is the list, and every answer has been the one that the list gives.

## Main result

`serveAll_listed`: an empty set serves any requests in any order without a fault, and what it
answers is what `listAll` answers on the empty list.

## Proof strategy

`Consistent` is the invariant and `toList` the abstraction. One lemma for each operation says
what it makes of the list (`insert_of_not_mem`, `erase_listed`, `random_of_draw`); a request
is served accordingly (`Consistent.serve`), and any number of them by induction.
-/
namespace Vivarium

/-- A source whose every draw shows the same face, as far as the range reaches. -/
structure Die where
  face : Nat

instance : DrawSource Die where
  below _ bound die := (die.face % bound, die)
  unit die := (0.0, die)

instance : LawfulDrawSource Die where
  below_lt _ _ die positive := Nat.mod_lt die.face positive

namespace TokenSet

/-! ### What is asked of a set -/

inductive Request where
  | insert (offset : Nat)
  | erase (offset : Nat)
  | contains (offset : Nat)
  | random

inductive Answer where
  | truth (value : Bool)
  | member (drawn : Option Nat)
  deriving DecidableEq, Repr

section Serving

variable {ρ : Type} [DrawSource ρ]

def Request.serve (set : TokenSet) (source : ρ) : Request → Outcome (Answer × TokenSet × ρ)
  | .insert offset =>
    let (isNew, set) := set.insert offset
    return (.truth isNew, set, source)
  | .erase offset => do
    let (found, set) ← set.erase offset
    return (.truth found, set, source)
  | .contains offset => return (.truth (set.contains offset), set, source)
  | .random => do
    let (drawn, source) ← set.random source
    return (.member drawn, set, source)

/-- Serve one request after the other and keep the answers in their order. -/
def serveAll (set : TokenSet) (source : ρ) : List Request → Outcome (List Answer × TokenSet × ρ)
  | [] => return ([], set, source)
  | request :: requests => do
    let (answer, set, source) ← request.serve set source
    let (answers, set, source) ← set.serveAll source requests
    return (answer :: answers, set, source)

/-! ### The same asked of a list -/

/-- The list without a member, whose place the last member takes. -/
def vacate (members : List Nat) (offset : Nat) : List Nat :=
  if offset ∈ members then
    members.dropLast.set (members.idxOf offset) (members.getLastD offset)
  else members

/-- What a list of members answers, and what it is afterwards. -/
def Request.list (members : List Nat) (source : ρ) : Request → Answer × List Nat × ρ
  | .insert offset =>
    if offset ∈ members then (.truth false, members, source)
    else (.truth true, members ++ [offset], source)
  | .erase offset => (.truth (offset ∈ members), vacate members offset, source)
  | .contains offset => (.truth (offset ∈ members), members, source)
  | .random =>
    if members = [] then (.member none, members, source)
    else
      let (place, source) :=
        DrawSource.below (.forBound members.length) members.length source
      (.member members[place]?, members, source)

def listAll (members : List Nat) (source : ρ) : List Request → List Answer × List Nat × ρ
  | [] => ([], members, source)
  | request :: requests =>
    let (answer, members, source) := request.list members source
    let (answers, members, source) := listAll members source requests
    (answer :: answers, members, source)

end Serving

/-! ### Operations on the list -/

variable {set : TokenSet}

theorem contains_eq (consistent : set.Consistent) (offset : Nat) :
    set.contains offset = decide (offset ∈ set.toList) := by
  rw [Bool.eq_iff_iff, decide_eq_true_iff]
  exact contains_iff_mem consistent offset

theorem isEmpty_iff_toList (set : TokenSet) : set.isEmpty = true ↔ set.toList = [] := by
  simp [isEmpty, toList]

theorem insert_of_mem (consistent : set.Consistent) {offset : Nat}
    (member : offset ∈ set.toList) : set.insert offset = (false, set) := by
  rw [insert, if_pos ((contains_iff_mem consistent offset).mpr member)]

theorem insert_of_not_mem (consistent : set.Consistent) {offset : Nat}
    (absent : offset ∉ set.toList) :
    (set.insert offset).1 = true ∧ (set.insert offset).2.toList = set.toList ++ [offset] := by
  have unknown : ¬ set.contains offset = true := by
    rwa [contains_iff_mem consistent]
  rw [insert, if_neg unknown]
  exact ⟨rfl, by simp [toList]⟩

/-- To swap an entry with the last one and to end before it leaves the last one in the place
of the entry. -/
theorem toList_swap_pop (members : Array Nat) (place : Nat) (inside : place < members.size)
    (last : members.size - 1 < members.size) :
    (members.swap place (members.size - 1) inside last).pop.toList =
      members.toList.dropLast.set place members[members.size - 1] := by
  rw [Array.toList_pop, Array.toList_swap, List.dropLast_eq_take, List.dropLast_eq_take]
  simp only [List.length_set, Array.length_toList]
  -- What is written to the last place is cut off.
  rw [List.take_set_of_le (Nat.le_refl _), List.take_set]

/-- A member of a consistent set is in its place, and nowhere before. -/
theorem idxOf_of_place (consistent : set.Consistent) {offset place : Nat}
    (held : set.members[place]? = some offset) : set.toList.idxOf offset = place := by
  obtain ⟨inside, rfl⟩ := Array.getElem?_eq_some_iff.mp held
  have within : place < set.toList.length := by
    rwa [length_toList]
  exact (nodup_toList consistent).idxOf_getElem place within

theorem erase_of_not_mem (consistent : set.Consistent) {offset : Nat}
    (absent : offset ∉ set.toList) : set.erase offset = .ok (false, set) := by
  have noPlace : set.places[offset]? = none := by
    rw [Option.eq_none_iff_forall_ne_some]
    intro place found
    exact absent ((mem_iff_place consistent offset).mpr ⟨place, found⟩)
  unfold erase
  rw [noPlace]

/-- Whether the erased member was the last one decides what is noted in the index, and makes
no difference to the list. -/
theorem erase_of_mem (consistent : set.Consistent) {offset : Nat}
    (member : offset ∈ set.toList) :
    ∃ next, set.erase offset = .ok (true, next) ∧ next.toList = vacate set.toList offset := by
  obtain ⟨place, found⟩ := (mem_iff_place consistent offset).mp member
  have held := (consistent offset place).mp found
  obtain ⟨inside, -⟩ := Array.getElem?_eq_some_iff.mp held
  have last : set.members.size - 1 < set.members.size := by omega
  have moved : set.toList.getLastD offset = set.members[set.members.size - 1] := by
    rw [List.getLastD_eq_getLast?, List.getLast?_eq_getElem?, length_toList, toList,
      Array.getElem?_toList, size, Array.getElem?_eq_getElem last, Option.getD_some]
  have listed : vacate set.toList offset =
      (set.members.swap place (set.members.size - 1) inside last).pop.toList := by
    rw [vacate, if_pos member, idxOf_of_place consistent held, moved, toList_swap_pop, toList]
  unfold erase
  rw [found]
  simp only [dif_pos inside]
  split
  next => exact ⟨_, rfl, listed.symm⟩
  next => exact ⟨_, rfl, listed.symm⟩

/-- Erasing always has an answer, which says whether the offset was a member. -/
theorem erase_listed (consistent : set.Consistent) (offset : Nat) :
    ∃ next, set.erase offset = .ok (decide (offset ∈ set.toList), next) ∧ next.Consistent ∧
      next.toList = vacate set.toList offset := by
  by_cases member : offset ∈ set.toList
  · obtain ⟨next, erased, listed⟩ := erase_of_mem consistent member
    exact ⟨next, by simpa [member] using erased, (erase_eq_ok consistent erased).1, listed⟩
  · have unchanged := erase_of_not_mem consistent member
    exact ⟨set, by simpa [member] using unchanged, consistent, by rw [vacate, if_neg member]⟩

section Drawing

variable {ρ : Type} [DrawSource ρ]

theorem random_of_empty (isEmpty : set.toList = []) (source : ρ) :
    set.random source = .ok (none, source) := by
  rw [random, if_pos ((isEmpty_iff_toList set).mpr isEmpty)]

/-- The member that comes out is the one at the place drawn. -/
theorem random_of_draw {source next : ρ} {place member : Nat}
    (drawn : DrawSource.below (.forBound set.size) set.size source = (place, next))
    (here : set.toList[place]? = some member) :
    set.random source = .ok (some member, next) := by
  obtain ⟨inside, -⟩ := List.getElem?_eq_some_iff.mp here
  rw [length_toList] at inside
  have some : ¬ set.isEmpty = true := by
    rw [isEmpty_iff_toList, ← List.length_eq_zero_iff, length_toList]
    omega
  have held : set.members[place]? = .some member := by
    rwa [toList, Array.getElem?_toList] at here
  rw [random, if_neg some, Draw.position, Draw.below_eq_ok (by omega), drawn]
  simp only [bind, Except.bind, held]
  rfl

variable [LawfulDrawSource ρ]

/-- A lawful draw is the place of a member. -/
theorem random_listed (some : set.toList ≠ []) (source : ρ) :
    ∃ place next member,
      DrawSource.below (.forBound set.size) set.size source = (place, next) ∧
        set.toList[place]? = .some member ∧ set.random source = .ok (.some member, next) := by
  have positive : 0 < set.size := by
    rw [← length_toList]
    exact List.length_pos_iff.mpr some
  have lawful := LawfulDrawSource.below_lt (.forBound set.size) set.size source positive
  cases drawn : DrawSource.below (.forBound set.size) set.size source with
  | mk place next =>
    have inside : place < set.toList.length := by
      rwa [drawn, ← length_toList] at lawful
    have here := List.getElem?_eq_getElem inside
    exact ⟨place, next, _, rfl, here, random_of_draw drawn here⟩

/-! ### Requests -/

/-- One request: the set answers what the list answers, and becomes what the list becomes. -/
theorem Consistent.serve (consistent : set.Consistent) (source : ρ) (request : Request) :
    ∃ answer next after, request.serve set source = .ok (answer, next, after) ∧
      next.Consistent ∧ request.list set.toList source = (answer, next.toList, after) := by
  cases request with
  | insert offset =>
    by_cases member : offset ∈ set.toList
    · refine ⟨.truth false, set, source, ?_, consistent, by rw [Request.list, if_pos member]⟩
      rw [Request.serve, insert_of_mem consistent member]
      rfl
    · obtain ⟨isNew, listed⟩ := insert_of_not_mem consistent member
      refine ⟨.truth true, (set.insert offset).2, source, ?_,
        consistent_insert set offset consistent, by rw [Request.list, if_neg member, listed]⟩
      rw [Request.serve, ← isNew]
      rfl
  | erase offset =>
    obtain ⟨next, erased, after, listed⟩ := erase_listed consistent offset
    refine ⟨_, next, source, ?_, after, by rw [Request.list, listed]⟩
    simp only [Request.serve, erased]
    rfl
  | contains offset =>
    exact ⟨_, set, source, rfl, consistent, by rw [Request.list, contains_eq consistent]⟩
  | random =>
    by_cases isEmpty : set.toList = []
    · refine ⟨.member none, set, source, ?_, consistent, by rw [Request.list, if_pos isEmpty]⟩
      simp only [Request.serve, random_of_empty isEmpty]
      rfl
    · obtain ⟨place, next, member, drawn, here, served⟩ := random_listed isEmpty source
      refine ⟨.member (some member), set, next, ?_, consistent, ?_⟩
      · simp only [Request.serve, served]
        rfl
      · rw [Request.list, if_neg isEmpty, length_toList, drawn]
        simp only [here]

/-- Induction on the requests; `Consistent` is the invariant. -/
theorem Consistent.serveAll (consistent : set.Consistent) (source : ρ) (requests : List Request) :
    ∃ answers next after, set.serveAll source requests = .ok (answers, next, after) ∧
      next.Consistent ∧ listAll set.toList source requests = (answers, next.toList, after) := by
  induction requests generalizing set source with
  | nil => exact ⟨[], set, source, rfl, consistent, rfl⟩
  | cons request requests ih =>
    obtain ⟨answer, next, after, served, kept, listed⟩ := consistent.serve source request
    obtain ⟨answers, last, final, servedAll, consistent, listedAll⟩ := ih kept after
    refine ⟨answer :: answers, last, final, ?_, consistent, ?_⟩
    · simp only [TokenSet.serveAll, served, bind, Except.bind, servedAll]
      rfl
    · simp only [listAll, listed, listedAll]

/-- An empty set serves any requests in any order without a fault, and with the answers of a
list without repetitions. Afterwards index and array are each other's inverse; membership,
size, emptiness and the order of the members are those of the list; a member drawn is the one
at the place drawn, and there is none only if the list is empty; and each member can be
drawn: it has a place, for any source that shows the place gives the member, and some does. -/
theorem serveAll_listed (requests : List Request) (source : ρ) :
    ∃ answers set next, empty.serveAll source requests = .ok (answers, set, next) ∧
      listAll [] source requests = (answers, set.toList, next) ∧
      (∀ offset place : Nat, set.places[offset]? = some place ↔
        set.members[place]? = some offset) ∧
      set.toList.Nodup ∧
      (∀ offset, set.contains offset = decide (offset ∈ set.toList)) ∧
      set.size = set.toList.length ∧ (set.isEmpty = true ↔ set.toList = []) ∧
      (∀ draws : ρ, set.toList = [] ∧ set.random draws = .ok (none, draws) ∨
        ∃ place after member,
          DrawSource.below (.forBound set.size) set.size draws = (place, after) ∧
            set.toList[place]? = some member ∧ set.random draws = .ok (some member, after)) ∧
      ∀ member ∈ set.toList,
        (∃ place < set.size, ∀ draws after : ρ,
          DrawSource.below (.forBound set.size) set.size draws = (place, after) →
            set.random draws = .ok (some member, after)) ∧
        ∃ die : Die, set.random die = .ok (some member, die) := by
  obtain ⟨answers, set, next, served, consistent, listed⟩ :=
    consistent_empty.serveAll source requests
  refine ⟨answers, set, next, served, listed, consistent, nodup_toList consistent,
    contains_eq consistent, (length_toList set).symm, isEmpty_iff_toList set, ?_, ?_⟩
  · intro draws
    by_cases isEmpty : set.toList = []
    · exact .inl ⟨isEmpty, random_of_empty isEmpty draws⟩
    · exact .inr (random_listed isEmpty draws)
  · intro member isMember
    obtain ⟨place, inside, rfl⟩ := List.getElem_of_mem isMember
    have here := List.getElem?_eq_getElem inside
    rw [length_toList] at inside
    -- The die that shows the place of the member draws the member.
    refine ⟨⟨place, inside, fun draws after drawn => random_of_draw drawn here⟩, ⟨place⟩, ?_⟩
    exact random_of_draw (Prod.ext (Nat.mod_eq_of_lt inside) rfl) here

end Drawing

/-- A member comes twice and leaves twice, and comes back after the others. -/
def comings : List Request :=
  [.insert 3, .insert 8, .insert 5, .insert 8, .erase 3, .erase 3, .contains 5, .erase 8,
   .insert 3, .random]

/-- The last member has taken the place of the first one, and the first one is the last. -/
theorem serveAll_listed_comings :
    ∃ answers set next, empty.serveAll (Generator.ofSeed 1) comings = .ok (answers, set, next) ∧
      answers.take 9 = [true, true, true, false, true, false, true, true, true].map .truth ∧
      set.toList = [5, 3] ∧ set.places[3]? = some 1 ∧
      ∃ die : Die, set.random die = .ok (some 3, die) := by
  obtain ⟨answers, set, next, served, listed, inverse, -, -, -, -, -, possible⟩ :=
    serveAll_listed comings (Generator.ofSeed 1)
  have after : set.toList = [5, 3] := by
    have members := congrArg (fun reached => reached.2.1) listed
    exact members.symm.trans (by rfl)
  have given : answers.take 9 =
      [true, true, true, false, true, false, true, true, true].map .truth := by
    have given := congrArg (fun reached => reached.1.take 9) listed
    exact given.symm.trans (by rfl)
  have isMember : 3 ∈ set.toList := by
    simp [after]
  have second : set.members[1]? = some 3 := by
    rw [← Array.getElem?_toList, ← toList, after]
    rfl
  exact ⟨answers, set, next, served, given, after, (inverse 3 1).mpr second,
    (possible 3 isMember).2⟩

end TokenSet

end Vivarium
