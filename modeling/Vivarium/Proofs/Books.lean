import Vivarium.Proofs.Surface.Changes
import Vivarium.Proofs.TokenSet.Members
import Vivarium.Proofs.Totals

/-!
# Books

The tokens that lie on the ground and those in hands, on two shelves, with the
surfaces that count them. The books balance when each surface counts exactly the
tokens of its kind on both shelves and its set names the places of those that
lie. Tokens change shelves, come and go by a handful of entries; each keeps the
books balanced.
-/
namespace Vivarium

/-! ### Shelves -/

/-- The tokens of one kind on a shelf. -/
def ofKind (kind : Nat) (shelf : Nat → Option Token) (place : Nat) : Option Token :=
  (shelf place).filter (·.kind == kind)

section Shelves

variable {place kind : Nat} {shelf : Nat → Option Token} {token : Token}

theorem ofKind_eq_some_iff :
    ofKind kind shelf place = some token ↔ shelf place = some token ∧ token.kind = kind := by
  simp [ofKind, Option.filter_eq_some_iff]

theorem ofKind_eq_none (nothing : shelf place = none) : ofKind kind shelf place = none := by
  rw [ofKind, nothing, Option.filter_none]

theorem ofKind_update (held : Option Token) :
    ofKind kind (Function.update shelf place held) =
      Function.update (ofKind kind shelf) place (held.filter (·.kind == kind)) := by
  funext other
  simp only [ofKind, Function.update_apply]
  split <;> rfl

theorem ofKind_clear :
    ofKind kind (Function.update shelf place none) =
      Function.update (ofKind kind shelf) place none := ofKind_update none

theorem ofKind_put (own : token.kind = kind) :
    ofKind kind (Function.update shelf place (some token)) =
      Function.update (ofKind kind shelf) place (some token) := by
  rw [ofKind_update, Option.filter_some, if_pos (by simpa using own)]

/-- What is done with the tokens of one kind leaves the others alone. -/
theorem ofKind_update_of_ne {other : Nat} {held : Option Token} (different : other ≠ kind)
    (before : ∀ token, shelf place = some token → token.kind = kind)
    (after : ∀ token, held = some token → token.kind = kind) :
    ofKind other (Function.update shelf place held) = ofKind other shelf := by
  -- Neither what was there nor what comes is seen through the filter.
  have foreign : ∀ held : Option Token, (∀ token, held = some token → token.kind = kind) →
      held.filter (·.kind == other) = none := by
    intro held own
    rw [Option.filter_eq_none_iff]
    intro token here
    simpa [own token here] using different.symm
  rw [ofKind_update, foreign held after]
  exact Function.update_eq_self_iff.mpr (foreign _ before).symm

end Shelves

/-! ### One surface -/

/-- A surface counts the tokens of its kind on both shelves. -/
structure Audited (size capacity : Nat) (lying carried : Nat → Option Token) (surface : Surface) :
    Prop where
  consistent : surface.tokens.Consistent
  members : ∀ offset, offset ∈ surface.tokens.toList ↔ ∃ token, lying offset = some token
  live : surface.live = total size (fun _ => 1) lying + total capacity (fun _ => 1) carried
  atoms : surface.atoms = total size Token.atoms lying + total capacity Token.atoms carried
  room : surface.live ≤ surface.config.capacity

namespace Audited

variable {size capacity offset slot : Nat} {lying carried : Nat → Option Token}
  {surface : Surface} {token : Token} {found : Bool} {tokens : TokenSet}

/-- The members without one that was erased. -/
theorem members_erase (audited : Audited size capacity lying carried surface)
    (erased : surface.tokens.erase offset = .ok (found, tokens)) (other : Nat) :
    other ∈ tokens.toList ↔ ∃ token, Function.update lying offset none other = some token := by
  rw [(TokenSet.erase_eq_ok audited.consistent erased).2, audited.members, Function.update_apply]
  split
  next same => simp [same]
  next elsewhere => simp [elsewhere]

/-- The members with one that was inserted. -/
theorem members_insert {set : TokenSet} (consistent : set.Consistent)
    (members : ∀ offset, offset ∈ set.toList ↔ ∃ token, lying offset = some token)
    (token : Token) (other : Nat) :
    other ∈ (set.insert offset).2.toList ↔
      ∃ held, Function.update lying offset (some token) other = some held := by
  rw [TokenSet.mem_insert consistent, members, Function.update_apply]
  split
  next same => simp [same]
  next elsewhere => simp [elsewhere]

/-- A token that lies is among those counted. -/
theorem lying_le (audited : Audited size capacity lying carried surface) (inside : offset < size)
    (lay : lying offset = some token) : 1 ≤ surface.live ∧ token.atoms ≤ surface.atoms := by
  have ones := total_clear inside lay (fun _ => 1)
  have weights := total_clear inside lay Token.atoms
  have live := audited.live
  have atoms := audited.atoms
  omega

/-- A token that is carried is among those counted, beside all that lie. -/
theorem carried_le (audited : Audited size capacity lying carried surface)
    (within : slot < capacity) (held : carried slot = some token) :
    total size (fun _ => 1) lying + 1 ≤ surface.live ∧
      total size Token.atoms lying + token.atoms ≤ surface.atoms := by
  have hand := total_clear within held (fun _ => 1)
  have weight := total_clear within held Token.atoms
  have live := audited.live
  have atoms := audited.atoms
  omega

/-- A token that lay is no more. -/
theorem use (audited : Audited size capacity lying carried surface) (inside : offset < size)
    (lay : lying offset = some token)
    (erased : surface.tokens.erase offset = .ok (found, tokens)) :
    Audited size capacity (Function.update lying offset none) carried
      ({ surface with tokens }.forget token) := by
  have ones := total_clear inside lay (fun _ => 1)
  have weights := total_clear inside lay Token.atoms
  have live := audited.live
  have atoms := audited.atoms
  have room := audited.room
  have consistent := (TokenSet.erase_eq_ok audited.consistent erased).1
  refine ⟨consistent, audited.members_erase erased, ?_, ?_, ?_⟩
    <;> simp only [Surface.forget] <;> omega

/-- A token that lay is carried. -/
theorem lift (audited : Audited size capacity lying carried surface) (inside : offset < size)
    (within : slot < capacity) (lay : lying offset = some token) (handsFree : carried slot = none)
    (erased : surface.tokens.erase offset = .ok (found, tokens)) :
    Audited size capacity (Function.update lying offset none)
      (Function.update carried slot (some token)) { surface with tokens } := by
  have ones := total_clear inside lay (fun _ => 1)
  have weights := total_clear inside lay Token.atoms
  have hand := total_put within handsFree (fun _ => 1) token
  have weight := total_put within handsFree Token.atoms token
  have live := audited.live
  have atoms := audited.atoms
  refine ⟨(TokenSet.erase_eq_ok audited.consistent erased).1, audited.members_erase erased, ?_, ?_,
    audited.room⟩ <;> simp only <;> omega

/-- A token that was carried lies. -/
theorem lower (audited : Audited size capacity lying carried surface) (inside : offset < size)
    (within : slot < capacity) (vacant : lying offset = none) (held : carried slot = some token) :
    Audited size capacity (Function.update lying offset (some token))
      (Function.update carried slot none)
      { surface with tokens := (surface.tokens.insert offset).2 } := by
  have ones := total_put inside vacant (fun _ => 1) token
  have weights := total_put inside vacant Token.atoms token
  have hand := total_clear within held (fun _ => 1)
  have weight := total_clear within held Token.atoms
  have live := audited.live
  have atoms := audited.atoms
  refine ⟨TokenSet.consistent_insert _ _ audited.consistent,
    members_insert audited.consistent audited.members token, ?_, ?_, audited.room⟩
    <;> simp only <;> omega

/-- A token that was carried is fused into one that lies. -/
theorem fuse (audited : Audited size capacity lying carried surface) (inside : offset < size)
    (within : slot < capacity) {under merged : Token} (lay : lying offset = some under)
    (held : carried slot = some token) (capped : merged.atoms ≤ under.atoms + token.atoms) :
    Audited size capacity (Function.update lying offset (some merged))
      (Function.update carried slot none)
      { surface with
        live := surface.live - 1
        atoms := surface.atoms - (under.atoms + token.atoms - merged.atoms) } := by
  -- Two tokens become one, and its atoms are those of both as far as they are not lost.
  have ones := total_change inside lay (fun _ => 1) merged
  have weights := total_change inside lay Token.atoms merged
  have hand := total_clear within held (fun _ => 1)
  have weight := total_clear within held Token.atoms
  have live := audited.live
  have atoms := audited.atoms
  have room := audited.room
  refine ⟨audited.consistent, fun other => ?_, ?_, ?_, ?_⟩
  · rw [audited.members, Function.update_apply]
    split
    next same => simp [same, lay]
    next => rfl
  all_goals
    simp only
    omega

/-- A token comes into the world. -/
theorem add (audited : Audited size capacity lying carried surface) (inside : offset < size)
    (vacant : lying offset = none) (room : surface.live < surface.config.capacity)
    (token : Token) :
    Audited size capacity (Function.update lying offset (some token)) carried
      (surface.grow offset token.atoms) := by
  have ones := total_put inside vacant (fun _ => 1) token
  have weights := total_put inside vacant Token.atoms token
  have live := audited.live
  have atoms := audited.atoms
  refine ⟨TokenSet.consistent_insert _ _ audited.consistent,
    members_insert audited.consistent audited.members token, ?_, ?_, ?_⟩
    <;> simp only [Surface.grow] <;> omega

/-- A token lies elsewhere. -/
theorem shift (audited : Audited size capacity lying carried surface) {target : Nat}
    (inside : offset < size) (within : target < size) (lay : lying offset = some token)
    (vacant : lying target = none)
    (erased : surface.tokens.erase offset = .ok (found, tokens)) :
    Audited size capacity
      (Function.update (Function.update lying offset none) target (some token)) carried
      { surface with tokens := (tokens.insert target).2 } := by
  -- The target stays vacant when the token has left, so it can be put there.
  have elsewhere : target ≠ offset := by
    rintro rfl
    rw [lay] at vacant
    cases vacant
  have still : Function.update lying offset none target = none := by
    rw [Function.update_of_ne elsewhere, vacant]
  have ones := total_clear inside lay (fun _ => 1)
  have weights := total_clear inside lay Token.atoms
  have moved := total_put within still (fun _ => 1) token
  have weight := total_put within still Token.atoms token
  have live := audited.live
  have atoms := audited.atoms
  have consistent := (TokenSet.erase_eq_ok audited.consistent erased).1
  refine ⟨TokenSet.consistent_insert _ _ consistent,
    members_insert consistent (audited.members_erase erased) token, ?_, ?_, audited.room⟩
    <;> simp only <;> omega

/-- A token that was carried is no more. -/
theorem lose (audited : Audited size capacity lying carried surface) (within : slot < capacity)
    (held : carried slot = some token) :
    Audited size capacity lying (Function.update carried slot none) (surface.forget token) := by
  have hand := total_clear within held (fun _ => 1)
  have weight := total_clear within held Token.atoms
  have live := audited.live
  have atoms := audited.atoms
  have room := audited.room
  refine ⟨audited.consistent, audited.members, ?_, ?_, ?_⟩
    <;> simp only [Surface.forget] <;> omega

end Audited

/-! ### All surfaces -/

/-- A token of a known kind with a weight that tokens can have. -/
structure Proper (kinds : Nat) (token : Token) : Prop where
  positive : 1 ≤ token.atoms
  light : token.atoms ≤ maxAtoms
  known : token.kind < kinds

/-- Each surface counts the tokens of its kind, and there are no others. -/
structure Balanced (size capacity : Nat) (lying carried : Nat → Option Token)
    (surfaces : List Surface) : Prop where
  own : ∀ kind surface, surfaces[kind]? = some surface →
    Audited size capacity (ofKind kind lying) (ofKind kind carried) surface
  lying : ∀ offset token, lying offset = some token → Proper surfaces.length token
  carried : ∀ slot token, carried slot = some token → Proper surfaces.length token

namespace Balanced

variable {size capacity offset slot kind : Nat} {lying carried : Nat → Option Token}
  {surfaces : List Surface} {surface : Surface} {token : Token} {found : Bool} {tokens : TokenSet}

private theorem proper_update {kinds place : Nat} {shelf : Nat → Option Token}
    {held : Option Token} (proper : ∀ place token, shelf place = some token → Proper kinds token)
    (new : ∀ token, held = some token → Proper kinds token) (other : Nat) (token : Token)
    (here : Function.update shelf place held other = some token) : Proper kinds token := by
  rw [Function.update_apply] at here
  split at here
  next => exact new token here
  next => exact proper other token here

private theorem kind_of_some {held : Option Token} (here : held = some token)
    (own : token.kind = kind) (other : Token) (there : held = some other) : other.kind = kind := by
  cases here.symm.trans there
  exact own

private theorem kind_of_none {held : Option Token} (nothing : held = none) (other : Token)
    (there : held = some other) : other.kind = kind := by
  cases nothing.symm.trans there

private theorem none_held {holds : Token → Prop} (token : Token)
    (here : (none : Option Token) = some token) : holds token := nomatch here

/-- An entry that touches only the tokens of one kind is the matter of their surface. -/
theorem entry (balanced : Balanced size capacity lying carried surfaces)
    (own : surfaces[kind]? = some surface) {changed : Surface}
    {lying' carried' : Nat → Option Token}
    (audited : Audited size capacity (ofKind kind lying') (ofKind kind carried') changed)
    (sameLying : ∀ other, other ≠ kind → ofKind other lying' = ofKind other lying)
    (sameCarried : ∀ other, other ≠ kind → ofKind other carried' = ofKind other carried)
    (properLying : ∀ offset token, lying' offset = some token → Proper surfaces.length token)
    (properCarried : ∀ slot token, carried' slot = some token → Proper surfaces.length token) :
    Balanced size capacity lying' carried' (surfaces.set kind changed) where
  own other held here := by
    rw [List.getElem?_set] at here
    split at here
    next same =>
      subst same
      rw [if_pos (List.getElem?_eq_some_iff.mp own).1, Option.some.injEq] at here
      exact here ▸ audited
    next different =>
      rw [sameLying other (Ne.symm different), sameCarried other (Ne.symm different)]
      exact balanced.own other held here
  lying := by simpa only [List.length_set] using properLying
  carried := by simpa only [List.length_set] using properCarried

theorem wait (balanced : Balanced size capacity lying carried surfaces)
    (own : surfaces[kind]? = some surface) (waited : Nat) :
    Balanced size capacity lying carried (surfaces.set kind { surface with waited }) := by
  have audited := balanced.own kind surface own
  exact balanced.entry own
    ⟨audited.consistent, audited.members, audited.live, audited.atoms, audited.room⟩
    (fun _ _ => rfl) (fun _ _ => rfl) balanced.lying balanced.carried

theorem use (balanced : Balanced size capacity lying carried surfaces)
    (own : surfaces[kind]? = some surface) (inside : offset < size)
    (lay : lying offset = some token) (isOwn : token.kind = kind)
    (erased : surface.tokens.erase offset = .ok (found, tokens)) :
    Balanced size capacity (Function.update lying offset none) carried
      (surfaces.set kind ({ surface with tokens }.forget token)) := by
  have audited := (balanced.own kind surface own).use inside
    (ofKind_eq_some_iff.mpr ⟨lay, isOwn⟩) erased
  rw [← ofKind_clear] at audited
  exact balanced.entry own audited
    (fun other different => ofKind_update_of_ne different (kind_of_some lay isOwn) none_held)
    (fun _ _ => rfl) (proper_update balanced.lying none_held) balanced.carried

theorem lift (balanced : Balanced size capacity lying carried surfaces)
    (own : surfaces[kind]? = some surface) (inside : offset < size) (within : slot < capacity)
    (lay : lying offset = some token) (isOwn : token.kind = kind)
    (handsFree : carried slot = none)
    (erased : surface.tokens.erase offset = .ok (found, tokens)) :
    Balanced size capacity (Function.update lying offset none)
      (Function.update carried slot (some token)) (surfaces.set kind { surface with tokens }) := by
  have audited := (balanced.own kind surface own).lift inside within
    (ofKind_eq_some_iff.mpr ⟨lay, isOwn⟩) (ofKind_eq_none handsFree) erased
  rw [← ofKind_clear, ← ofKind_put isOwn] at audited
  refine balanced.entry own audited
    (fun other different => ofKind_update_of_ne different (kind_of_some lay isOwn) none_held)
    (fun other different => ofKind_update_of_ne different (kind_of_none handsFree)
      (kind_of_some rfl isOwn))
    (proper_update balanced.lying none_held)
    (proper_update balanced.carried ?_)
  intro held here
  cases here
  exact balanced.lying offset _ lay

theorem lower (balanced : Balanced size capacity lying carried surfaces)
    (own : surfaces[kind]? = some surface) (inside : offset < size) (within : slot < capacity)
    (vacant : lying offset = none) (held : carried slot = some token) (isOwn : token.kind = kind) :
    Balanced size capacity (Function.update lying offset (some token))
      (Function.update carried slot none)
      (surfaces.set kind { surface with tokens := (surface.tokens.insert offset).2 }) := by
  have audited := (balanced.own kind surface own).lower inside within (ofKind_eq_none vacant)
    (ofKind_eq_some_iff.mpr ⟨held, isOwn⟩)
  rw [← ofKind_put isOwn, ← ofKind_clear] at audited
  refine balanced.entry own audited
    (fun other different => ofKind_update_of_ne different (kind_of_none vacant)
      (kind_of_some rfl isOwn))
    (fun other different => ofKind_update_of_ne different (kind_of_some held isOwn) none_held)
    (proper_update balanced.lying ?_)
    (proper_update balanced.carried none_held)
  intro put here
  cases here
  exact balanced.carried slot _ held

theorem fuse (balanced : Balanced size capacity lying carried surfaces)
    (own : surfaces[kind]? = some surface) (inside : offset < size) (within : slot < capacity)
    {under merged : Token} (lay : lying offset = some under) (underKind : under.kind = kind)
    (held : carried slot = some token) (isOwn : token.kind = kind) (mergedKind : merged.kind = kind)
    (capped : merged.atoms = min maxAtoms (under.atoms + token.atoms)) :
    Balanced size capacity (Function.update lying offset (some merged))
      (Function.update carried slot none)
      (surfaces.set kind { surface with
        live := surface.live - 1
        atoms := surface.atoms - (under.atoms + token.atoms - merged.atoms) }) := by
  have light : merged.atoms ≤ under.atoms + token.atoms := capped ▸ Nat.min_le_right _ _
  have audited := (balanced.own kind surface own).fuse inside within
    (ofKind_eq_some_iff.mpr ⟨lay, underKind⟩) (ofKind_eq_some_iff.mpr ⟨held, isOwn⟩) light
  rw [← ofKind_put mergedKind, ← ofKind_clear] at audited
  refine balanced.entry own audited
    (fun other different => ofKind_update_of_ne different (kind_of_some lay underKind)
      (kind_of_some rfl mergedKind))
    (fun other different => ofKind_update_of_ne different (kind_of_some held isOwn) none_held)
    (proper_update balanced.lying ?_)
    (proper_update balanced.carried none_held)
  intro put here
  cases here
  have proper := balanced.lying offset under lay
  refine ⟨?_, capped ▸ Nat.min_le_left _ _, ?_⟩
  · have positive := proper.positive
    have heaviest : 1 ≤ maxAtoms := by decide
    omega
  · rw [mergedKind, ← underKind]
    exact proper.known

theorem add (balanced : Balanced size capacity lying carried surfaces)
    (own : surfaces[kind]? = some surface) (inside : offset < size) (vacant : lying offset = none)
    (isOwn : token.kind = kind) (positive : 1 ≤ token.atoms) (light : token.atoms ≤ maxAtoms)
    (room : surface.live < surface.config.capacity) :
    Balanced size capacity (Function.update lying offset (some token)) carried
      (surfaces.set kind (surface.grow offset token.atoms)) := by
  have audited := (balanced.own kind surface own).add inside (ofKind_eq_none vacant) room token
  rw [← ofKind_put isOwn] at audited
  refine balanced.entry own audited
    (fun other different => ofKind_update_of_ne different (kind_of_none vacant)
      (kind_of_some rfl isOwn))
    (fun _ _ => rfl) (proper_update balanced.lying ?_) balanced.carried
  intro put here
  cases here
  exact ⟨positive, light, isOwn ▸ (List.getElem?_eq_some_iff.mp own).1⟩

theorem shift (balanced : Balanced size capacity lying carried surfaces) {target : Nat}
    (own : surfaces[kind]? = some surface) (inside : offset < size) (within : target < size)
    (lay : lying offset = some token) (isOwn : token.kind = kind) (vacant : lying target = none)
    (erased : surface.tokens.erase offset = .ok (found, tokens)) :
    Balanced size capacity
      (Function.update (Function.update lying offset none) target (some token)) carried
      (surfaces.set kind { surface with tokens := (tokens.insert target).2 }) := by
  have audited := (balanced.own kind surface own).shift inside within
    (ofKind_eq_some_iff.mpr ⟨lay, isOwn⟩) (ofKind_eq_none vacant) erased
  rw [← ofKind_clear, ← ofKind_put isOwn] at audited
  have elsewhere : target ≠ offset := by
    rintro rfl
    cases lay.symm.trans vacant
  have still : Function.update lying offset none target = none := by
    rw [Function.update_of_ne elsewhere, vacant]
  refine balanced.entry own audited ?_ (fun _ _ => rfl)
    (proper_update (proper_update balanced.lying none_held) ?_) balanced.carried
  · intro other different
    rw [ofKind_update_of_ne different (kind_of_none still) (kind_of_some rfl isOwn),
      ofKind_update_of_ne different (kind_of_some lay isOwn) none_held]
  · intro put here
    cases here
    exact balanced.lying offset _ lay

theorem lose (balanced : Balanced size capacity lying carried surfaces)
    (own : surfaces[kind]? = some surface) (within : slot < capacity)
    (held : carried slot = some token) (isOwn : token.kind = kind) :
    Balanced size capacity lying (Function.update carried slot none)
      (surfaces.set kind (surface.forget token)) := by
  have audited := (balanced.own kind surface own).lose within
    (ofKind_eq_some_iff.mpr ⟨held, isOwn⟩)
  rw [← ofKind_clear] at audited
  exact balanced.entry own audited (fun _ _ => rfl)
    (fun other different => ofKind_update_of_ne different (kind_of_some held isOwn) none_held)
    balanced.lying (proper_update balanced.carried none_held)

end Balanced

end Vivarium
