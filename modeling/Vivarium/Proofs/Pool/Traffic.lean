import Vivarium.Proofs.Pool.Slots

/-!
# Traffic through a pool

A pool does not know whether its owner uses it well: slots may be named that do not
exist, be removed twice, or get back an organism that was never lent. Whatever is asked
of it, in any order, it stays a map from slots to organisms that loses none of them.

`Traffic` is what the owner can write down from the answers alone: which organisms went
into a slot, which came out again, and which slots were freed and not used since.
`Balanced` says how a pool agrees with these notes; it holds of a new pool and every
request keeps it (`Balanced.serve`).
-/
namespace Vivarium

/-- The slot counts as used: by an organism, or by one that is out of the pool. -/
def PoolSlot.isAllocated : PoolSlot → Bool
  | .free => false
  | .lent | .live _ => true

namespace Pool

/-- What the owner of a pool may ask of it. -/
inductive Request where
  | insert (org : Organism)
  | remove (slot : Nat)
  | take (slot : Nat)
  | restore (slot : Nat) (org : Organism)
  | release (slot : Nat)

/-- The owner's notes on the requests made so far. -/
structure Traffic where
  /-- Organisms that went into a slot, by `insert` or `restore`. -/
  stored : List Organism := []
  /-- Organisms that came out of a slot, by `remove` or `take`. -/
  handed : List Organism := []
  /-- Slots freed and not used since, the one freed last first. -/
  freed : List Nat := []

/-- Ask one thing of the pool and note what came of it. -/
def Request.serve (traffic : Traffic) (pool : Pool) : Request → Outcome (Traffic × Pool)
  | .insert org => do
    let (answer, next) ← pool.insert org
    match answer with
    | none => return (traffic, next)
    | some slot =>
      return ({ traffic with
        stored := org :: traffic.stored, freed := traffic.freed.erase slot }, next)
  | .remove slot => do
    let (answer, next) ← pool.remove slot
    match answer with
    | none => return (traffic, next)
    | some org =>
      return ({ traffic with
        handed := org :: traffic.handed, freed := slot :: traffic.freed }, next)
  | .take slot =>
    match pool.take slot with
    | none => return (traffic, pool)
    | some (org, next) => return ({ traffic with handed := org :: traffic.handed }, next)
  | .restore slot org =>
    if pool.isLent slot then
      return ({ traffic with stored := org :: traffic.stored }, pool.restore slot org)
    else return (traffic, pool.restore slot org)
  | .release slot => do
    let next ← pool.release slot
    if pool.isLent slot then
      return ({ traffic with freed := slot :: traffic.freed }, next)
    else return (traffic, next)

/-- Ask one thing after another. -/
def serveAll (traffic : Traffic) (pool : Pool) : List Request → Outcome (Traffic × Pool)
  | [] => return (traffic, pool)
  | request :: requests => do
    let (traffic, pool) ← request.serve traffic pool
    pool.serveAll traffic requests

/-! ### The organisms in a pool -/

/-- The organisms that the slots hold, in the order of the slots. -/
def residents (pool : Pool) : List Organism := pool.slots.toList.filterMap PoolSlot.organism?

theorem liveBelow_eq (pool : Pool) (bound : Nat) (found : List (Nat × Organism)) :
    pool.liveBelow bound found =
      ((List.range bound).filterMap fun slot => (pool.get? slot).map (slot, ·)) ++ found := by
  induction bound generalizing found with
  | zero => rfl
  | succ bound ih =>
    unfold liveBelow
    rw [List.range_succ, List.filterMap_append]
    split
    next vacant => rw [ih]; simp [vacant]
    next org live => rw [ih]; simp [live]

/-- Reading a list position by position. -/
theorem map_getElem?_range {α : Type} (entries : List α) :
    (List.range entries.length).map (entries[·]?) = entries.map some := by
  apply List.ext_getElem
  · simp
  · intro position _ _
    simp

theorem toList_map_snd (pool : Pool) : pool.toList.map Prod.snd = pool.residents := by
  have read : pool.slots.toList.filterMap PoolSlot.organism? =
      (pool.slots.toList.map some).filterMap (·.bind PoolSlot.organism?) := by
    rw [List.filterMap_map]
    rfl
  unfold toList residents capacity
  rw [read, ← map_getElem?_range, List.filterMap_map, liveBelow_eq, List.append_nil,
    List.map_filterMap, get?_eq_bind]
  simp [Function.comp_def]

/-- The stack is as long as there are slots not in use, so the count is that of the others. -/
theorem Consistent.size_eq_countP {pool : Pool} (consistent : pool.Consistent) :
    pool.size = pool.slots.toList.countP PoolSlot.isAllocated := by
  have stack : pool.free.Perm ((List.range pool.capacity).filter
      fun slot => pool.slots[slot]?.any (!·.isAllocated)) := by
    rw [List.perm_ext_iff_of_nodup consistent.nodup (List.nodup_range.filter _)]
    intro slot
    rw [consistent.mem_free, List.mem_filter, List.mem_range]
    cases held : pool.slots[slot]? with
    | none => simp
    | some state =>
      have inside := lt_capacity_of_getElem? held
      cases state <;> simp [inside, PoolSlot.isAllocated]
  have unused : pool.free.length = pool.slots.toList.countP (!·.isAllocated) := by
    calc pool.free.length
        = ((List.range pool.capacity).map (pool.slots.toList[·]?)).countP
            (·.any (!·.isAllocated)) := by
          rw [stack.length_eq, ← List.countP_eq_length_filter, List.countP_map]
          simp [Function.comp_def]
      _ = pool.slots.toList.countP (!·.isAllocated) := by
          rw [capacity, ← Array.length_toList, map_getElem?_range, List.countP_map]
          rfl
  have total := consistent.allocated
  have split := List.length_eq_countP_add_countP PoolSlot.isAllocated (l := pool.slots.toList)
  simp only [Bool.not_eq_true, Bool.decide_eq_false] at split
  rw [capacity, ← Array.length_toList] at total
  unfold size
  omega

theorem filterMap_cons_eq_append {α β : Type} (read : α → Option β) (first : α)
    (rest : List α) :
    (first :: rest).filterMap read = (read first).toList ++ rest.filterMap read := by
  rw [List.filterMap_cons]
  cases read first <;> rfl

/-- Writing one slot exchanges the organism it held for the one it holds now. -/
theorem residents_setSlot (pool : Pool) {slot : Nat} {before : PoolSlot}
    (held : pool.slots[slot]? = some before) (after : PoolSlot) (free : List Nat)
    (allocated : Nat) :
    (before.organism?.toList ++
        residents { slots := pool.slots.setIfInBounds slot after, free, allocated }).Perm
      (after.organism?.toList ++ pool.residents) := by
  obtain ⟨inside, rfl⟩ := Array.getElem?_eq_some_iff.mp held
  have within : slot < pool.slots.toList.length := inside
  have now : (pool.slots.setIfInBounds slot after).toList =
      pool.slots.toList.take slot ++ after :: pool.slots.toList.drop (slot + 1) := by
    rw [Array.toList_setIfInBounds, List.set_eq_take_cons_drop after within]
  have once : pool.slots.toList =
      pool.slots.toList.take slot ++ pool.slots[slot] :: pool.slots.toList.drop (slot + 1) := by
    rw [← Array.getElem_toList inside, List.getElem_cons_drop, List.take_append_drop]
  generalize pool.slots.toList.take slot = front, pool.slots.toList.drop (slot + 1) = back
    at now once
  unfold residents
  rw [now, once]
  simp only [List.filterMap_append, filterMap_cons_eq_append]
  calc pool.slots[slot].organism?.toList ++ (front.filterMap PoolSlot.organism? ++
        (after.organism?.toList ++ back.filterMap PoolSlot.organism?))
      |>.Perm _ := List.perm_append_comm_assoc _ _ _
    _ |>.Perm _ := (List.perm_append_comm_assoc _ _ _).append_left _
    _ |>.Perm _ := List.perm_append_comm_assoc _ _ _

/-! ### What the notes say about the pool -/

/-- A pool of so many slots agrees with the notes on it. -/
structure Balanced (capacity : Nat) (traffic : Traffic) (pool : Pool) : Prop where
  consistent : pool.Consistent
  capacity : pool.capacity = capacity
  freed : traffic.freed <+: pool.free
  custody : (pool.residents ++ traffic.handed).Perm traffic.stored

theorem balanced_empty (capacity : Nat) : Balanced capacity {} (empty capacity) where
  consistent := consistent_empty capacity
  capacity := by simp [empty, Pool.capacity]
  freed := List.nil_prefix
  custody := by
    have vacant : (empty capacity).residents = [] := by
      simp [residents, empty, PoolSlot.organism?]
    rw [vacant]
    exact .nil

variable {capacity : Nat} {traffic : Traffic} {pool : Pool}

/-- An organism goes into the top of the stack, which was not in use. -/
theorem insert_of_stack (consistent : pool.Consistent) (room : pool.capacity < limit64)
    {slot : Nat} {rest : List Nat} (stack : pool.free = slot :: rest) (org : Organism) :
    pool.slots[slot]? = some .free ∧
      pool.insert org = .ok (some slot,
        { slots := pool.slots.setIfInBounds slot (.live org), free := rest,
          allocated := pool.allocated + 1 }) := by
  have vacant : pool.slots[slot]? = some .free :=
    (consistent.mem_free slot).mp (by simp [stack])
  have inside : slot < pool.slots.size := lt_capacity_of_getElem? vacant
  have counted : Count.add limit64 pool.allocated 1 = .ok (pool.allocated + 1) := by
    have total := consistent.allocated
    rw [stack, List.length_cons] at total
    exact (Count.add_eq_ok_iff _ _ _ _).mpr ⟨by omega, rfl⟩
  refine ⟨vacant, ?_⟩
  unfold insert
  rw [stack]
  simp only [if_pos inside, counted]
  rfl

theorem insert_of_full (full : pool.free = []) (org : Organism) :
    pool.insert org = .ok (none, pool) := by
  unfold insert
  rw [full]

theorem freeSlot_of_allocated (consistent : pool.Consistent) {slot : Nat} {state : PoolSlot}
    (held : pool.slots[slot]? = some state) (wasAllocated : state ≠ .free) :
    pool.freeSlot slot = .ok
      { slots := pool.slots.setIfInBounds slot .free, free := slot :: pool.free,
        allocated := pool.allocated - 1 } := by
  have counted : Count.sub pool.allocated 1 = .ok (pool.allocated - 1) :=
    (Count.sub_eq_ok_iff _ _ _).mpr ⟨consistent.allocated_pos held wasAllocated, rfl⟩
  unfold freeSlot
  rw [counted]
  rfl

/-- Nothing is lost when a slot is written: what it held is handed out, what it holds now
was stored. -/
theorem custody_setSlot {handed stored : List Organism}
    (custody : (pool.residents ++ handed).Perm stored) {slot : Nat} {before : PoolSlot}
    (held : pool.slots[slot]? = some before) (after : PoolSlot) (free : List Nat)
    (allocated : Nat) :
    (residents { slots := pool.slots.setIfInBounds slot after, free, allocated } ++
        (before.organism?.toList ++ handed)).Perm (after.organism?.toList ++ stored) := by
  have exchanged := residents_setSlot pool held after free allocated
  generalize residents { slots := pool.slots.setIfInBounds slot after, free, allocated } = now at *
  calc now ++ (before.organism?.toList ++ handed)
      |>.Perm (before.organism?.toList ++ (now ++ handed)) := List.perm_append_comm_assoc _ _ _
    _ |>.Perm (before.organism?.toList ++ now ++ handed) := by rw [List.append_assoc]
    _ |>.Perm (after.organism?.toList ++ pool.residents ++ handed) := exchanged.append_right _
    _ |>.Perm (after.organism?.toList ++ (pool.residents ++ handed)) := by rw [List.append_assoc]
    _ |>.Perm (after.organism?.toList ++ stored) := custody.append_left _

/-! ### One request -/

/-- A slot in use is freed, and it is used next. -/
theorem Balanced.freeSlot (balanced : Balanced capacity traffic pool) {slot : Nat}
    {state : PoolSlot} (held : pool.slots[slot]? = some state) (wasAllocated : state ≠ .free) :
    ∃ next, pool.freeSlot slot = .ok next ∧
      Balanced capacity
        { traffic with handed := state.organism?.toList ++ traffic.handed,
                       freed := slot :: traffic.freed } next :=
  ⟨_, freeSlot_of_allocated balanced.consistent held wasAllocated,
    { consistent := balanced.consistent.vacate held wasAllocated
      capacity := by simpa [Pool.capacity] using balanced.capacity
      freed := List.cons_prefix_cons.mpr ⟨rfl, balanced.freed⟩
      custody := custody_setSlot balanced.custody held .free _ _ }⟩

/-- A slot stays in use and holds something else. -/
theorem Balanced.setSlot (balanced : Balanced capacity traffic pool) {slot : Nat}
    {before : PoolSlot} (held : pool.slots[slot]? = some before) (after : PoolSlot)
    (wasAllocated : before ≠ .free) (isAllocated : after ≠ .free) :
    Balanced capacity
      { traffic with stored := after.organism?.toList ++ traffic.stored,
                     handed := before.organism?.toList ++ traffic.handed }
      { pool with slots := pool.slots.setIfInBounds slot after } where
  consistent := balanced.consistent.setSlot held wasAllocated isAllocated
  capacity := by simpa [Pool.capacity] using balanced.capacity
  freed := balanced.freed
  custody := custody_setSlot balanced.custody held after _ _

/-- The slot that is used is the one noted as freed last, if any is, so the notes are right
about the rest of the stack. -/
theorem freed_erase {freed free : List Nat} {slot : Nat}
    (noted : freed <+: slot :: free) : freed.erase slot <+: free := by
  cases freed with
  | nil => exact List.nil_prefix
  | cons first rest =>
    obtain ⟨rfl, below⟩ := List.cons_prefix_cons.mp noted
    rw [List.erase_cons_head]
    exact below

theorem Balanced.occupy (balanced : Balanced capacity traffic pool) {slot : Nat}
    {rest : List Nat} (stack : pool.free = slot :: rest)
    (vacant : pool.slots[slot]? = some .free) (org : Organism) :
    Balanced capacity
      { traffic with stored := org :: traffic.stored, freed := traffic.freed.erase slot }
      { slots := pool.slots.setIfInBounds slot (.live org), free := rest,
        allocated := pool.allocated + 1 } where
  consistent := balanced.consistent.occupy stack org
  capacity := by simpa [Pool.capacity] using balanced.capacity
  freed := by
    have noted := balanced.freed
    rw [stack] at noted
    exact freed_erase noted
  custody := custody_setSlot balanced.custody vacant (.live org) rest _

theorem Balanced.serve_insert (balanced : Balanced capacity traffic pool)
    (room : capacity < limit64) (org : Organism) :
    ∃ traffic' next, (Request.insert org).serve traffic pool = .ok (traffic', next) ∧
      Balanced capacity traffic' next := by
  have consistent := balanced.consistent
  cases stack : pool.free with
  | nil =>
    refine ⟨traffic, pool, ?_, balanced⟩
    simp only [Request.serve, insert_of_full stack]
    rfl
  | cons slot rest =>
    obtain ⟨vacant, inserted⟩ :=
      insert_of_stack consistent (balanced.capacity.symm ▸ room) stack org
    refine ⟨_, _, ?_, balanced.occupy stack vacant org⟩
    simp only [Request.serve, inserted]
    rfl

theorem Balanced.serve_remove (balanced : Balanced capacity traffic pool) (slot : Nat) :
    ∃ traffic' next, (Request.remove slot).serve traffic pool = .ok (traffic', next) ∧
      Balanced capacity traffic' next := by
  cases live : pool.get? slot with
  | none =>
    refine ⟨traffic, pool, ?_, balanced⟩
    simp only [Request.serve, remove, live]
    rfl
  | some org =>
    have held := (pool.get?_eq_some_iff slot org).mp live
    obtain ⟨next, freed, after⟩ := balanced.freeSlot held (by simp)
    refine ⟨_, next, ?_, after⟩
    simp only [Request.serve, remove, live, freed]
    rfl

theorem Balanced.serve_take (balanced : Balanced capacity traffic pool) (slot : Nat) :
    ∃ traffic' next, (Request.take slot).serve traffic pool = .ok (traffic', next) ∧
      Balanced capacity traffic' next := by
  cases live : pool.get? slot with
  | none =>
    refine ⟨traffic, pool, ?_, balanced⟩
    simp only [Request.serve, take, live]
    rfl
  | some org =>
    have held := (pool.get?_eq_some_iff slot org).mp live
    refine ⟨_, _, ?_, balanced.setSlot held .lent (by simp) (by simp)⟩
    simp only [Request.serve, take, live]
    rfl

theorem Balanced.serve_restore (balanced : Balanced capacity traffic pool) (slot : Nat)
    (org : Organism) :
    ∃ traffic' next, (Request.restore slot org).serve traffic pool = .ok (traffic', next) ∧
      Balanced capacity traffic' next := by
  cases lent : pool.isLent slot with
  | false =>
    refine ⟨traffic, pool, ?_, balanced⟩
    simp only [Request.serve, restore, lent]
    rfl
  | true =>
    have held := (pool.isLent_iff slot).mp lent
    refine ⟨_, _, ?_, balanced.setSlot held (.live org) (by simp) (by simp)⟩
    simp only [Request.serve, restore, lent]
    rfl

theorem Balanced.serve_release (balanced : Balanced capacity traffic pool) (slot : Nat) :
    ∃ traffic' next, (Request.release slot).serve traffic pool = .ok (traffic', next) ∧
      Balanced capacity traffic' next := by
  cases lent : pool.isLent slot with
  | false =>
    refine ⟨traffic, pool, ?_, balanced⟩
    simp only [Request.serve, release, lent]
    rfl
  | true =>
    have held := (pool.isLent_iff slot).mp lent
    obtain ⟨next, freed, after⟩ := balanced.freeSlot held (by simp)
    refine ⟨_, next, ?_, after⟩
    simp only [Request.serve, release, lent, freed]
    rfl

/-- Every request has an answer, whatever slot it names, and the notes stay right. -/
theorem Balanced.serve (balanced : Balanced capacity traffic pool) (room : capacity < limit64)
    (request : Request) :
    ∃ traffic' next, request.serve traffic pool = .ok (traffic', next) ∧
      Balanced capacity traffic' next := by
  cases request with
  | insert org => exact balanced.serve_insert room org
  | remove slot => exact balanced.serve_remove slot
  | take slot => exact balanced.serve_take slot
  | restore slot org => exact balanced.serve_restore slot org
  | release slot => exact balanced.serve_release slot

/-- Induction on the requests; `Balanced` is the invariant. -/
theorem Balanced.serveAll (balanced : Balanced capacity traffic pool)
    (room : capacity < limit64) (requests : List Request) :
    ∃ traffic' next, pool.serveAll traffic requests = .ok (traffic', next) ∧
      Balanced capacity traffic' next := by
  induction requests generalizing traffic pool with
  | nil => exact ⟨traffic, pool, rfl, balanced⟩
  | cons request requests ih =>
    obtain ⟨traffic', next, served, after⟩ := balanced.serve room request
    obtain ⟨last, final, rest, done⟩ := ih after
    refine ⟨last, final, ?_, done⟩
    unfold Pool.serveAll
    rw [served]
    exact rest

/-! ### Any requests -/

/-- An organism is refused if no slot is free, and else goes into one that is; the other
slots stay as they are. -/
theorem Balanced.insert_spec (balanced : Balanced capacity traffic pool)
    (room : capacity < limit64) (org : Organism) :
    ∃ answer next, pool.insert org = .ok (answer, next) ∧
      (answer = none ↔ ∀ state ∈ pool.slots.toList, state.isAllocated = true) ∧
      (answer = none → next = pool) ∧
      ∀ slot, answer = some slot → pool.slots[slot]? = some .free ∧
        next.slots = pool.slots.setIfInBounds slot (.live org) := by
  have consistent := balanced.consistent
  cases stack : pool.free with
  | nil =>
    refine ⟨none, pool, insert_of_full stack org, ?_, fun _ => rfl, by simp⟩
    simp only [true_iff]
    intro state member
    obtain ⟨slot, inside, rfl⟩ := List.getElem_of_mem member
    cases held : pool.slots.toList[slot] with
    | lent | live => rfl
    | free =>
      have onStack : slot ∈ pool.free := by
        rw [consistent.mem_free, ← Array.getElem?_toList, List.getElem?_eq_getElem inside, held]
      simp [stack] at onStack
  | cons slot rest =>
    obtain ⟨vacant, inserted⟩ :=
      insert_of_stack consistent (balanced.capacity.symm ▸ room) stack org
    refine ⟨some slot, _, inserted, ?_, by simp, ?_⟩
    · simp only [reduceCtorEq, false_iff]
      intro allocated
      have used := allocated .free (Array.mem_toList_iff.mpr (Array.mem_of_getElem? vacant))
      cases used
    · intro other same
      cases same
      exact ⟨vacant, rfl⟩

/-- The slot noted as freed last is used next. -/
theorem Balanced.insert_freed (balanced : Balanced capacity traffic pool)
    (room : capacity < limit64) {slot : Nat} {earlier : List Nat}
    (freed : traffic.freed = slot :: earlier) (org : Organism) :
    ∃ next, pool.insert org = .ok (some slot, next) := by
  obtain ⟨rest, stack⟩ := balanced.freed
  rw [freed, List.cons_append] at stack
  exact ⟨_, (insert_of_stack balanced.consistent (balanced.capacity.symm ▸ room)
    stack.symm org).2⟩

/-- Of the organisms with a mark, say an identity, one more went into the pool than came out of
it or as many: then one slot has such an organism, or none has. -/
theorem Balanced.onePlace (balanced : Balanced capacity traffic pool) (mark : Organism → Bool)
    (once : traffic.stored.countP mark ≤ traffic.handed.countP mark + 1) :
    ((∃! slot, ∃ org, pool.get? slot = some org ∧ mark org = true) ∧
        traffic.stored.countP mark = traffic.handed.countP mark + 1) ∨
      (∀ slot org, pool.get? slot = some org → mark org = false) ∧
        traffic.stored.countP mark = traffic.handed.countP mark := by
  have counts := balanced.custody.countP_eq mark
  rw [List.countP_append, ← toList_map_snd, List.countP_map, List.countP_eq_length_filter]
    at counts
  have listed : ∀ slot org, (slot, org) ∈ pool.toList.filter (mark ∘ Prod.snd) ↔
      pool.get? slot = some org ∧ mark org = true := by
    intro slot org
    rw [List.mem_filter, pool.mem_toList, Function.comp_apply]
  cases marked : pool.toList.filter (mark ∘ Prod.snd) with
  | nil =>
    rw [marked, List.length_nil] at counts
    refine .inr ⟨?_, by omega⟩
    intro slot org live
    rw [Bool.eq_false_iff]
    intro bears
    have member := (listed slot org).mpr ⟨live, bears⟩
    rw [marked] at member
    cases member
  | cons entry others =>
    rw [marked, List.length_cons] at counts
    obtain rfl : others = [] := by
      rw [← List.length_eq_zero_iff]
      omega
    obtain ⟨slot, org⟩ := entry
    rw [List.length_nil] at counts
    refine .inl ⟨⟨slot, ⟨org, (listed slot org).mp (by simp [marked])⟩, ?_⟩, by omega⟩
    rintro other ⟨org', found⟩
    have member := (listed other org').mpr found
    rw [marked, List.mem_singleton] at member
    exact congrArg Prod.fst member

/-- A new pool serves any requests in any order without a fault. Afterwards its stack
holds exactly the free slots, each once; its size is the number of slots in use, which is
what the stack leaves of the capacity; an organism that is stored next goes into a slot
that is free, the one freed last before any other, and is refused only if there is none;
and the organisms stored so far are those in the slots together with those handed out.
So an organism of which its owner makes no copies, told by any mark that it keeps, is in one
slot, or has been handed out for each time that it was stored. -/
theorem serveAll_slotMap {start : Pool} (created : Pool.create capacity = .ok start)
    (requests : List Request) :
    ∃ traffic pool, start.serveAll {} requests = .ok (traffic, pool) ∧
      pool.capacity = capacity ∧
      pool.free.Nodup ∧
      (∀ slot, slot ∈ pool.free ↔ pool.slots[slot]? = some .free) ∧
      pool.size = pool.slots.toList.countP PoolSlot.isAllocated ∧
      pool.free.length ≤ capacity ∧ pool.size = capacity - pool.free.length ∧
      (∀ org, ∃ answer next, pool.insert org = .ok (answer, next) ∧
        (answer = none ↔ ∀ state ∈ pool.slots.toList, state.isAllocated = true) ∧
        (answer = none → next = pool) ∧
        ∀ slot, answer = some slot → pool.slots[slot]? = some .free ∧
          next.slots = pool.slots.setIfInBounds slot (.live org)) ∧
      (∀ slot earlier, traffic.freed = slot :: earlier →
        ∀ org, ∃ next, pool.insert org = .ok (some slot, next)) ∧
      (pool.toList.map Prod.snd ++ traffic.handed).Perm traffic.stored ∧
      ∀ mark : Organism → Bool,
        traffic.stored.countP mark ≤ traffic.handed.countP mark + 1 →
          ((∃! slot, ∃ org, pool.get? slot = some org ∧ mark org = true) ∧
              traffic.stored.countP mark = traffic.handed.countP mark + 1) ∨
            (∀ slot org, pool.get? slot = some org → mark org = false) ∧
              traffic.stored.countP mark = traffic.handed.countP mark := by
  obtain ⟨_, reserved, answer⟩ := (bind_eq_ok_iff _ _ _).mp created
  cases answer
  have room : capacity < limit64 := by
    have fits := (reserve_eq_ok_iff _ _).mp reserved
    unfold Organism.bytes maxBytes at fits
    unfold limit64
    omega
  obtain ⟨traffic, pool, served, balanced⟩ := (balanced_empty capacity).serveAll room requests
  have total := balanced.consistent.allocated
  rw [balanced.capacity] at total
  refine ⟨traffic, pool, served, balanced.capacity, balanced.consistent.nodup,
    balanced.consistent.mem_free, balanced.consistent.size_eq_countP, by omega, ?_,
    balanced.insert_spec room, ?_, toList_map_snd pool ▸ balanced.custody, balanced.onePlace⟩
  · unfold size
    omega
  · intro slot earlier freed org
    exact balanced.insert_freed room freed org

/-- Two organisms fill a pool of two slots and a third is refused; both leave, and slots are
removed, lent, brought back and released again that are no longer in use, or do not exist. -/
def misuse (org : Organism) : List Request :=
  [.insert org, .insert org, .insert org, .remove 0, .remove 0, .release 1, .restore 0 org,
   .take 1, .take 1, .release 1, .release 1, .restore 7 org]

/-- Both slots are free afterwards, and the one released last is used next. -/
theorem serveAll_slotMap_misuse :
    ∃ traffic pool, (empty 2).serveAll {} (misuse (.fresh 0 0 1 .standard)) = .ok (traffic, pool) ∧
      traffic.freed = [1, 0] ∧ pool.free.Nodup ∧ pool.size = 2 - pool.free.length ∧
      ∃ next, pool.insert (.fresh 1 0 1 .standard) = .ok (some 1, next) := by
  obtain ⟨traffic, pool, served, -, nodup, -, -, -, size, -, reused, -⟩ :=
    serveAll_slotMap (rfl : create 2 = .ok (empty 2)) (misuse (.fresh 0 0 1 .standard))
  have freed : traffic.freed = [1, 0] := by
    cases served
    rfl
  exact ⟨traffic, pool, served, freed, nodup, size, reused 1 [0] freed _⟩

end Pool

end Vivarium
