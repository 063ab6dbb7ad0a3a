import Vivarium.BlockTable

/-!
# The nesting of blocks

Before each line of a genome some openers wait for their end, the innermost
first. An opener joins them, and an end takes the innermost away, so the list
that an opener found is there again behind its end. The targets of a block table
are read off this list: an end leads to the opener that it took away, and that
opener leads behind the end.
-/
namespace Vivarium.BlockTable

/-- The openers that wait for their end before a line is read, the innermost first. -/
def waiting (code : Genome) : (line : Nat) → List Nat
  | 0 => []
  | line + 1 =>
    match opcodeAt? code line with
    | none => waiting code line
    | some opcode =>
      if opcode.opensBlock then line :: waiting code line
      else if opcode = .close then (waiting code line).tail
      else waiting code line

/-- The line holds the opener of a block. -/
def Opens (code : Genome) (line : Nat) : Prop :=
  ∃ opcode, opcodeAt? code line = some opcode ∧ opcode.opensBlock = true

/-- The line neither opens nor closes a block. -/
def Plain (code : Genome) (line : Nat) : Prop :=
  ∀ opcode, opcodeAt? code line = some opcode → opcode.opensBlock = false ∧ opcode ≠ .close

variable {code : Genome} {line opener : Nat}

/-! ### From line to line -/

theorem waiting_of_opens (opens : Opens code line) :
    waiting code (line + 1) = line :: waiting code line := by
  obtain ⟨opcode, found, opens⟩ := opens
  simp [waiting, found, opens]

theorem waiting_of_close (closes : opcodeAt? code line = some .close) :
    waiting code (line + 1) = (waiting code line).tail := by
  simp [waiting, closes, Opcode.opensBlock]

theorem waiting_of_plain (plain : Plain code line) :
    waiting code (line + 1) = waiting code line := by
  rw [waiting]
  split
  next => rfl
  next opcode found =>
    obtain ⟨opensNot, closesNot⟩ := plain opcode found
    simp [opensNot, closesNot]

/-- Each line opens a block, closes one or does neither. -/
theorem opens_or_close_or_plain (code : Genome) (line : Nat) :
    Opens code line ∨ opcodeAt? code line = some .close ∨ Plain code line := by
  cases found : opcodeAt? code line with
  | none => exact .inr (.inr fun opcode here => by rw [found] at here; cases here)
  | some opcode =>
    cases opens : opcode.opensBlock with
    | true => exact .inl ⟨opcode, found, opens⟩
    | false =>
      by_cases closes : opcode = .close
      · exact .inr (.inl (by rw [closes]))
      · refine .inr (.inr fun other here => ?_)
        rw [found, Option.some.injEq] at here
        exact here ▸ ⟨opens, closes⟩

theorem Opens.not_close (opens : Opens code line) : opcodeAt? code line ≠ some .close := by
  obtain ⟨opcode, found, opens⟩ := opens
  rw [found]
  rintro ⟨⟩
  cases opens

theorem Opens.lt_length (opens : Opens code line) : line < code.length := by
  obtain ⟨opcode, found, -⟩ := opens
  apply Nat.lt_of_not_le
  intro outside
  simp [opcodeAt?, List.getElem?_eq_none outside] at found

/-! ### Who waits -/

/-- Only openers of earlier lines wait. -/
theorem of_mem_waiting (waits : opener ∈ waiting code line) :
    opener < line ∧ Opens code opener := by
  induction line with
  | zero => cases waits
  | succ line ih =>
    have older : opener ∈ waiting code line → opener < line + 1 ∧ Opens code opener :=
      fun waits => ⟨Nat.lt_succ_of_lt (ih waits).1, (ih waits).2⟩
    rcases opens_or_close_or_plain code line with opens | closes | plain
    · rw [waiting_of_opens opens, List.mem_cons] at waits
      rcases waits with rfl | waits
      · exact ⟨Nat.lt_succ_self opener, opens⟩
      · exact older waits
    · rw [waiting_of_close closes] at waits
      exact older (List.mem_of_mem_tail waits)
    · rw [waiting_of_plain plain] at waits
      exact older waits

/-- Who waits behind a line waited before it, unless the line is its own. -/
theorem mem_waiting_of_succ (other : opener ≠ line) (waits : opener ∈ waiting code (line + 1)) :
    opener ∈ waiting code line := by
  rcases opens_or_close_or_plain code line with opens | closes | plain
  · rw [waiting_of_opens opens, List.mem_cons] at waits
    exact waits.resolve_left other
  · rw [waiting_of_close closes] at waits
    exact List.mem_of_mem_tail waits
  · rwa [waiting_of_plain plain] at waits

/-- The innermost opener is the latest. -/
theorem pairwise_waiting (code : Genome) (line : Nat) :
    (waiting code line).Pairwise (fun inner outer => outer < inner) := by
  induction line with
  | zero => exact .nil
  | succ line ih =>
    rcases opens_or_close_or_plain code line with opens | closes | plain
    · rw [waiting_of_opens opens]
      exact .cons (fun outer waits => (of_mem_waiting waits).1) ih
    · rw [waiting_of_close closes]
      exact ih.tail
    · rwa [waiting_of_plain plain]

/-- Who waited before an opener goes on waiting outside of it. -/
theorem suffix_waiting (waits : opener ∈ waiting code line) :
    opener :: waiting code opener <:+ waiting code line := by
  induction line with
  | zero => cases waits
  | succ line ih =>
    rcases opens_or_close_or_plain code line with opens | closes | plain
    · rw [waiting_of_opens opens] at waits ⊢
      rcases List.mem_cons.mp waits with rfl | waits
      · exact List.suffix_refl _
      · exact (ih waits).trans (List.suffix_cons _ _)
    · rw [waiting_of_close closes] at waits ⊢
      have before := ih (List.mem_of_mem_tail waits)
      have sorted := pairwise_waiting code line
      cases stack : waiting code line with
      | nil =>
        rw [stack] at waits
        cases waits
      | cons top rest =>
        rw [stack] at waits before sorted
        -- The opener taken away is another one, so what is left still ends in the same list.
        rcases List.suffix_cons_iff.mp before with same | within
        · rw [List.cons.injEq] at same
          obtain ⟨rfl, -⟩ := same
          exact absurd (List.rel_of_pairwise_cons sorted waits) (Nat.lt_irrefl _)
        · exact within
    · rw [waiting_of_plain plain] at waits ⊢
      exact ih waits

/-- Outside of the innermost opener wait those that waited before it. -/
theorem waiting_eq_cons {rest : List Nat} (stack : waiting code line = opener :: rest) :
    rest = waiting code opener := by
  have waits : opener ∈ waiting code line := by simp [stack]
  have sorted := pairwise_waiting code line
  have suffix := suffix_waiting waits
  rw [stack] at sorted suffix
  rcases List.suffix_cons_iff.mp suffix with same | within
  · exact (List.cons.inj same).2.symm
  · -- The opener would wait twice, but those outside of it are earlier ones.
    have again : opener ∈ rest := within.subset List.mem_cons_self
    exact absurd (List.rel_of_pairwise_cons sorted again) (Nat.lt_irrefl _)

theorem lt_of_waiting_eq_cons {rest : List Nat} (stack : waiting code line = opener :: rest) :
    opener < line := by
  have waits : opener ∈ waiting code line := by simp [stack]
  exact (of_mem_waiting waits).1

/-- An end takes the innermost opener away and leaves those that waited before it. -/
theorem waiting_after_close (closes : opcodeAt? code line = some .close) {rest : List Nat}
    (stack : waiting code line = opener :: rest) :
    waiting code (line + 1) = waiting code opener := by
  rw [waiting_of_close closes, stack, List.tail_cons]
  exact waiting_eq_cons stack

/-- An opener still waits, or an end has met it. -/
theorem waits_or_closed (opens : Opens code opener) {line : Nat} (later : opener < line) :
    opener ∈ waiting code line ∨ ∃ close, opener < close ∧ close < line ∧
      opcodeAt? code close = some .close ∧
      waiting code close = opener :: waiting code opener := by
  -- By induction on the line: an end meets this opener or one inside of it.
  induction line with
  | zero => omega
  | succ line ih =>
    by_cases last : opener = line
    · subst last
      exact .inl (by simp [waiting_of_opens opens])
    rcases ih (by omega) with waits | ⟨close, after, before, closes, stack⟩
    · rcases opens_or_close_or_plain code line with opens | closes | plain
      · exact .inl (by simp [waiting_of_opens opens, waits])
      · cases stack : waiting code line with
        | nil =>
          rw [stack] at waits
          cases waits
        | cons top rest =>
          rw [stack, List.mem_cons] at waits
          rcases waits with rfl | waits
          · refine .inr ⟨line, by omega, by omega, closes, ?_⟩
            rw [stack, waiting_eq_cons stack]
          · exact .inl (by rw [waiting_of_close closes, stack]; exact waits)
      · exact .inl (by rwa [waiting_of_plain plain])
    · exact .inr ⟨close, after, by omega, closes, stack⟩

/-! ### The table, line by line -/

/-- The targets found when so many lines have been read. -/
def settled (code : Genome) : (line : Nat) → Array Nat
  | 0 => Array.replicate code.length code.length
  | line + 1 =>
    match code[line]? with
    | none => settled code line
    | some word => (scanWord (settled code line) (waiting code line) word line).1

theorem size_settled (code : Genome) (line : Nat) : (settled code line).size = code.length := by
  induction line with
  | zero => simp [settled]
  | succ line ih =>
    rw [settled]
    split
    next => exact ih
    next => rw [size_scanWord, ih]

theorem opcodeAt?_of_getElem? {word : Int} (read : code[line]? = some word) :
    opcodeAt? code line = (Instruction.decode word).opcode? := by
  simp [opcodeAt?, read]

theorem scanWord_waiting {word : Int} (read : code[line]? = some word) (targets : Array Nat) :
    (scanWord targets (waiting code line) word line).2 = waiting code (line + 1) := by
  have decoded := opcodeAt?_of_getElem? read
  unfold scanWord
  split
  next unknown => simp [waiting, decoded, unknown]
  next opcode known =>
    split
    next opens => simp [waiting, decoded, known, opens]
    next opensNot =>
      split
      next closes => split <;> simp_all [waiting, Opcode.opensBlock]
      next closesNot => simp_all [waiting]

theorem scan_settled (before rest : Genome) :
    scan (settled (before ++ rest) before.length) (waiting (before ++ rest) before.length) rest
      before.length = settled (before ++ rest) (before ++ rest).length := by
  -- By induction on the words that are left; each one read joins those before.
  induction rest generalizing before with
  | nil => simp [scan]
  | cons word rest ih =>
    have read : (before ++ word :: rest)[before.length]? = some word := by simp
    have next := ih (before ++ [word])
    simp only [List.append_assoc, List.singleton_append, List.length_append,
      List.length_singleton] at next
    rw [List.length_append, ← next, scan]
    simp only
    rw [scanWord_waiting read]
    congr 1
    simp [settled]

theorem targets_ofGenome (code : Genome) :
    (ofGenome code).targets = settled code code.length := scan_settled [] code

/-- What an end writes: its own target and that of the opener it meets. -/
theorem settled_of_close (closes : opcodeAt? code line = some .close) :
    settled code (line + 1) =
      match waiting code line with
      | [] => (settled code line).setIfInBounds line line
      | opener :: _ =>
        ((settled code line).setIfInBounds opener (line + 1)).setIfInBounds line opener := by
  cases read : code[line]? with
  | none => simp [opcodeAt?, read] at closes
  | some word =>
    rw [opcodeAt?_of_getElem? read] at closes
    simp only [settled, read, scanWord, closes, Opcode.opensBlock]
    cases waiting code line <;> rfl

/-- A line that is no end writes nothing. -/
theorem settled_of_not_close (closesNot : opcodeAt? code line ≠ some .close) :
    settled code (line + 1) = settled code line := by
  cases read : code[line]? with
  | none => simp [settled, read]
  | some word =>
    rw [opcodeAt?_of_getElem? read] at closesNot
    simp only [settled, read, scanWord]
    split
    next => rfl
    next opcode known =>
      split
      next => rfl
      next =>
        rw [if_neg]
        rintro rfl
        exact closesNot known

/-- A line writes no target but its own and those of waiting openers. -/
theorem settled_succ_of_not_mem {place : Nat} (other : place ≠ line)
    (waitsNot : place ∉ waiting code line) :
    (settled code (line + 1))[place]? = (settled code line)[place]? := by
  by_cases closes : opcodeAt? code line = some .close
  · rw [settled_of_close closes]
    cases stack : waiting code line with
    | nil => simp [Ne.symm other]
    | cons top rest =>
      have notTop : top ≠ place := by
        rintro rfl
        simp [stack] at waitsNot
      simp [Ne.symm other, notTop]
  · rw [settled_of_not_close closes]

/-- Who has been read and does not wait never waits again. -/
theorem not_mem_waiting_add {place : Nat} (read : place < line)
    (waitsNot : place ∉ waiting code line) (more : Nat) : place ∉ waiting code (line + more) := by
  induction more with
  | zero => exact waitsNot
  | succ more ih =>
    intro waits
    have other : place ≠ line + more := by omega
    exact ih (mem_waiting_of_succ other waits)

/-- What is settled stays. -/
theorem settled_add {place : Nat} (read : place < line) (waitsNot : place ∉ waiting code line)
    (more : Nat) : (settled code (line + more))[place]? = (settled code line)[place]? := by
  induction more with
  | zero => rfl
  | succ more ih =>
    rw [← Nat.add_assoc,
      settled_succ_of_not_mem (by omega) (not_mem_waiting_add read waitsNot more), ih]

theorem lt_length_of_close (closes : opcodeAt? code line = some .close) : line < code.length := by
  apply Nat.lt_of_not_le
  intro outside
  simp [opcodeAt?, List.getElem?_eq_none outside] at closes

theorem target_ofGenome {place : Nat} (read : place < line) (le : line ≤ code.length)
    (waitsNot : place ∉ waiting code line) {target : Nat}
    (found : (settled code line)[place]? = some target) :
    (ofGenome code).target place = target := by
  obtain ⟨more, total⟩ := Nat.exists_eq_add_of_le le
  rw [BlockTable.target, targets_ofGenome, Array.getD_eq_getD_getElem?, total,
    settled_add read waitsNot more, found, Option.getD_some]

/-! ### Targets -/

/-- An end and the innermost opener lead to each other. -/
theorem target_of_close (closes : opcodeAt? code line = some .close) {rest : List Nat}
    (stack : waiting code line = opener :: rest) :
    (ofGenome code).target line = opener ∧ (ofGenome code).target opener = line + 1 := by
  have inside := lt_length_of_close closes
  have earlier := lt_of_waiting_eq_cons stack
  have after := waiting_after_close closes stack
  -- Behind the end only openers before this one wait, so both targets stay.
  have gone : ∀ place, opener ≤ place → place ∉ waiting code (line + 1) := by
    intro place le waits
    rw [after] at waits
    have lt := (of_mem_waiting waits).1
    omega
  have size : (settled code line).size = code.length := size_settled code line
  constructor
  · refine target_ofGenome (Nat.lt_succ_self line) inside (gone line (by omega)) ?_
    rw [settled_of_close closes, stack]
    simp [size, inside]
  · refine target_ofGenome (by omega) inside (gone opener (Nat.le_refl _)) ?_
    rw [settled_of_close closes, stack]
    have notSelf : line ≠ opener := by omega
    have within : opener < code.length := by omega
    simp [notSelf, size, within]

/-- An end that meets no opener leads to itself. -/
theorem target_of_stray (closes : opcodeAt? code line = some .close)
    (stack : waiting code line = []) : (ofGenome code).target line = line := by
  have inside := lt_length_of_close closes
  have nobody : waiting code (line + 1) = [] := by
    rw [waiting_of_close closes, stack, List.tail_nil]
  refine target_ofGenome (Nat.lt_succ_self line) inside (by simp [nobody]) ?_
  rw [settled_of_close closes, stack]
  simp [size_settled code line, inside]

/-- As long as no end has met it, an opener leads to the end of the code. -/
theorem settled_of_waits (opens : Opens code opener) {line : Nat}
    (waits : line ≤ opener ∨ opener ∈ waiting code line) :
    (settled code line)[opener]? = some code.length := by
  induction line with
  | zero => simp [settled, opens.lt_length]
  | succ line ih =>
    by_cases here : line = opener
    · subst here
      rw [settled_of_not_close opens.not_close]
      exact ih (.inl (Nat.le_refl _))
    have before : line ≤ opener ∨ opener ∈ waiting code line := by
      rcases waits with ahead | waits
      · exact .inl (by omega)
      · exact .inr (mem_waiting_of_succ (Ne.symm here) waits)
    rw [← ih before]
    by_cases closes : opcodeAt? code line = some .close
    · rw [settled_of_close closes]
      cases stack : waiting code line with
      | nil => simp [here]
      | cons top rest =>
        -- The opener that the end meets is another one, since it waits no more.
        have notTop : top ≠ opener := by
          rintro rfl
          rcases waits with ahead | waits
          · have earlier := lt_of_waiting_eq_cons stack
            omega
          · rw [waiting_after_close closes stack] at waits
            exact absurd (of_mem_waiting waits).1 (Nat.lt_irrefl _)
        simp [here, notTop]
    · rw [settled_of_not_close closes]

theorem target_of_unclosed (waits : opener ∈ waiting code code.length) :
    (ofGenome code).target opener = code.length := by
  have opens := (of_mem_waiting waits).2
  rw [BlockTable.target, targets_ofGenome, Array.getD_eq_getD_getElem?,
    settled_of_waits opens (.inr waits), Option.getD_some]

/-- An opener leads to the end of the code, or to a line before which those wait that
waited before it. -/
theorem target_of_opens (opens : Opens code opener) :
    (ofGenome code).target opener = code.length ∨
      waiting code ((ofGenome code).target opener) = waiting code opener := by
  rcases waits_or_closed opens opens.lt_length with waits | ⟨close, -, -, closes, stack⟩
  · exact .inl (target_of_unclosed waits)
  · rw [(target_of_close closes stack).2]
    exact .inr (waiting_after_close closes stack)

/-! ### Functions -/

theorem mem_functionStarts {start first : Nat} :
    start ∈ functionStarts code first ↔
      ∃ header, start = first + header + 1 ∧ opcodeAt? code header = some .func := by
  induction code generalizing first with
  | nil => simp [functionStarts, opcodeAt?]
  | cons word rest ih =>
    have head : opcodeAt? (word :: rest) 0 = some .func ↔ Instruction.decode word = .op .func := by
      cases decoded : Instruction.decode word <;> simp [opcodeAt?, decoded, Instruction.opcode?]
    have later : start ∈ functionStarts rest (first + 1) ↔
        ∃ header, start = first + (header + 1) + 1 ∧
          opcodeAt? (word :: rest) (header + 1) = some .func := by
      rw [ih]
      simp only [opcodeAt?, List.getElem?_cons_succ, Nat.add_assoc, Nat.add_comm 1]
    constructor
    · intro member
      rw [functionStarts] at member
      split at member
      next isFunc =>
        rcases List.mem_cons.mp member with rfl | member
        · exact ⟨0, rfl, head.mpr isFunc⟩
        · obtain ⟨header, place, found⟩ := later.mp member
          exact ⟨header + 1, place, found⟩
      next =>
        obtain ⟨header, place, found⟩ := later.mp member
        exact ⟨header + 1, place, found⟩
    · rintro ⟨header, place, found⟩
      rw [functionStarts]
      cases header with
      | zero =>
        rw [if_pos (head.mp found), place]
        exact List.mem_cons_self
      | succ header =>
        have member := later.mpr ⟨header, place, found⟩
        split
        · exact List.mem_cons_of_mem _ member
        · exact member

end Vivarium.BlockTable
