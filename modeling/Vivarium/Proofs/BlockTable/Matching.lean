import Mathlib.Order.Bounds.Basic
import Mathlib.Data.Nat.Find
import Vivarium.Proofs.BlockTable.Nesting

/-!
# The matching of blocks

Behind an opener the ends are counted against the openers. The block of the
opener goes up to the first line where more blocks have ended than begun: this
says which end is its own without a word about those that wait. The table is made
with a list of waiting openers, in one reading. As long as the count has not
turned, that list holds the opener and on top of it one for each block that has
begun since and not ended, so the line where the count turns is the end that
meets the opener.
-/
namespace Vivarium.BlockTable

/-- How many blocks begin behind the first line, up to and on the last one. -/
def begun (code : Genome) (first last : Nat) : Nat :=
  (List.range' (first + 1) (last - first)).countP fun line =>
    (opcodeAt? code line).any Opcode.opensBlock

/-- How many ends stand behind the first line, up to and on the last one. -/
def ended (code : Genome) (first last : Nat) : Nat :=
  (List.range' (first + 1) (last - first)).countP fun line => opcodeAt? code line = some .close

/-- The end of a block: the first line behind its opener up to which more blocks have ended
than begun. -/
def Closes (code : Genome) (opener close : Nat) : Prop :=
  Opens code opener ∧
    IsLeast {line | opener < line ∧ begun code opener line < ended code opener line} close

variable {code : Genome} {opener close line : Nat}

/-! ### Counting from line to line -/

theorem opens_iff_any : Opens code line ↔ (opcodeAt? code line).any Opcode.opensBlock = true := by
  simp [Opens, Option.any_eq_true]

theorem range'_succ_line (le : opener ≤ line) :
    List.range' (opener + 1) (line + 1 - opener) =
      List.range' (opener + 1) (line - opener) ++ [line + 1] := by
  have longer : line + 1 - opener = line - opener + 1 := by omega
  have place : opener + 1 + 1 * (line - opener) = line + 1 := by omega
  rw [longer, List.range'_concat, place]

theorem begun_succ (le : opener ≤ line) :
    begun code opener (line + 1) =
      begun code opener line +
        if (opcodeAt? code (line + 1)).any Opcode.opensBlock then 1 else 0 := by
  rw [begun, range'_succ_line le, List.countP_append, List.countP_singleton, begun]

theorem ended_succ (le : opener ≤ line) :
    ended code opener (line + 1) =
      ended code opener line + if opcodeAt? code (line + 1) = some .close then 1 else 0 := by
  rw [ended, range'_succ_line le, List.countP_append, List.countP_singleton, ended]
  simp

@[simp] theorem begun_self (code : Genome) (opener : Nat) : begun code opener opener = 0 := by
  simp [begun]

@[simp] theorem ended_self (code : Genome) (opener : Nat) : ended code opener opener = 0 := by
  simp [ended]

theorem counts_of_opens (le : opener ≤ line) (opens : Opens code (line + 1)) :
    begun code opener (line + 1) = begun code opener line + 1 ∧
      ended code opener (line + 1) = ended code opener line := by
  constructor
  · rw [begun_succ le, if_pos (opens_iff_any.mp opens)]
  · rw [ended_succ le, if_neg opens.not_close, Nat.add_zero]

theorem counts_of_close (le : opener ≤ line) (closes : opcodeAt? code (line + 1) = some .close) :
    begun code opener (line + 1) = begun code opener line ∧
      ended code opener (line + 1) = ended code opener line + 1 := by
  constructor
  · rw [begun_succ le, closes]
    simp [Opcode.opensBlock]
  · rw [ended_succ le, if_pos closes]

theorem counts_of_plain (le : opener ≤ line) (plain : Plain code (line + 1)) :
    begun code opener (line + 1) = begun code opener line ∧
      ended code opener (line + 1) = ended code opener line := by
  constructor
  · rw [begun_succ le, if_neg, Nat.add_zero]
    intro opens
    obtain ⟨opcode, found, opens⟩ := opens_iff_any.mpr opens
    have opensNot := (plain opcode found).1
    rw [opens] at opensNot
    cases opensNot
  · rw [ended_succ le, if_neg, Nat.add_zero]
    intro closes
    exact (plain .close closes).2 rfl

/-! ### Who waits, by counting -/

/-- As long as no more blocks have ended than begun, an opener waits, and inside of it one
opener for each block that has begun and not ended. -/
theorem waiting_of_counts (opens : Opens code opener) (le : opener ≤ line)
    (stillOpen : ∀ place, opener < place → place ≤ line →
      ended code opener place ≤ begun code opener place) :
    ∃ inner, waiting code (line + 1) = inner ++ opener :: waiting code opener ∧
      inner.length + ended code opener line = begun code opener line := by
  -- By induction on the line: openers join `inner`, and ends take from it.
  induction line with
  | zero =>
    obtain rfl : opener = 0 := by omega
    exact ⟨[], by simp [waiting_of_opens opens], by simp⟩
  | succ line ih =>
    by_cases here : opener = line + 1
    · subst here
      exact ⟨[], by simp [waiting_of_opens opens], by simp⟩
    have earlier : opener ≤ line := by omega
    obtain ⟨inner, stack, count⟩ :=
      ih earlier fun place after before => stillOpen place after (by omega)
    rcases opens_or_close_or_plain code (line + 1) with begins | ends | plain
    · obtain ⟨more, same⟩ := counts_of_opens earlier begins
      refine ⟨(line + 1) :: inner, ?_, ?_⟩
      · rw [waiting_of_opens begins, stack, List.cons_append]
      · rw [List.length_cons]
        omega
    · obtain ⟨same, more⟩ := counts_of_close earlier ends
      have here := stillOpen (line + 1) (by omega) (Nat.le_refl _)
      -- The end is not that of the opener, since the count would have turned.
      cases inner with
      | nil =>
        rw [List.length_nil] at count
        omega
      | cons top inner =>
        refine ⟨inner, ?_, ?_⟩
        · rw [waiting_of_close ends, stack, List.cons_append, List.tail_cons]
        · rw [List.length_cons] at count
          omega
    · obtain ⟨sameBegun, sameEnded⟩ := counts_of_plain earlier plain
      refine ⟨inner, ?_, ?_⟩
      · rw [waiting_of_plain plain, stack]
      · omega

/-- If ever more blocks have ended than begun, there is a first line where it is so. -/
theorem exists_closes (opens : Opens code opener) (later : opener < line)
    (more : begun code opener line < ended code opener line) :
    ∃ close, close ≤ line ∧ Closes code opener close := by
  have turns : ∃ place, opener < place ∧ begun code opener place < ended code opener place :=
    ⟨line, later, more⟩
  refine ⟨Nat.find turns, Nat.find_min' turns ⟨later, more⟩, opens, Nat.find_spec turns, ?_⟩
  intro place here
  exact Nat.find_min' turns here

/-- Before the end of its block no more blocks have ended than begun. -/
theorem Closes.open_before (closes : Closes code opener close) (line : Nat) (later : opener < line)
    (before : line < close) : ended code opener line ≤ begun code opener line := by
  apply Nat.le_of_not_lt
  intro more
  have le := closes.2.2 ⟨later, more⟩
  omega

/-- The end of a block is an end, and it meets the opener. -/
theorem Closes.meets (closes : Closes code opener close) :
    opcodeAt? code close = some .close ∧
      waiting code close = opener :: waiting code opener := by
  obtain ⟨later, more⟩ := closes.2.1
  obtain ⟨last, rfl⟩ : ∃ last, close = last + 1 := ⟨close - 1, by omega⟩
  have le : opener ≤ last := by omega
  obtain ⟨inner, stack, count⟩ := waiting_of_counts closes.1 le
    fun place after before => closes.open_before place after (by omega)
  rcases opens_or_close_or_plain code (last + 1) with begins | ends | plain
  · obtain ⟨sooner, same⟩ := counts_of_opens le begins
    omega
  · obtain ⟨same, later⟩ := counts_of_close le ends
    have none : inner = [] := List.eq_nil_of_length_eq_zero (by omega)
    rw [none, List.nil_append] at stack
    exact ⟨ends, stack⟩
  · obtain ⟨sameBegun, sameEnded⟩ := counts_of_plain le plain
    omega

/-- Behind the end of its block an opener never waits again. -/
theorem Closes.not_mem_waiting (closes : Closes code opener close) (later : close < line) :
    opener ∉ waiting code line := by
  obtain ⟨ends, stack⟩ := closes.meets
  have gone : opener ∉ waiting code (close + 1) := by
    rw [waiting_after_close ends stack]
    intro waits
    exact absurd (of_mem_waiting waits).1 (Nat.lt_irrefl _)
  obtain ⟨more, rfl⟩ := Nat.exists_eq_add_of_le (Nat.succ_le_of_lt later)
  have earlier := lt_of_waiting_eq_cons stack
  exact not_mem_waiting_add (by omega) gone more

/-- The end that meets an opener is the end of its block. -/
theorem closes_of_meets (ends : opcodeAt? code close = some .close) {rest : List Nat}
    (stack : waiting code close = opener :: rest) : Closes code opener close := by
  have waits : opener ∈ waiting code close := by simp [stack]
  obtain ⟨later, opens⟩ := of_mem_waiting waits
  -- The count has not turned before, for the opener would be gone.
  have before : ∀ place, opener < place → place < close →
      ended code opener place ≤ begun code opener place := by
    intro place after before
    apply Nat.le_of_not_lt
    intro more
    obtain ⟨other, le, closes⟩ := exists_closes opens after more
    exact closes.not_mem_waiting (by omega) waits
  obtain ⟨last, rfl⟩ : ∃ last, close = last + 1 := ⟨close - 1, by omega⟩
  have le : opener ≤ last := by omega
  obtain ⟨inner, found, count⟩ := waiting_of_counts opens le
    fun place after here => before place after (by omega)
  have none : inner.length = 0 := by
    have lengths := congrArg List.length found
    rw [stack, waiting_eq_cons stack, List.length_append] at lengths
    simp only [List.length_cons] at lengths
    omega
  obtain ⟨same, turned⟩ := counts_of_close le ends
  refine ⟨opens, ⟨later, by omega⟩, ?_⟩
  rintro place ⟨after, more⟩
  apply Nat.le_of_not_lt
  intro earlier
  exact absurd (before place after earlier) (Nat.not_le_of_lt more)

/-! ### How pairs stand to each other -/

/-- An opener has one end. -/
theorem Closes.close_unique {other : Nat} (closes : Closes code opener close)
    (closesToo : Closes code opener other) : close = other :=
  closes.2.unique closesToo.2

/-- An end has one opener. -/
theorem Closes.opener_unique {other : Nat} (closes : Closes code opener close)
    (closesToo : Closes code other close) : opener = other := by
  have stack := closes.meets.2
  rw [closesToo.meets.2] at stack
  exact (List.cons.inj stack).1.symm

/-- Of two blocks the later one begins behind the end of the other or ends before it. -/
theorem Closes.nested_or_disjoint {inner innerClose : Nat} (closes : Closes code opener close)
    (closesInner : Closes code inner innerClose) (later : opener < inner) :
    close < inner ∨ innerClose < close := by
  by_cases behind : close < inner
  · exact .inl behind
  right
  have innerLater := closesInner.2.1.1
  apply Nat.lt_of_not_le
  intro le
  have before : inner < close := by
    have notSame : inner ≠ close := by
      rintro rfl
      exact closesInner.1.not_close closes.meets.1
    omega
  -- The inner opener would wait on top of the other when the end of the other is read.
  have waits : inner ∈ waiting code close := by
    rcases waits_or_closed closesInner.1 before with waits | ⟨other, -, sooner, ends, stack⟩
    · exact waits
    · have same := closesInner.close_unique (closes_of_meets ends stack)
      omega
  rw [closes.meets.2, List.mem_cons] at waits
  rcases waits with rfl | outside
  · omega
  · have earlier := (of_mem_waiting outside).1
    omega

/-! ### The table -/

/-- An opener without an end leads to the end of the code. -/
theorem target_of_endless (opens : Opens code opener)
    (endless : ∀ close, ¬ Closes code opener close) :
    (ofGenome code).target opener = code.length := by
  apply target_of_unclosed
  rcases waits_or_closed opens opens.lt_length with waits | ⟨close, -, -, ends, stack⟩
  · exact waits
  · exact absurd (closes_of_meets ends stack) (endless close)

/-- An end of no block leads to itself. -/
theorem target_of_astray (ends : opcodeAt? code close = some .close)
    (astray : ∀ opener, ¬ Closes code opener close) : (ofGenome code).target close = close := by
  apply target_of_stray ends
  cases stack : waiting code close with
  | nil => rfl
  | cons opener rest => exact absurd (closes_of_meets ends stack) (astray opener)

/-- Nothing is written for a line that neither opens nor closes a block. -/
theorem settled_of_plain (plain : Plain code line) (inside : line < code.length) (read : Nat) :
    (settled code read)[line]? = some code.length := by
  have opensNot : ∀ place, line ∉ waiting code place := by
    intro place waits
    obtain ⟨opcode, found, opens⟩ := (of_mem_waiting waits).2
    rw [(plain opcode found).1] at opens
    cases opens
  induction read with
  | zero => simp [settled, inside]
  | succ read ih =>
    by_cases here : line = read
    · subst here
      rw [settled_of_not_close fun ends => (plain .close ends).2 rfl]
      exact ih
    · rw [settled_succ_of_not_mem here (opensNot read)]
      exact ih

theorem target_of_plain (plain : Plain code line) (inside : line < code.length) :
    (ofGenome code).target line = code.length := by
  rw [BlockTable.target, targets_ofGenome, Array.getD_eq_getD_getElem?,
    settled_of_plain plain inside, Option.getD_some]

theorem pairwise_functionStarts (code : Genome) (first : Nat) :
    (functionStarts code first).Pairwise (· < ·) := by
  induction code generalizing first with
  | nil => exact .nil
  | cons word rest ih =>
    rw [functionStarts]
    split
    next isFunc =>
      refine .cons ?_ (ih (first + 1))
      intro start later
      obtain ⟨header, place, -⟩ := mem_functionStarts.mp later
      omega
    next => exact ih (first + 1)

/-- What a table says of a code whose blocks it matches. -/
structure Matches (table : BlockTable) (code : Genome) : Prop where
  /-- It has a target and a counter for each line. -/
  sizes : table.targets.size = code.length ∧ table.counters.size = code.length
  /-- An opener leads behind the end of its block, and the end to the opener. -/
  matched : ∀ opener close, Closes code opener close →
    table.target opener = close + 1 ∧ table.target close = opener
  /-- An opener without an end leads to the end of the code. -/
  endless : ∀ opener, Opens code opener → (∀ close, ¬ Closes code opener close) →
    table.target opener = code.length
  /-- An end of no block leads to itself. -/
  astray : ∀ close, opcodeAt? code close = some .close → (∀ opener, ¬ Closes code opener close) →
    table.target close = close
  /-- Every other line leads to the end of the code. -/
  plain : ∀ line < code.length, ¬ Opens code line → opcodeAt? code line ≠ some .close →
    table.target line = code.length
  /-- Blocks end with an end, and it is the end of no other block. -/
  unique : ∀ opener close, Closes code opener close → opcodeAt? code close = some .close ∧
    ∀ other, Closes code other close → other = opener
  /-- Blocks lie one within the other or apart. -/
  nested : ∀ outer outerClose inner innerClose, Closes code outer outerClose →
    Closes code inner innerClose → outer < inner → outerClose < inner ∨ innerClose < outerClose
  /-- Functions begin behind their headers, and are listed in the order of the code. -/
  functions : table.functions.Pairwise (· < ·) ∧
    ∀ start, start ∈ table.functions ↔
      ∃ header, start = header + 1 ∧ opcodeAt? code header = some .func
  /-- No loop runs. -/
  atRest : ∀ line, table.counter line = -1
  /-- Openers lead on, and ends lead back or stay. -/
  forward : ∀ opener, Opens code opener → opener < table.target opener
  back : ∀ close, opcodeAt? code close = some .close → table.target close ≤ close

/-- The table of a genome matches its blocks, whatever the words are. -/
theorem matches_ofGenome (code : Genome) : (ofGenome code).Matches code where
  sizes := by
    constructor
    · exact size_ofGenome code
    · simp [ofGenome]
  matched := by
    intro opener close closes
    obtain ⟨ends, stack⟩ := closes.meets
    obtain ⟨ofClose, ofOpener⟩ := target_of_close ends stack
    exact ⟨ofOpener, ofClose⟩
  endless := fun opener opens endless => target_of_endless opens endless
  astray := fun close ends astray => target_of_astray ends astray
  plain := by
    intro line inside opensNot endsNot
    rcases opens_or_close_or_plain code line with opens | ends | plain
    · exact absurd opens opensNot
    · exact absurd ends endsNot
    · exact target_of_plain plain inside
  unique := by
    intro opener close closes
    exact ⟨closes.meets.1, fun other closesToo => closesToo.opener_unique closes⟩
  nested := by
    intro outer outerClose inner innerClose closes closesInner later
    exact closes.nested_or_disjoint closesInner later
  functions := by
    constructor
    · exact pairwise_functionStarts code 0
    · intro start
      change start ∈ functionStarts code 0 ↔ _
      rw [mem_functionStarts]
      simp only [Nat.zero_add]
  atRest := counter_ofGenome code
  forward := by
    intro opener opens
    rcases waits_or_closed opens opens.lt_length with waits | ⟨close, later, -, ends, stack⟩
    · rw [target_of_unclosed waits]
      exact opens.lt_length
    · rw [(target_of_close ends stack).2]
      omega
  back := by
    intro close ends
    cases stack : waiting code close with
    | nil => rw [target_of_stray ends stack]
    | cons opener rest =>
      rw [(target_of_close ends stack).1]
      exact Nat.le_of_lt (lt_of_waiting_eq_cons stack)

/-- A stray end, a block within a block, and an opener without an end. -/
example : (ofGenome (Instruction.assemble
    [.op .close, .op .loop, .op .ifLess, .op .close, .op .close, .op .func])).targets =
      #[0, 5, 4, 2, 1, 6] := by
  decide

end Vivarium.BlockTable
