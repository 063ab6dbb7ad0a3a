import Mathlib.Order.Bounds.Basic
import Mathlib.Order.MinMax
import Vivarium.EditDistance
import Vivarium.Genome

/-!
# Edit scripts

A script is a list of edits of one word each, carried out one after the other. The
distance of two genomes is the length of a shortest script that turns the first one
into the second.

The rows of the distance follow a recursion on the last words of the two genomes,
`leastEdits`. It is attained: the recursion says which edit to make at the end. And
nothing is shorter: a single edit anywhere in the first genome changes the recursion
by one at most, and equal genomes are at distance zero.
-/
namespace Vivarium

/-- A change of a single word. -/
inductive Edit where
  /-- Put a word into a gap. -/
  | insert (gap : Nat) (word : Int)
  | delete (line : Nat)
  | substitute (line : Nat) (word : Int)
  deriving DecidableEq, Repr

namespace Edit

/-- The genome after the edit. -/
def apply : Edit → Genome → Outcome Genome
  | insert gap word, code => code.insertAt gap [word]
  | delete line, code => code.removeAt line
  | substitute line word, code => code.replaceAt line word

/-- The word that the edit brings in. -/
def word? : Edit → Option Int
  | insert _ word | substitute _ word => some word
  | delete _ => none

/-- The genome after all edits of a script. -/
def applyAll : List Edit → Genome → Outcome Genome
  | [], code => .ok code
  | edit :: rest, code => do
    let code ← edit.apply code
    applyAll rest code

/-- An edit exchanges one word at most for one word at most. -/
theorem apply_eq_ok {edit : Edit} {code after : Genome} (applied : edit.apply code = .ok after) :
    ∃ front old new back : Genome, code = front ++ (old ++ back) ∧ after = front ++ (new ++ back) ∧
      old.length ≤ 1 ∧ new.length ≤ 1 := by
  cases edit with
  | insert gap word =>
    simp only [apply, Genome.insertAt] at applied
    split at applied
    next inside =>
      cases applied
      exact ⟨code.take gap, [], [word], code.drop gap, by simp, by simp, by simp, by simp⟩
    next => cases applied
  | delete line =>
    simp only [apply, Genome.removeAt] at applied
    split at applied
    next inside =>
      cases applied
      refine ⟨code.take line, [code[line]], [], code.drop (line + 1), ?_, ?_, by simp, by simp⟩
      · simp
      · simp [List.eraseIdx_eq_take_drop_succ]
    next => cases applied
  | substitute line word =>
    simp only [apply, Genome.replaceAt] at applied
    split at applied
    next inside =>
      cases applied
      refine ⟨code.take line, [code[line]], [word], code.drop (line + 1), ?_, ?_, by simp, by simp⟩
      · simp
      · simp [List.set_eq_take_append_cons_drop, inside]
    next => cases applied

/-- What follows the words that an edit reaches stays behind them. -/
theorem apply_append {edit : Edit} {code after : Genome} (applied : edit.apply code = .ok after)
    (back : Genome) : edit.apply (code ++ back) = .ok (after ++ back) := by
  cases edit with
  | insert gap word =>
    simp only [apply, Genome.insertAt] at applied ⊢
    split at applied
    next inside =>
      cases applied
      rw [if_pos (by simp only [List.length_append]; omega), List.take_append_of_le_length inside,
        List.drop_append_of_le_length inside]
      simp
    next => cases applied
  | delete line =>
    simp only [apply, Genome.removeAt] at applied ⊢
    split at applied
    next inside =>
      cases applied
      rw [if_pos (by simp only [List.length_append]; omega),
        List.eraseIdx_append_of_lt_length inside]
    next => cases applied
  | substitute line word =>
    simp only [apply, Genome.replaceAt] at applied ⊢
    split at applied
    next inside =>
      cases applied
      rw [if_pos (by simp only [List.length_append]; omega), List.set_append_left _ _ inside]
    next => cases applied

theorem applyAll_append {script : List Edit} {code after : Genome}
    (applied : applyAll script code = .ok after) (back : Genome) :
    applyAll script (code ++ back) = .ok (after ++ back) := by
  induction script generalizing code with
  | nil =>
    cases applied
    rfl
  | cons edit rest ih =>
    obtain ⟨between, first, others⟩ := (bind_eq_ok_iff _ _ _).mp applied
    exact (bind_eq_ok_iff _ _ _).mpr ⟨_, apply_append first back, ih others⟩

/-- A script may be continued by another one. -/
theorem applyAll_trans {first second : List Edit} {code between after : Genome}
    (applied : applyAll first code = .ok between) (further : applyAll second between = .ok after) :
    applyAll (first ++ second) code = .ok after := by
  induction first generalizing code with
  | nil =>
    cases applied
    exact further
  | cons edit rest ih =>
    obtain ⟨edited, start, others⟩ := (bind_eq_ok_iff _ _ _).mp applied
    exact (bind_eq_ok_iff _ _ _).mpr ⟨edited, start, ih others⟩

/-! ### Edits of the last word -/

theorem apply_insert_last (code : Genome) (word : Int) :
    (insert code.length word).apply code = .ok (code ++ [word]) := by
  simp [apply, Genome.insertAt]

theorem apply_delete_last (code : Genome) (word : Int) :
    (delete code.length).apply (code ++ [word]) = .ok code := by
  simp [apply, Genome.removeAt, List.eraseIdx_append_of_length_le]

theorem apply_substitute_last (code : Genome) (old new : Int) :
    (substitute code.length new).apply (code ++ [old]) = .ok (code ++ [new]) := by
  simp [apply, Genome.replaceAt]

end Edit

namespace EditDistance

/-- Edits needed from one genome to another one, both given from their ends: the last words
are matched, or the last word of one of them is left over. -/
def leastEdits : Genome → Genome → Nat
  | [], b => b.length
  | a, [] => a.length
  | word :: a, other :: b =>
    let cost := if word = other then 0 else 1
    min (min (leastEdits a b + cost) (leastEdits a (other :: b) + 1))
      (leastEdits (word :: a) b + 1)
termination_by a b => a.length + b.length

variable {a b c : Genome}

@[simp]
theorem leastEdits_nil_left (b : Genome) : leastEdits [] b = b.length := by
  unfold leastEdits
  rfl

@[simp]
theorem leastEdits_nil_right (a : Genome) : leastEdits a [] = a.length := by
  cases a <;> simp [leastEdits]

theorem leastEdits_cons_cons (word other : Int) (a b : Genome) :
    leastEdits (word :: a) (other :: b) =
      min (min (leastEdits a b + if word = other then 0 else 1) (leastEdits a (other :: b) + 1))
        (leastEdits (word :: a) b + 1) := by
  rw [leastEdits]

theorem leastEdits_self (a : Genome) : leastEdits a a = 0 := by
  induction a with
  | nil => simp
  | cons word a ih =>
    rw [leastEdits_cons_cons, ih]
    simp

theorem leastEdits_comm (a b : Genome) : leastEdits a b = leastEdits b a := by
  induction a, b using leastEdits.induct with
  | case1 b => simp
  | case2 a _ => simp
  | case3 word a other b pair left right =>
    rw [leastEdits_cons_cons, leastEdits_cons_cons, pair, left, right]
    simp only [eq_comm (a := word)]
    omega

/-- As many edits as the longer genome has words are enough, and as many as the lengths
differ by are necessary. -/
theorem leastEdits_bounds (a b : Genome) :
    leastEdits a b ≤ max a.length b.length ∧ a.length ≤ b.length + leastEdits a b ∧
      b.length ≤ a.length + leastEdits a b := by
  induction a, b using leastEdits.induct with
  | case1 b => simp
  | case2 a _ => simp
  | case3 word a other b pair left right =>
    rw [leastEdits_cons_cons]
    simp only [List.length_cons] at *
    split <;> omega

/-! ### Scripts of this length -/

/-- So many edits turn one genome into another one, both given from their ends, and bring in
no words but those wanted. -/
def Scripted (a b : Genome) (count : Nat) : Prop :=
  ∃ script : List Edit, script.length = count ∧ Edit.applyAll script a.reverse = .ok b.reverse ∧
    ∀ edit ∈ script, ∀ word ∈ edit.word?, word ∈ b

namespace Scripted

variable {word other : Int} {count : Nat}

/-- The edits of the words before leave the last one alone; one more edit takes care of it. -/
theorem snoc {after : Genome} {script : List Edit} (edit : Edit)
    (applied : Edit.applyAll script a.reverse = .ok after)
    (last : edit.apply after = .ok b.reverse)
    (words : ∀ edit ∈ script, ∀ word ∈ edit.word?, word ∈ b)
    (wanted : ∀ word ∈ edit.word?, word ∈ b) : Scripted a b (script.length + 1) := by
  refine ⟨script ++ [edit], by simp, ?_, ?_⟩
  · exact Edit.applyAll_trans applied ((bind_eq_ok_iff _ _ _).mpr ⟨_, last, rfl⟩)
  · simpa only [List.forall_mem_append, List.forall_mem_singleton] using ⟨words, wanted⟩

theorem keep (scripted : Scripted a b count) : Scripted (word :: a) (word :: b) count := by
  obtain ⟨script, counted, applied, words⟩ := scripted
  refine ⟨script, counted, ?_, fun edit member new brought => ?_⟩
  · simpa only [List.reverse_cons] using Edit.applyAll_append applied [word]
  · exact List.mem_cons_of_mem _ (words edit member new brought)

theorem substitute (scripted : Scripted a b count) :
    Scripted (word :: a) (other :: b) (count + 1) := by
  obtain ⟨script, rfl, applied, words⟩ := scripted
  have front := Edit.applyAll_append applied [word]
  rw [← List.reverse_cons] at front
  refine snoc (.substitute b.reverse.length other) front ?_ ?_ ?_
  · rw [Edit.apply_substitute_last, List.reverse_cons]
  · exact fun edit member new brought => List.mem_cons_of_mem _ (words edit member new brought)
  · simp [Edit.word?]

theorem delete (scripted : Scripted a b count) (word : Int) :
    Scripted (word :: a) b (count + 1) := by
  obtain ⟨script, rfl, applied, words⟩ := scripted
  have front := Edit.applyAll_append applied [word]
  rw [← List.reverse_cons] at front
  refine snoc (.delete b.reverse.length) front ?_ words ?_
  · rw [Edit.apply_delete_last]
  · simp [Edit.word?]

theorem insert (scripted : Scripted a b count) (other : Int) :
    Scripted a (other :: b) (count + 1) := by
  obtain ⟨script, rfl, applied, words⟩ := scripted
  refine snoc (.insert b.reverse.length other) applied ?_ ?_ ?_
  · rw [Edit.apply_insert_last, List.reverse_cons]
  · exact fun edit member new brought => List.mem_cons_of_mem _ (words edit member new brought)
  · simp [Edit.word?]

end Scripted

/-- The recursion spells out a script of its length. -/
theorem scripted_leastEdits (a b : Genome) : Scripted a b (leastEdits a b) := by
  induction a, b using leastEdits.induct with
  | case1 b =>
    induction b with
    | nil => exact ⟨[], by simp, rfl, by simp⟩
    | cons other b ih => simpa using ih.insert other
  | case2 a someWord =>
    clear someWord
    induction a with
    | nil => exact ⟨[], by simp, rfl, by simp⟩
    | cons word a ih => simpa using ih.delete word
  | case3 word a other b pair left right =>
    rw [leastEdits_cons_cons]
    -- The least of the three numbers says what becomes of the last words.
    rcases min_choice (min (leastEdits a b + if word = other then 0 else 1)
      (leastEdits a (other :: b) + 1)) (leastEdits (word :: a) b + 1) with least | least
    · rw [least]
      rcases min_choice (leastEdits a b + if word = other then 0 else 1)
        (leastEdits a (other :: b) + 1) with least | least
      · rw [least]
        split
        next same =>
          subst same
          exact pair.keep
        next => exact pair.substitute
      · rw [least]
        exact left.delete word
    · rw [least]
      exact right.insert other

/-! ### No script is shorter -/

theorem leastEdits_cons_left_le (word : Int) (a c : Genome) :
    leastEdits (word :: a) c ≤ leastEdits a c + 1 := by
  cases c with
  | nil => simp
  | cons other c =>
    rw [leastEdits_cons_cons]
    omega

theorem leastEdits_cons_right_le (other : Int) (a c : Genome) :
    leastEdits a (other :: c) ≤ leastEdits a c + 1 := by
  rw [leastEdits_comm a, leastEdits_comm a]
  exact leastEdits_cons_left_le other c a

theorem leastEdits_le_cons_left (word : Int) (a c : Genome) :
    leastEdits a c ≤ leastEdits (word :: a) c + 1 := by
  induction c with
  | nil =>
    simp only [leastEdits_nil_right, List.length_cons]
    omega
  | cons other c ih =>
    have longer := leastEdits_cons_right_le other a c
    rw [leastEdits_cons_cons]
    omega

theorem leastEdits_cons_le_cons (word other : Int) (a c : Genome) :
    leastEdits (word :: a) c ≤ leastEdits (other :: a) c + 1 := by
  induction c with
  | nil => simp
  | cons wanted c ih =>
    rw [leastEdits_cons_cons, leastEdits_cons_cons]
    split <;> split <;> omega

/-- What stands before an edit makes no difference to it. -/
theorem leastEdits_append_le {before after : Genome}
    (near : ∀ c, leastEdits before c ≤ leastEdits after c + 1) (front c : Genome) :
    leastEdits (front ++ before) c ≤ leastEdits (front ++ after) c + 1 := by
  induction front generalizing c with
  | nil => exact near c
  | cons word front ih =>
    -- By induction on what is aimed at: each of the three numbers is near its counterpart.
    induction c with
    | nil => simpa using ih []
    | cons other c inner =>
      simp only [List.cons_append] at inner ⊢
      have pair := ih c
      have left := ih (other :: c)
      rw [leastEdits_cons_cons, leastEdits_cons_cons]
      omega

/-- One word at most for one word at most makes a difference of one at most. -/
theorem leastEdits_exchange_le {old new : Genome} (one : old.length ≤ 1) (one' : new.length ≤ 1)
    (back c : Genome) : leastEdits (old ++ back) c ≤ leastEdits (new ++ back) c + 1 := by
  match old, new, one, one' with
  | [], [], _, _ => exact Nat.le_succ _
  | [], [word], _, _ => exact leastEdits_le_cons_left word back c
  | [word], [], _, _ => exact leastEdits_cons_left_le word back c
  | [word], [other], _, _ => exact leastEdits_cons_le_cons word other back c

theorem leastEdits_le_of_apply {edit : Edit} {code after : Genome}
    (applied : edit.apply code = .ok after) (c : Genome) :
    leastEdits code.reverse c ≤ leastEdits after.reverse c + 1 := by
  obtain ⟨front, old, new, back, rfl, rfl, one, one'⟩ := Edit.apply_eq_ok applied
  simp only [List.reverse_append, List.append_assoc]
  exact leastEdits_append_le
    (leastEdits_exchange_le (by simpa using one) (by simpa using one') front.reverse) _ c

theorem leastEdits_le_of_applyAll {script : List Edit} {code after : Genome}
    (applied : Edit.applyAll script code = .ok after) :
    leastEdits code.reverse after.reverse ≤ script.length := by
  induction script generalizing code with
  | nil =>
    cases applied
    simp [leastEdits_self]
  | cons edit rest ih =>
    obtain ⟨between, first, others⟩ := (bind_eq_ok_iff _ _ _).mp applied
    have step := leastEdits_le_of_apply first after.reverse
    have further := ih others
    simp only [List.length_cons]
    omega

/-! ### The rows -/

/-- The edits needed to reach each genome that continues one by a part of another one. Genomes
are given from their ends, except for the part still to come. -/
def rowFrom (a done : Genome) : (rest : Genome) → List Nat
  | [] => [leastEdits a done]
  | word :: rest => leastEdits a done :: rowFrom a (word :: done) rest

theorem rowFrom_eq_cons (a done rest : Genome) :
    rowFrom a done rest = leastEdits a done :: (rowFrom a done rest).tail := by
  cases rest <;> rfl

theorem rowFrom_nil (done rest : Genome) :
    rowFrom [] done rest = List.range' done.length (rest.length + 1) := by
  induction rest generalizing done with
  | nil => simp [rowFrom]
  | cons word rest ih => simp [rowFrom, ih, List.range'_succ]

theorem firstRow_eq (b : Genome) : firstRow b = rowFrom [] [] b := by
  rw [rowFrom_nil, firstRow, List.range_eq_range']
  rfl

theorem fillRow_eq (word : Int) (a done rest : Genome) :
    fillRow word rest (rowFrom a done rest) (leastEdits (word :: a) done) =
      (rowFrom (word :: a) done rest).tail := by
  induction rest generalizing done with
  | nil => rfl
  | cons other rest ih =>
    simp only [rowFrom, List.tail_cons]
    rw [rowFrom_eq_cons a, fillRow, rowFrom_eq_cons (word :: a), ← ih (other :: done),
      leastEdits_cons_cons, ← rowFrom_eq_cons]

theorem nextRow_eq (word : Int) (a b : Genome) :
    nextRow word b (rowFrom a [] b) = rowFrom (word :: a) [] b := by
  have first : (rowFrom a [] b).headD 0 + 1 = leastEdits (word :: a) [] := by
    rw [rowFrom_eq_cons]
    simp
  rw [nextRow, first, fillRow_eq, ← rowFrom_eq_cons]

theorem lastRow_eq (a b : Genome) : lastRow a b = rowFrom a.reverse [] b := by
  -- The words read so far are a prefix of the first genome, given from its end.
  have rows : ∀ rest read : Genome, rest.foldl (fun above word => nextRow word b above)
      (rowFrom read [] b) = rowFrom (rest.reverse ++ read) [] b := by
    intro rest
    induction rest with
    | nil => exact fun read => rfl
    | cons word rest ih =>
      intro read
      rw [List.foldl_cons, nextRow_eq, ih]
      simp
  rw [lastRow, firstRow_eq, rows, List.append_nil]

theorem getLastD_rowFrom (a done rest : Genome) (default : Nat) :
    (rowFrom a done rest).getLastD default = leastEdits a (rest.reverse ++ done) := by
  induction rest generalizing done default with
  | nil => simp [rowFrom]
  | cons word rest ih =>
    rw [rowFrom, List.getLastD_cons, ih]
    simp

theorem distance_eq (a b : Genome) : distance a b = leastEdits a.reverse b.reverse := by
  rw [distance, lastRow_eq, getLastD_rowFrom, List.append_nil]

theorem distance_le_of_applyAll {script : List Edit} (applied : Edit.applyAll script a = .ok b) :
    distance a b ≤ script.length := by
  rw [distance_eq]
  exact leastEdits_le_of_applyAll applied

theorem exists_script (a b : Genome) :
    ∃ script : List Edit, script.length = distance a b ∧ Edit.applyAll script a = .ok b ∧
      ∀ edit ∈ script, ∀ word ∈ edit.word?, word ∈ b := by
  have scripted := scripted_leastEdits a.reverse b.reverse
  simpa only [Scripted, ← distance_eq, List.reverse_reverse, List.mem_reverse] using scripted

/-- Scripts follow one another, so no detour is shorter. -/
theorem distance_triangle (a b c : Genome) : distance a c ≤ distance a b + distance b c := by
  obtain ⟨first, counted, applied, -⟩ := exists_script a b
  obtain ⟨second, counted', applied', -⟩ := exists_script b c
  have whole := distance_le_of_applyAll (Edit.applyAll_trans applied applied')
  rwa [List.length_append, counted, counted'] at whole

theorem distance_eq_zero_iff (a b : Genome) : distance a b = 0 ↔ a = b := by
  constructor
  · intro zero
    obtain ⟨script, counted, applied, -⟩ := exists_script a b
    rw [zero, List.length_eq_zero_iff] at counted
    subst counted
    cases applied
    rfl
  · rintro rfl
    rw [distance_eq, leastEdits_self]

/-- The distance is the length of a shortest script from one genome to the other, and one of
that length needs no words but those of the other. So it is a metric, and the lengths of the
genomes bound it on both sides. -/
theorem distance_isLeast (a b : Genome) :
    IsLeast {count | ∃ script : List Edit, script.length = count ∧
      Edit.applyAll script a = .ok b} (distance a b) ∧
    (∃ script : List Edit, script.length = distance a b ∧ Edit.applyAll script a = .ok b ∧
      ∀ edit ∈ script, ∀ word ∈ edit.word?, word ∈ b) ∧
    (distance a b = 0 ↔ a = b) ∧ distance a b = distance b a ∧
    (∀ c, distance a c ≤ distance a b + distance b c) ∧
    max a.length b.length - min a.length b.length ≤ distance a b ∧
    distance a b ≤ max a.length b.length := by
  obtain ⟨script, counted, applied, words⟩ := exists_script a b
  have least : IsLeast {count | ∃ script : List Edit, script.length = count ∧
      Edit.applyAll script a = .ok b} (distance a b) := by
    refine ⟨⟨script, counted, applied⟩, ?_⟩
    rintro count ⟨other, rfl, turns⟩
    exact distance_le_of_applyAll turns
  obtain ⟨most, longer, shorter⟩ := leastEdits_bounds a.reverse b.reverse
  rw [← distance_eq, List.length_reverse, List.length_reverse] at most longer shorter
  refine ⟨least, ⟨script, counted, applied, words⟩, distance_eq_zero_iff a b, ?_,
    distance_triangle a b, by omega, most⟩
  rw [distance_eq, distance_eq, leastEdits_comm]

/-- Two substitutions and an insertion. -/
example : distance [1, 2, 3, 3, 4, 5] [6, 2, 3, 3, 2, 5, 7] = 3 := by decide

end EditDistance

end Vivarium
