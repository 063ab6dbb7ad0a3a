import Vivarium.Proofs.Json.Tokens

/-!
# Reading numbers

A number is read up to the first character that cannot go on with it, so what it is read as
depends on its own text only. Of a decimal integer of 64 bits no digit is dropped, and the
integer is read back.
-/
namespace Vivarium.Json.Reader

variable {digits text rest : List Char}

/-! ### Digits -/

/-- The text does not go on with a digit. -/
def NoDigit (text : List Char) : Prop := ∀ c ∈ text.head?, c.isDigit = false

/-- The characters that may end a value are no part of a number. -/
theorem unlike_of_stops (ends : Stops text) {c : Char} (next : text.head? = some c) :
    c.isDigit = false ∧ c ≠ '.' ∧ c ≠ 'e' ∧ c ≠ 'E' := by
  have unlike : (blankChars ++ [',', ']', '\x7d']).all
      (fun c => !c.isDigit && c != '.' && c != 'e' && c != 'E') = true := by decide
  simpa [and_assoc] using List.all_eq_true.mp unlike c (List.mem_append.mpr (ends c next))

theorem noDigit_of_stops (ends : Stops text) : NoDigit text :=
  fun _ next => (unlike_of_stops ends next).1

theorem noDigit_of_exponent {power : List Char} (written : ExponentText power)
    (ends : Stops rest) : NoDigit (power ++ rest) := by
  cases written with
  | none => exact noDigit_of_stops ends
  | power marked => rcases marked with rfl | rfl <;> simp [NoDigit]

theorem noDigit_of_fraction {fraction power : List Char} (point : FractionText fraction)
    (written : ExponentText power) (ends : Stops rest) :
    NoDigit (fraction ++ (power ++ rest)) := by
  have inPower := noDigit_of_exponent written ends
  cases point with
  | none => exact inPower
  | point => simp [NoDigit]

theorem takeWhile_digits (all : ∀ c ∈ digits, c.isDigit = true) (ends : NoDigit rest) :
    (digits ++ rest).takeWhile Char.isDigit = digits ∧
      (digits ++ rest).dropWhile Char.isDigit = rest := by
  rw [List.takeWhile_append_of_pos all, List.dropWhile_append_of_pos all]
  cases rest with
  | nil => simp
  | cons c rest => simp [ends c rfl]

/-- Of the digits some may be left because the number would be too long; they are left as they
are. -/
theorem takeDigits_append (all : ∀ c ∈ digits, c.isDigit = true) (ends : NoDigit rest)
    (number taken : Nat) :
    takeDigits number taken (digits ++ rest) =
        ((takeDigits number taken digits).1, (takeDigits number taken digits).2.1,
          (takeDigits number taken digits).2.2 ++ rest) ∧
      ∀ c ∈ (takeDigits number taken digits).2.2, c.isDigit = true := by
  induction digits generalizing number taken with
  | nil =>
    refine ⟨?_, by simp [takeDigits]⟩
    cases rest with
    | nil => rfl
    | cons c rest => simp [takeDigits, ends c rfl]
  | cons c digits ih =>
    have later : ∀ c ∈ digits, c.isDigit = true := fun d member => all d (by simp [member])
    simp only [List.cons_append, takeDigits]
    split
    next => exact ih later _ _
    next => exact ⟨rfl, all⟩

theorem le_ofDigitChars (digits : List Char) (number : Nat) :
    number ≤ Nat.ofDigitChars 10 digits number := by
  induction digits generalizing number with
  | nil => exact Nat.le_refl _
  | cons c digits ih =>
    rw [Nat.ofDigitChars_cons]
    exact Nat.le_trans (by omega) (ih _)

/-- Digits of a number below the limit are all taken. -/
theorem takeDigits_eq (all : ∀ c ∈ digits, c.isDigit = true) {number : Nat}
    (small : Nat.ofDigitChars 10 digits number < significandLimit) (taken : Nat) :
    takeDigits number taken digits =
      (Nat.ofDigitChars 10 digits number, taken + digits.length, []) := by
  induction digits generalizing number taken with
  | nil => rfl
  | cons c digits ih =>
    rw [Nat.ofDigitChars_cons, Nat.mul_comm] at small
    have fits : number * 10 + (c.toNat - '0'.toNat) < significandLimit :=
      Nat.lt_of_le_of_lt (le_ofDigitChars _ _) small
    simp only [takeDigits, all c (by simp), fits, decide_true, Bool.and_self, if_true]
    rw [ih (fun d member => all d (by simp [member])) small, Nat.ofDigitChars_cons, Nat.mul_comm 10,
      List.length_cons]
    simp only [Nat.add_assoc, Nat.add_comm 1]

/-! ### The parts of a number -/

/-- Wherever a value may end after it, the reader takes the text and nothing else, and its
outcome is always this. -/
def Takes {α : Type} (reader : Reader α) (text : List Char) (outcome : Except ReadError α) : Prop :=
  ∀ rest, Stops rest → reader (text ++ rest) = outcome.map (·, rest)

theorem decimal_settled (negative : Bool) (significand : Nat) (exponent : Int) :
    ∃ outcome : Except ReadError Number, ∀ rest,
      decimal negative significand exponent rest = outcome.map (·, rest) := by
  cases scaled : scaled? significand exponent with
  | none => exact ⟨.error .malformed, fun _ => by rw [decimal, scaled]; rfl⟩
  | some magnitude => exact ⟨.ok (signed negative magnitude), fun _ => by rw [decimal, scaled]; rfl⟩

theorem exponentDigits_takes (negative : Bool) (significand : Nat) (exponent : Int) (down : Bool)
    (nonempty : Digits digits) :
    ∃ outcome, Takes (exponentDigits negative significand exponent down) digits outcome := by
  have all := nonempty.2
  obtain ⟨d, others, rfl, digit, -⟩ := nonempty.exists_cons
  let written := (d :: others).foldl
    (fun number digit => number * 10 + (digit.toNat - '0'.toNat)) 0
  -- All that depends on the text behind the digits is where they end.
  have passed (rest : List Char) (ends : Stops rest) :
      exponentDigits negative significand exponent down (d :: others ++ rest) =
        (if written ≤ exponentLimit then
          decimal negative significand (if down then exponent - written else exponent + written)
        else if significand ≠ 0 && !down then fail .malformed
        else return signed negative 0.0) rest := by
    obtain ⟨taken, left⟩ := takeWhile_digits all (noDigit_of_stops ends)
    rw [exponentDigits, bind_of_ok (peek?_eq _)]
    simp only [List.cons_append, List.head?_cons, digit, if_true]
    rw [bind_of_ok (get_eq _), bind_of_ok (set_eq _ _), ← List.cons_append, taken, left]
  by_cases short : written ≤ exponentLimit
  · obtain ⟨outcome, settled⟩ := decimal_settled negative significand
      (if down then exponent - written else exponent + written)
    exact ⟨outcome, fun rest ends => by rw [passed rest ends, if_pos short, settled]⟩
  · by_cases large : (significand ≠ 0 && !down) = true
    · exact ⟨.error .malformed, fun rest ends => by
        rw [passed rest ends, if_neg short, if_pos large]; rfl⟩
    · exact ⟨.ok (signed negative 0.0), fun rest ends => by
        rw [passed rest ends, if_neg short, if_neg large]; rfl⟩

theorem exponentPart_takes (negative : Bool) (significand : Nat) (exponent : Int) {mark : Char}
    {sign : List Char} (signed : sign = [] ∨ sign = ['+'] ∨ sign = ['-'])
    (nonempty : Digits digits) :
    ∃ outcome, Takes (exponentPart negative significand exponent) (mark :: (sign ++ digits))
      outcome := by
  obtain ⟨outcome, takes⟩ :=
    exponentDigits_takes negative significand exponent (sign == ['-']) nonempty
  refine ⟨outcome, fun rest ends => ?_⟩
  rw [← takes rest ends, exponentPart, List.cons_append, bind_of_ok (skipChar_eq _ _),
    bind_of_ok (peek?_eq _)]
  rcases signed with rfl | rfl | rfl
  · obtain ⟨d, others, rfl, -, noSign⟩ := nonempty.exists_cons
    simp only [List.nil_append, List.cons_append, List.head?_cons]
    generalize first : some d = next
    split
    next => exact absurd (Option.some.inj first ▸ noSign) (by decide)
    next => exact absurd (Option.some.inj first ▸ noSign) (by decide)
    next => rfl
  · exact bind_of_ok (skipChar_eq _ _)
  · exact bind_of_ok (skipChar_eq _ _)

theorem fractionRest_takes (negative : Bool) (significand : Nat) (exponent : Int)
    {power : List Char} (written : ExponentText power) :
    ∃ outcome, Takes (fractionRest negative significand exponent) power outcome := by
  cases written with
  | none =>
    obtain ⟨outcome, settled⟩ := decimal_settled negative significand exponent
    refine ⟨outcome, fun rest ends => ?_⟩
    rw [← settled, List.nil_append, fractionRest, bind_of_ok (peek?_eq _)]
    generalize first : rest.head? = next
    split
    next => exact absurd rfl (unlike_of_stops ends first).2.2.1
    next => exact absurd rfl (unlike_of_stops ends first).2.2.2
    next => rfl
  | power marked signed nonempty =>
    obtain ⟨outcome, takes⟩ := exponentPart_takes negative significand exponent signed nonempty
    refine ⟨outcome, fun rest ends => ?_⟩
    rw [← takes rest ends, fractionRest, bind_of_ok (peek?_eq _)]
    rcases marked with rfl | rfl <;> rfl

theorem fractionPart_takes (negative : Bool) (significand : Nat) (exponent : Int)
    {power : List Char} (nonempty : Digits digits) (written : ExponentText power) :
    ∃ outcome, Takes (fractionPart negative significand exponent) ('.' :: (digits ++ power))
      outcome := by
  have all := nonempty.2
  obtain ⟨d, others, rfl, digit, -⟩ := nonempty.exists_cons
  rcases longer : takeDigits significand 0 (d :: others) with ⟨number, taken, dropped⟩
  obtain ⟨outcome, takes⟩ := fractionRest_takes negative number (exponent - taken) written
  refine ⟨outcome, fun rest ends => ?_⟩
  have noDigit := noDigit_of_exponent written ends
  obtain ⟨digitsTaken, digitsLeft⟩ := takeDigits_append all noDigit significand 0
  rw [longer] at digitsTaken digitsLeft
  obtain ⟨-, left⟩ := takeWhile_digits digitsLeft noDigit
  rw [fractionPart, List.cons_append, bind_of_ok (skipChar_eq _ _), bind_of_ok (peek?_eq _)]
  simp only [List.cons_append, List.head?_cons, digit, if_true]
  rw [bind_of_ok (get_eq _), List.append_assoc, ← List.cons_append, digitsTaken]
  simp only [left]
  rw [bind_of_ok (set_eq _ _), takes rest ends]

/-- A number that ends here is an integer unless digits were dropped. -/
theorem numberRest_of_stops (negative : Bool) (significand dropped : Nat) (ends : Stops rest) :
    numberRest negative significand dropped rest =
      (if dropped = 0 then return plainNumber negative significand
      else decimal negative significand dropped) rest := by
  rw [numberRest, bind_of_ok (peek?_eq _)]
  generalize first : rest.head? = next
  split
  next => exact absurd rfl (unlike_of_stops ends first).2.1
  next => exact absurd rfl (unlike_of_stops ends first).2.2.1
  next => exact absurd rfl (unlike_of_stops ends first).2.2.2
  next => rfl

theorem numberRest_takes (negative : Bool) (significand dropped : Nat)
    {fraction power : List Char} (point : FractionText fraction) (written : ExponentText power) :
    ∃ outcome, Takes (numberRest negative significand dropped) (fraction ++ power) outcome := by
  cases point with
  | point nonempty =>
    exact fractionPart_takes negative significand dropped nonempty written
  | none =>
    cases written with
    | power marked signed nonempty =>
      obtain ⟨outcome, takes⟩ := exponentPart_takes negative significand dropped signed nonempty
      refine ⟨outcome, fun rest ends => ?_⟩
      rw [List.nil_append, ← takes rest ends, numberRest, bind_of_ok (peek?_eq _)]
      rcases marked with rfl | rfl <;> rfl
    | none =>
      by_cases whole : dropped = 0
      · exact ⟨.ok (plainNumber negative significand), fun rest ends => by
          rw [List.append_nil, List.nil_append, numberRest_of_stops _ _ _ ends, if_pos whole]; rfl⟩
      · obtain ⟨outcome, settled⟩ := decimal_settled negative significand dropped
        exact ⟨outcome, fun rest ends => by
          rw [List.append_nil, List.nil_append, numberRest_of_stops _ _ _ ends, if_neg whole,
            settled]⟩

/-- The whole part is taken digit by digit; what is dropped of it counts. -/
theorem wholePart_eq (negative : Bool) {whole : List Char} (nonempty : Digits whole)
    (noZeros : whole.head? = some '0' → whole = ['0']) (ends : NoDigit rest) :
    wholePart negative (whole ++ rest) =
      numberRest negative (takeDigits 0 0 whole).1 (takeDigits 0 0 whole).2.2.length rest := by
  obtain ⟨taken, digitsLeft⟩ := takeDigits_append nonempty.2 ends 0 0
  obtain ⟨dropped, left⟩ := takeWhile_digits digitsLeft ends
  obtain ⟨d, others, rfl, digit, -⟩ := nonempty.exists_cons
  rw [wholePart, bind_of_ok (peek?_eq _)]
  by_cases zero : d = '0'
  · subst zero
    obtain rfl : others = [] := by simpa using noZeros rfl
    simp only [List.cons_append, List.nil_append, List.head?_cons]
    rw [bind_of_ok (skipChar_eq _ _), bind_of_ok (peek?_eq _)]
    cases rest with
    | nil => rfl
    | cons c rest => simp [ends c rfl, takeDigits, significandLimit]
  · simp only [List.cons_append, List.head?_cons, digit, if_true]
    rw [bind_of_ok (get_eq _), ← List.cons_append, taken]
    simp only []
    rw [bind_of_ok (set_eq _ _), left, dropped]

theorem number_eq {sign whole : List Char} (signed : sign = [] ∨ sign = ['-'])
    (nonempty : Digits whole) (noZeros : whole.head? = some '0' → whole = ['0'])
    (ends : NoDigit rest) :
    number (sign ++ (whole ++ rest)) =
      numberRest (sign == ['-']) (takeDigits 0 0 whole).1 (takeDigits 0 0 whole).2.2.length
        rest := by
  rw [← wholePart_eq _ nonempty noZeros ends, number, bind_of_ok (peek?_eq _)]
  rcases signed with rfl | rfl
  · obtain ⟨d, others, rfl, -, noSign⟩ := nonempty.exists_cons
    simp only [List.nil_append, List.cons_append, List.head?_cons]
    generalize first : some d = next
    split
    next => exact absurd (Option.some.inj first ▸ noSign) (by decide)
    next => rfl
  · exact bind_of_ok (skipChar_eq _ _)

/-- A number is read by its own text, wherever a value may end after it. -/
theorem number_takes (written : NumberText text) : ∃ outcome, Takes number text outcome := by
  obtain ⟨signed, nonempty, noZeros, point, power⟩ := written
  obtain ⟨outcome, takes⟩ := numberRest_takes _ _ _ point power
  refine ⟨outcome, fun rest stops => ?_⟩
  have ends := noDigit_of_fraction point power stops
  rw [List.append_assoc, List.append_assoc, List.append_assoc,
    number_eq signed nonempty noZeros ends, ← takes rest stops, List.append_assoc]

/-! ### Integers -/

theorem digits_toDigits (value : Nat) : Digits (Nat.toDigits 10 value) :=
  ⟨Nat.toDigits_ne_nil, fun _ member => Nat.isDigit_of_mem_toDigits (by decide) (by decide) member⟩

/-- A number is written without zeros in front. -/
theorem toDigits_noZeros (value : Nat) (zero : (Nat.toDigits 10 value).head? = some '0') :
    Nat.toDigits 10 value = ['0'] := by
  induction value using Nat.strongRecOn with
  | ind value ih =>
    by_cases short : value < 10
    · rw [Nat.toDigits_of_lt_base short] at zero ⊢
      rw [Option.some.inj zero]
    -- Of a longer number the first digit is that of its tenth, which would be zero as a whole.
    · obtain ⟨d, others, digits⟩ := List.exists_cons_of_ne_nil
        (Nat.toDigits_ne_nil (n := value / 10) (b := 10))
      rw [Nat.toDigits_of_base_le (by decide) (by omega), digits, List.cons_append,
        List.head?_cons, ← List.head?_cons (l := others), ← digits] at zero
      have none := Nat.ofDigitChars_ten_toDigits (n := value / 10)
      rw [ih (value / 10) (by omega) zero] at none
      have nothing : Nat.ofDigitChars 10 ['0'] 0 = 0 := rfl
      omega

/-- The integers of 64 bits, with a sign or without one. -/
def Within64 (value : Int) : Prop := -(negativeLimit : Int) ≤ value ∧ value < significandLimit

theorem toList_toString (value : Int) :
    (toString value).toList =
      (if value < 0 then ['-'] else []) ++ Nat.toDigits 10 value.natAbs := by
  rw [Int.toString_eq_repr, Int.repr_eq_if]
  by_cases negative : value < 0
  · rw [if_neg (by omega), if_pos negative, String.toList_append, Nat.toList_repr]
    congr
    omega
  · rw [if_pos (by omega), if_neg negative, Nat.toList_repr, List.nil_append]
    congr
    omega

theorem number_toString {value : Int} (within : Within64 value) (ends : Stops rest) :
    number ((toString value).toList ++ rest) = .ok (.int value, rest) := by
  obtain ⟨low, high⟩ := within
  simp only [negativeLimit, significandLimit] at low high
  have small : value.natAbs < significandLimit := by
    simp only [significandLimit]
    omega
  have digits := digits_toDigits value.natAbs
  have taken : takeDigits 0 0 (Nat.toDigits 10 value.natAbs) = _ :=
    takeDigits_eq digits.2 (by rwa [Nat.ofDigitChars_ten_toDigits]) 0
  rw [Nat.ofDigitChars_ten_toDigits] at taken
  rw [toList_toString, List.append_assoc,
    number_eq (by split <;> simp) digits (toDigits_noZeros _) (noDigit_of_stops ends), taken,
    numberRest_of_stops _ _ _ ends, List.length_nil, if_pos rfl, pure_eq]
  by_cases negative : value < 0
  · have within : (decide (0 < value.natAbs) && decide (value.natAbs ≤ negativeLimit)) = true := by
      rw [Bool.and_eq_true, decide_eq_true_eq, decide_eq_true_eq, negativeLimit]
      omega
    rw [if_pos negative, plainNumber]
    simp only [beq_self_eq_true, Bool.not_true, Bool.false_eq_true, if_false, within, if_true]
    rw [Int.ofNat_natAbs_of_nonpos negative.le, Int.neg_neg]
  · rw [if_neg negative, plainNumber]
    simp
    omega

/-! ### Numbers as values -/

theorem isNumberStart_of_numberText (written : NumberText text) :
    ∃ c others, text = c :: others ∧ isNumberStart c = true := by
  obtain ⟨signed, nonempty, -, -, -⟩ := written
  obtain ⟨d, others, rfl, digit, -⟩ := nonempty.exists_cons
  rcases signed with rfl | rfl
  · exact ⟨d, _, rfl, by simp [isNumberStart, digit]⟩
  · exact ⟨'-', _, rfl, rfl⟩

theorem begins_of_numberText (written : NumberText text) : Begins text := by
  obtain ⟨c, others, rfl, start⟩ := isNumberStart_of_numberText written
  have unlike : (blankChars ++ [',', ']', '\x7d']).all (!isNumberStart ·) = true := by decide
  have notListed : c ∉ blankChars ++ [',', ']', '\x7d'] := fun member =>
    absurd (List.all_eq_true.mp unlike c member) (by simp [start])
  rw [List.mem_append, not_or] at notListed
  exact ⟨c, others, rfl, notListed⟩

theorem numberText_toString (value : Int) : NumberText (toString value).toList := by
  have written : NumberText
      ((if value < 0 then ['-'] else []) ++ (Nat.toDigits 10 value.natAbs ++ ([] ++ []))) :=
    .parts (by split <;> simp) (digits_toDigits _) (toDigits_noZeros _) .none .none
  rwa [List.append_nil, List.append_nil, ← toList_toString] at written

/-- A reader that looks for a number sees its first character. -/
theorem peekToken_number {gap : List Char} (blanks : Blanks gap) (written : NumberText text)
    (rest : List Char) :
    ∃ c, isNumberStart c = true ∧ peekToken (gap ++ (text ++ rest)) = .ok (c, text ++ rest) := by
  obtain ⟨d, others', same, solid, -⟩ := begins_of_numberText written
  obtain ⟨c, others, rfl, start⟩ := isNumberStart_of_numberText written
  obtain ⟨rfl, rfl⟩ := List.cons.inj same
  exact ⟨c, start, peekToken_eq blanks solid (others ++ rest)⟩

theorem integer_reads {low high value : Int} (within : Within64 value)
    (bounds : low ≤ value ∧ value ≤ high) :
    Reads (integer low high) (toString value).toList value where
  begins := begins_of_numberText (numberText_toString value)
  read gap rest blanks ends := by
    obtain ⟨c, start, peeked⟩ := peekToken_number blanks (numberText_toString value) rest
    rw [integer, bind_of_ok peeked, if_pos start, bind_of_ok (number_toString within ends)]
    simp only [if_pos bounds]
    rfl

theorem count_reads {limit value : Nat} (small : value < limit)
    (within : limit ≤ significandLimit) :
    Reads (count limit) (toString value).toList value where
  begins := begins_of_numberText (numberText_toString value)
  read gap rest blanks ends := by
    have fits : Within64 (value : Int) := by
      simp only [Within64, negativeLimit, significandLimit] at within ⊢
      omega
    have whole : Reads (integer 0 (limit - 1)) (toString (value : Int)).toList value :=
      integer_reads fits (by omega)
    exact bind_of_ok (whole.read gap rest blanks ends)

theorem float_takes (written : NumberText text) :
    ∃ outcome : Except ReadError Float, ∀ gap rest, Blanks gap → Stops rest →
      float (gap ++ (text ++ rest)) = outcome.map (·, rest) := by
  obtain ⟨outcome, takes⟩ := number_takes written
  refine ⟨outcome.map Number.toFloat, fun gap rest blanks ends => ?_⟩
  obtain ⟨c, start, peeked⟩ := peekToken_number blanks written rest
  have taken := takes rest ends
  rw [float, bind_of_ok peeked, if_pos start]
  cases outcome with
  | error problem => simp only [bind, StateT.bind, taken, Except.map, Except.bind]
  | ok value => exact bind_of_ok taken

/-- A number that is read on its own is read alike as a part of a text. -/
theorem float_reads {value : Float} (written : NumberText text)
    (alone : float.run (String.ofList text) = .ok value) : Reads float text value where
  begins := begins_of_numberText written
  read gap rest blanks ends := by
    -- The outcome is the same before every text, so it is the one before no text at all.
    obtain ⟨outcome, takes⟩ := float_takes written
    have read := takes [] [] blanks_nil stops_nil
    rw [List.nil_append, List.append_nil] at read
    rw [run, String.toList_ofList, read] at alone
    rw [takes gap rest blanks ends]
    cases outcome with
    | error problem => exact absurd alone (by simp [Except.map])
    | ok other =>
      obtain rfl : other = value := by simpa [Except.map] using alone
      rfl

end Vivarium.Json.Reader
