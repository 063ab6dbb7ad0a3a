import Mathlib.Tactic.IntervalCases
import Vivarium.Proofs.Json.Grammar

/-!
# Reading tokens

A reader takes a token, and the blanks before it, whatever comes after; of a number it has to
know where it ends. Each lemma says what is read and what is left, so that longer texts are read
one token at a time.
-/
namespace Vivarium.Json

/-- The text is read as this value, after any blanks and wherever a value may end. -/
structure Reads {α : Type} (reader : Reader α) (text : List Char) (value : α) : Prop where
  begins : Begins text
  read : ∀ gap rest, Blanks gap → Stops rest → reader (gap ++ (text ++ rest)) = .ok (value, rest)

theorem Reads.next {α : Type} {reader : Reader α} {text : List Char} {value : α}
    (reads : Reads reader text value) {rest : List Char} (ends : Stops rest) :
    reader (text ++ rest) = .ok (value, rest) :=
  reads.read [] rest blanks_nil ends

namespace Reader

variable {α β : Type} {gap text rest : List Char}

/-! ### One reader after another -/

theorem bind_of_ok {first : Reader α} {next : α → Reader β} {value : α} {after : List Char}
    (taken : first text = .ok (value, after)) : (first >>= next) text = next value after := by
  simp only [bind, StateT.bind, taken, Except.bind]

/-- Two ways to go on after one of two readers. -/
theorem ite_bind_of_ok {choice : Prop} [Decidable choice] {left right : Reader α}
    {next : α → Reader β} {value : α} {after : List Char}
    (taken : (if choice then left else right) text = .ok (value, after)) :
    (if choice then left >>= next else right >>= next) text = next value after := by
  split at taken
  next chosen => rw [if_pos chosen, bind_of_ok taken]
  next other => rw [if_neg other, bind_of_ok taken]

theorem pure_eq (value : α) (text : List Char) : (pure value : Reader α) text = .ok (value, text) :=
  rfl

theorem get_eq (text : List Char) : (get : Reader (List Char)) text = .ok (text, text) := rfl

theorem set_eq (text left : List Char) : (set left : Reader PUnit) text = .ok (⟨⟩, left) := rfl

theorem peek?_eq (text : List Char) : peek? text = .ok (text.head?, text) := rfl

theorem skipChar_eq (c : Char) (text : List Char) : skipChar (c :: text) = .ok ((), text) := rfl

/-! ### Blanks -/

theorem isBlank_iff (c : Char) : isBlank c = true ↔ c ∈ blankChars := by
  simp only [isBlank, blankChars, Bool.or_eq_true, beq_iff_eq, List.mem_cons, List.not_mem_nil]
  tauto

theorem skipBlanks_eq (blanks : Blanks gap) (solid : ∀ c ∈ text.head?, c ∉ blankChars) :
    skipBlanks (gap ++ text) = .ok ((), text) := by
  have passed : ∀ c ∈ gap, isBlank c = true := fun c member => (isBlank_iff c).mpr (blanks c member)
  rw [skipBlanks, List.dropWhile_append_of_pos passed]
  cases text with
  | nil => rfl
  | cons c rest =>
    have stays : ¬ isBlank c = true := by
      rw [isBlank_iff]
      exact solid c rfl
    rw [List.dropWhile_cons_of_neg stays]

theorem peekToken_eq (blanks : Blanks gap) {c : Char} (solid : c ∉ blankChars)
    (rest : List Char) : peekToken (gap ++ c :: rest) = .ok (c, c :: rest) := by
  have skipped : skipBlanks (gap ++ c :: rest) = .ok ((), c :: rest) :=
    skipBlanks_eq blanks (by simpa using solid)
  rw [peekToken, bind_of_ok skipped, bind_of_ok (peek?_eq _)]
  rfl

theorem colon_eq (blanks : Blanks gap) (rest : List Char) :
    colon (gap ++ ':' :: rest) = .ok ((), rest) := by
  rw [colon, bind_of_ok (peekToken_eq blanks (by decide) rest), if_pos rfl, skipChar_eq]

/-- A value that ends may have blanks after it. -/
theorem stops_gap (blanks : Blanks gap) {c : Char} (closes : c ∈ [',', ']', '\x7d'])
    (rest : List Char) : Stops (gap ++ c :: rest) := by
  intro d next
  cases gap with
  | nil =>
    rw [List.nil_append, List.head?_cons, Option.mem_some_iff] at next
    exact .inr (next ▸ closes)
  | cons b gap =>
    rw [List.cons_append, List.head?_cons, Option.mem_some_iff] at next
    exact .inl (next ▸ blanks b (by simp))

theorem stops_of_blanks (blanks : Blanks gap) : Stops gap :=
  fun c next => .inl (blanks c (List.mem_of_mem_head? next))

/-- A text that holds the value and blanks around it is read as the value. -/
theorem run_of_reads {reader : Reader α} {value : α} (reads : Reads reader text value)
    {gap' : List Char} (before : Blanks gap) (behind : Blanks gap') {whole : String}
    (spelled : whole.toList = gap ++ (text ++ gap')) : reader.run whole = .ok value := by
  have left : gap'.dropWhile isBlank = [] := by
    have passed : (gap' ++ []).dropWhile isBlank = [].dropWhile isBlank :=
      List.dropWhile_append_of_pos fun c member => (isBlank_iff c).mpr (behind c member)
    simpa using passed
  rw [run, spelled, reads.read gap gap' before (stops_of_blanks behind)]
  simp [left]

theorem literal_eq (word rest : List Char) : literal word (word ++ rest) = .ok ((), rest) := by
  induction word with
  | nil => rfl
  | cons c word ih =>
    rw [literal, bind_of_ok (peek?_eq _)]
    simp only [List.cons_append, List.head?_cons, if_true]
    rw [bind_of_ok (skipChar_eq _ _), ih]

/-! ### Strings -/

theorem hexValue?_of_digit {c : Char} {worth : Nat} (digit : HexDigit c worth) :
    hexValue? c = some worth := by
  have below : worth < 16 := by
    rcases digit with lower | upper
    · exact (List.getElem?_eq_some_iff.mp lower).1
    · exact (List.getElem?_eq_some_iff.mp upper).1
  rcases digit with same | same
  all_goals
    interval_cases worth
    all_goals
      obtain rfl := Option.some.inj same
      decide

theorem hexNumber?_of_hexNumber {digits : List Char} {number : Nat}
    (hex : HexNumber digits number) :
    hexNumber? digits = some number ∧ digits.length = 4 ∧
      ¬ digits.foldl (fun bytes c => bytes + c.utf8Size) 0 < 4 := by
  obtain ⟨first, second, third, last⟩ := hex
  -- The reader counts bytes before it looks at the digits; each character has at least one.
  refine ⟨?_, rfl, ?_⟩
  · simp [hexNumber?, hexValue?_of_digit first, hexValue?_of_digit second,
      hexValue?_of_digit third, hexValue?_of_digit last]
  · have bytes (c : Char) : 1 ≤ c.utf8Size := c.utf8Size_pos
    simp only [List.foldl_cons, List.foldl_nil, Nat.not_lt]
    grind

theorem hexDigits_eq {digits : List Char} {number : Nat} (hex : HexNumber digits number)
    (rest : List Char) : hexDigits (digits ++ rest) = .ok (number, rest) := by
  obtain ⟨value, four, bytes⟩ := hexNumber?_of_hexNumber hex
  rw [hexDigits, bind_of_ok (get_eq _), List.take_left' four, if_neg bytes, value,
    List.drop_left' four]
  rfl

theorem isLowSurrogate_iff (unit : Nat) :
    isLowSurrogate unit = true ↔ 0xDC00 ≤ unit ∧ unit < 0xE000 := by
  simp [isLowSurrogate]

theorem isHighSurrogate_iff (unit : Nat) :
    isHighSurrogate unit = true ↔ 0xD800 ≤ unit ∧ unit < 0xDC00 := by
  simp [isHighSurrogate]

/-- What follows a backslash. -/
theorem escape_short (lax : Bool) {mark meant : Char} (listed : (mark, meant) ∈ shortEscapes)
    (rest : List Char) : escape lax (mark :: rest) = .ok (meant, rest) := by
  simp only [shortEscapes, List.mem_cons, Prod.mk.injEq, List.not_mem_nil, or_false] at listed
  rcases listed with ⟨rfl, rfl⟩ | ⟨rfl, rfl⟩ | ⟨rfl, rfl⟩ | ⟨rfl, rfl⟩ | ⟨rfl, rfl⟩ |
    ⟨rfl, rfl⟩ | ⟨rfl, rfl⟩ | ⟨rfl, rfl⟩ <;> rfl

theorem unicodeEscape_unit {lax : Bool} {digits : List Char} {number : Nat}
    (hex : HexNumber digits number) (whole : lax = true ∨ number < 0xD800 ∨ 0xE000 ≤ number)
    (rest : List Char) : unicodeEscape lax (digits ++ rest) = .ok (Char.ofNat number, rest) := by
  rw [unicodeEscape, bind_of_ok (hexDigits_eq hex rest)]
  rcases whole with rfl | outside
  · rfl
  · have low : ¬ isLowSurrogate number = true := by
      rw [isLowSurrogate_iff]
      omega
    have high : ¬ isHighSurrogate number = true := by
      rw [isHighSurrogate_iff]
      omega
    simp only [low, high, Bool.false_eq_true, if_false]
    split <;> rfl

theorem unicodeEscape_pair {digits digits' : List Char} {high low : Nat}
    (hex : HexNumber digits high) (isHigh : 0xD800 ≤ high ∧ high < 0xDC00)
    (hex' : HexNumber digits' low) (isLow : 0xDC00 ≤ low ∧ low < 0xE000) (rest : List Char) :
    unicodeEscape false (digits ++ '\\' :: 'u' :: (digits' ++ rest)) =
      .ok (Char.ofNat (0x10000 + (high - 0xD800) * 0x400 + (low - 0xDC00)), rest) := by
  have notLow : ¬ isLowSurrogate high = true := by
    rw [isLowSurrogate_iff]
    omega
  rw [unicodeEscape, bind_of_ok (hexDigits_eq hex _)]
  simp only [notLow, Bool.false_eq_true, if_false, (isHighSurrogate_iff high).mpr isHigh, if_true]
  refine (bind_of_ok (literal_eq ['\\', 'u'] (digits' ++ rest))).trans ?_
  rw [bind_of_ok (hexDigits_eq hex' rest), if_pos ((isLowSurrogate_iff low).mpr isLow), pure_eq]

/-- One turn takes a character, however it is written. -/
theorem stringRest_char {lax : Bool} {c : Char} (spelled : SpellsChar lax text c) (b : Char)
    (bound read rest : List Char) :
    stringRest lax (b :: bound) read (text ++ rest) = stringRest lax bound (c :: read) rest := by
  have notQuote : ('\\' : Char) ≠ '"' := by decide
  rw [stringRest, bind_of_ok (peek?_eq _)]
  cases spelled with
  | plain printable notQuote notEscape =>
    simp only [List.cons_append, List.nil_append, List.head?_cons, if_neg notQuote,
      if_neg notEscape, Nat.not_lt_of_le printable, if_false]
    rw [bind_of_ok (skipChar_eq _ _)]
  | short listed =>
    simp only [List.cons_append, List.nil_append, List.head?_cons, notQuote, if_false, if_true]
    rw [bind_of_ok (skipChar_eq _ _), bind_of_ok (escape_short lax listed rest)]
  | unit hex whole =>
    -- What follows the backslash is the letter and the digits, by definition of the escapes.
    simp only [List.cons_append, List.head?_cons, notQuote, if_false, if_true]
    rw [bind_of_ok (skipChar_eq _ _)]
    exact bind_of_ok (unicodeEscape_unit hex whole rest)
  | pair strict hex isHigh hex' isLow =>
    subst strict
    simp only [List.cons_append, List.append_assoc, List.head?_cons, notQuote, if_false, if_true]
    rw [bind_of_ok (skipChar_eq _ _)]
    exact bind_of_ok (unicodeEscape_pair hex isHigh hex' isLow rest)

/-- The characters up to the closing quote, one turn for each. -/
theorem stringRest_eq {lax : Bool} {meant : List Char} (spelled : SpellsChars lax text meant)
    {bound : List Char} (long : meant.length < bound.length) (read rest : List Char) :
    stringRest lax bound read (text ++ '"' :: rest) =
      .ok (String.ofList (read.reverse ++ meant), rest) := by
  induction spelled generalizing bound read with
  | nil =>
    obtain ⟨b, bound, rfl⟩ := List.exists_cons_of_length_pos long
    rw [stringRest, bind_of_ok (peek?_eq _)]
    simp only [List.nil_append, List.head?_cons, if_true, List.append_nil]
    rfl
  | cons first others ih =>
    obtain ⟨b, bound, rfl⟩ := List.exists_cons_of_length_pos (Nat.zero_lt_of_lt long)
    rw [List.append_assoc, stringRest_char first, ih (by simpa using long)]
    simp

theorem length_le_of_spellsChars {lax : Bool} {meant : List Char}
    (spelled : SpellsChars lax text meant) : meant.length ≤ text.length := by
  induction spelled with
  | nil => exact Nat.le_refl _
  | @cons text rest meant c first others ih =>
    have nonempty : 0 < text.length := by
      cases first <;> exact Nat.succ_pos _
    simp only [List.length_append, List.length_cons]
    omega

theorem string_eq {lax : Bool} {meant : String} (spelled : SpellsString lax text meant)
    (rest : List Char) : string lax (text ++ rest) = .ok (meant, rest) := by
  obtain ⟨body, spelled, rfl⟩ := spelled
  have short := length_le_of_spellsChars spelled
  simp only [List.cons_append, List.append_assoc, List.nil_append]
  rw [string, bind_of_ok (skipChar_eq _ _), bind_of_ok (get_eq _),
    stringRest_eq spelled (by simp only [List.length_cons, List.length_append]; omega)]
  simp

end Reader

end Vivarium.Json
