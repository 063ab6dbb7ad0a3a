import Vivarium.Json.Codec
import Vivarium.Proofs.Json.Numbers

/-!
# Reading values

A word, a string, an array or an object is read as what its text spells. A value that nothing is
known of is read as well, however deep it is and whatever its numbers and strings are, so a reader
can pass it by.
-/
namespace Vivarium.Json.Reader

variable {α : Type} {text gap after : List Char} {first lax : Bool}

/-! ### Words and strings -/

theorem begins_of_mem {c : Char} {others : List Char}
    (word : c ∈ ['n', 't', 'f', '"', '[', '\x7b']) : Begins (c :: others) := by
  have solid : ['n', 't', 'f', '"', '[', '\x7b'].all (! (blankChars ++ [',', ']', '\x7d']).elem ·) =
      true := by decide
  have notListed : c ∉ blankChars ++ [',', ']', '\x7d'] := by
    simpa using List.all_eq_true.mp solid c word
  rw [List.mem_append, not_or] at notListed
  exact ⟨c, others, rfl, notListed⟩

theorem bool_reads (value : Bool) : Reads bool (toString value).toList value where
  begins := by cases value <;> exact begins_of_mem (by decide)
  read gap rest blanks _ := by
    cases value with
    | true =>
      refine (bind_of_ok (peekToken_eq blanks (by decide) _)).trans ?_
      exact bind_of_ok (literal_eq "true".toList rest)
    | false =>
      refine (bind_of_ok (peekToken_eq blanks (by decide) _)).trans ?_
      exact bind_of_ok (literal_eq "false".toList rest)

theorem begins_of_spellsString {meant : String} (spelled : SpellsString lax text meant) :
    Begins text := by
  obtain ⟨body, -, rfl⟩ := spelled
  exact begins_of_mem (by decide)

theorem peekToken_string (blanks : Blanks gap) {meant : String}
    (spelled : SpellsString lax text meant) (rest : List Char) :
    peekToken (gap ++ (text ++ rest)) = .ok ('"', text ++ rest) := by
  obtain ⟨body, -, rfl⟩ := spelled
  exact peekToken_eq blanks (by decide) _

theorem text_reads {meant : String} (spelled : SpellsString false text meant) :
    Reads Reader.text text meant where
  begins := begins_of_spellsString spelled
  read gap rest blanks _ := by
    rw [Reader.text, bind_of_ok (peekToken_string blanks spelled rest), if_pos rfl,
      string_eq spelled]

/-- A name leads to the one that has it. -/
theorem find?_of_injective {nameOf : α → String} (apart : Function.Injective nameOf) {all : List α}
    {value : α} (listed : value ∈ all) : all.find? (nameOf · == nameOf value) = some value := by
  have known : (all.find? (nameOf · == nameOf value)).isSome :=
    List.find?_isSome.mpr ⟨value, listed, by simp⟩
  obtain ⟨other, found⟩ := Option.isSome_iff_exists.mp known
  have same : nameOf other = nameOf value := by simpa using List.find?_some found
  rw [found, apart same]

theorem name_reads {nameOf : α → String} {all : List α} (apart : Function.Injective nameOf)
    {value : α} (listed : value ∈ all) (spelled : SpellsString false text (nameOf value)) :
    Reads (Codec.name nameOf all).read text value where
  begins := begins_of_spellsString spelled
  read gap rest blanks ends := by
    refine (bind_of_ok (peekToken_string blanks spelled rest)).trans ?_
    refine (bind_of_ok ((text_reads spelled).next ends)).trans ?_
    simp only [find?_of_injective apart listed]
    rfl

theorem option_reads_none (read : Reader α) : Reads (option read) "null".toList none where
  begins := begins_of_mem (by decide)
  read gap rest blanks _ := by
    have skipped : skipBlanks (gap ++ ("null".toList ++ rest)) = .ok ((), "null".toList ++ rest) :=
      skipBlanks_eq blanks (by simp [blankChars])
    rw [option, bind_of_ok skipped, bind_of_ok (peek?_eq _)]
    exact bind_of_ok (literal_eq "null".toList rest)

theorem option_reads_some {read : Reader α} {value : α} (reads : Reads read text value)
    (unlike : text.head? ≠ some 'n') : Reads (option read) text (some value) where
  begins := reads.begins
  read gap rest blanks ends := by
    obtain ⟨c, others, rfl, solid, -⟩ := reads.begins
    have skipped : skipBlanks (gap ++ (c :: others ++ rest)) = .ok ((), c :: others ++ rest) :=
      skipBlanks_eq blanks (by simpa using solid)
    rw [option, bind_of_ok skipped, bind_of_ok (peek?_eq _), List.cons_append, List.head?_cons,
      if_neg (by simpa using unlike)]
    exact bind_of_ok (reads.next ends)

/-! ### Arrays -/

section Arrays

variable {item : Reader α} {items : List α}

/-- After an item its sequence goes on with a comma or the closing bracket. -/
theorem stops_of_sequence {μ : Type} {Item : List Char → μ → Prop} {closing : Char}
    {items : List μ} (sequence : Sequence Item closing false text items)
    (closes : closing ∈ [']', '\x7d']) (after : List Char) : Stops (text ++ after) := by
  cases sequence with
  | done blanks =>
    rw [List.append_assoc]
    exact stops_gap blanks (List.mem_cons_of_mem _ closes) after
  | more blanks separated =>
    cases separated
    simp only [List.append_assoc, List.cons_append]
    exact stops_gap blanks (by simp) _

theorem nextItem_done (blanks : Blanks gap) (first : Bool) (after : List Char) :
    nextItem first (gap ++ ']' :: after) = .ok (false, ']' :: after) := by
  rw [nextItem, bind_of_ok (peekToken_eq blanks (by decide) _), if_pos rfl]
  rfl

theorem nextItem_more {separator : List Char} (blanks : Blanks gap)
    (separated : Separator first separator) (begins : Begins text) (after : List Char) :
    nextItem first (gap ++ (separator ++ (text ++ after))) = .ok (true, text ++ after) := by
  obtain ⟨c, others, rfl, solid, open'⟩ := begins
  have notEnd : c ≠ ']' := by
    rintro rfl
    exact absurd open' (by decide)
  cases separated with
  | nothing =>
    rw [nextItem, List.nil_append, List.cons_append,
      bind_of_ok (peekToken_eq blanks solid _), if_neg notEnd, if_pos rfl]
    rfl
  | comma blanks' =>
    rw [nextItem, List.cons_append, bind_of_ok (peekToken_eq blanks (by decide) _),
      if_neg (by decide), if_neg (by decide), if_pos rfl, bind_of_ok (skipChar_eq _ _),
      List.cons_append, bind_of_ok (peekToken_eq blanks' solid _), if_neg notEnd]
    rfl

theorem itemsRest_eq (sequence : Sequence (Reads item) ']' first text items) {bound : List Char}
    (long : items.length < bound.length) (read : List α) (after : List Char) :
    itemsRest item bound first read (text ++ after) =
      .ok (read.reverse ++ items, ']' :: after) := by
  induction sequence generalizing bound read with
  | done blanks =>
    obtain ⟨b, bound, rfl⟩ := List.exists_cons_of_length_pos long
    rw [itemsRest, List.append_assoc, List.singleton_append,
      bind_of_ok (nextItem_done blanks _ after), List.append_nil]
    rfl
  | more blanks separated given others ih =>
    obtain ⟨b, bound, rfl⟩ := List.exists_cons_of_length_pos (Nat.zero_lt_of_lt long)
    have ends := stops_of_sequence others (by decide) after
    simp only [List.append_assoc]
    rw [itemsRest, bind_of_ok (nextItem_more blanks separated given.begins _), if_pos rfl,
      bind_of_ok (given.next ends), ih (by simpa using long)]
    simp

theorem closeArray_eq (blanks : Blanks gap) (after : List Char) :
    closeArray (gap ++ ']' :: after) = .ok ((), after) := by
  rw [closeArray, bind_of_ok (peekToken_eq blanks (by decide) _), bind_of_ok (skipChar_eq _ _),
    if_pos rfl]
  rfl

theorem begins_of_bracketed {μ : Type} {Item : List Char → μ → Prop} {opening closing : Char}
    {items : List μ} (bracketed : Bracketed Item opening closing text items)
    (opens : opening ∈ ['[', '\x7b']) : Begins text := by
  obtain ⟨body, -, rfl⟩ := bracketed
  exact begins_of_mem (by simp at opens ⊢; tauto)

theorem list_reads (bracketed : Bracketed (Reads item) '[' ']' text items) :
    Reads (list item) text items where
  begins := begins_of_bracketed bracketed (by decide)
  read gap rest blanks _ := by
    obtain ⟨body, sequence, rfl⟩ := bracketed
    have amount := sequence.length_le
    rw [List.cons_append, list, bind_of_ok (peekToken_eq blanks (by decide) _), if_pos rfl,
      bind_of_ok (skipChar_eq _ _), bind_of_ok (get_eq _),
      bind_of_ok (itemsRest_eq sequence (by simp; omega) [] rest)]
    exact bind_of_ok (closeArray_eq blanks_nil rest)

/-- So many items are taken; the blanks before the closing bracket are left. -/
theorem exactItems_eq (sequence : Sequence (Reads item) ']' first text items) {amount : Nat}
    (length : items.length = amount) (after : List Char) :
    ∃ gap, Blanks gap ∧
      exactItems item first amount (text ++ after) =
        .ok (⟨items, length⟩, gap ++ ']' :: after) := by
  induction sequence generalizing amount with
  | done blanks =>
    subst length
    exact ⟨_, blanks, by rw [List.append_assoc]; rfl⟩
  | more blanks separated given others ih =>
    subst length
    obtain ⟨gap, blanks', taken⟩ := ih rfl
    have ends := stops_of_sequence others (by decide) after
    refine ⟨gap, blanks', ?_⟩
    simp only [List.append_assoc, List.length_cons]
    rw [exactItems, bind_of_ok (nextItem_more blanks separated given.begins _), if_pos rfl,
      bind_of_ok (given.next ends), bind_of_ok taken]
    rfl

theorem vector_reads {amount : Nat} {items : Vector α amount}
    (bracketed : Bracketed (Reads item) '[' ']' text items.toList) :
    Reads (vector item amount) text items where
  begins := begins_of_bracketed bracketed (by decide)
  read gap rest blanks _ := by
    obtain ⟨⟨items⟩, rfl⟩ := items
    obtain ⟨body, sequence, rfl⟩ := bracketed
    obtain ⟨gap', blanks', taken⟩ := exactItems_eq sequence rfl rest
    rw [List.cons_append, vector, bind_of_ok (peekToken_eq blanks (by decide) _), if_pos rfl,
      bind_of_ok (skipChar_eq _ _)]
    refine (bind_of_ok taken).trans ?_
    exact bind_of_ok (closeArray_eq blanks' rest)

end Arrays

/-! ### Objects -/

section Objects

theorem nextKey_done (blanks : Blanks gap) (first : Bool) (after : List Char) :
    nextKey first (gap ++ '\x7d' :: after) = .ok (false, '\x7d' :: after) := by
  rw [nextKey, bind_of_ok (peekToken_eq blanks (by decide) _), if_pos rfl]
  rfl

theorem nextKey_more {separator : List Char} (blanks : Blanks gap)
    (separated : Separator first separator) {key : List Char} {name : String}
    (spelled : SpellsString lax key name) (after : List Char) :
    nextKey first (gap ++ (separator ++ (key ++ after))) = .ok (true, key ++ after) := by
  cases separated with
  | nothing =>
    rw [nextKey, List.nil_append, bind_of_ok (peekToken_string blanks spelled _),
      if_neg (by decide), if_pos rfl, if_pos rfl]
    rfl
  | comma blanks' =>
    rw [nextKey, List.cons_append, bind_of_ok (peekToken_eq blanks (by decide) _),
      if_neg (by decide), if_neg (by decide), if_pos rfl, bind_of_ok (skipChar_eq _ _),
      bind_of_ok (peekToken_string blanks' spelled _), if_pos rfl]
    rfl

variable {value : Reader α} {members : List (String × α)}

theorem membersRest_eq
    (sequence : Sequence (MemberText lax (Reads value)) '\x7d' first text members)
    {bound : List Char} (long : members.length < bound.length) (read : List (String × α))
    (after : List Char) :
    membersRest lax value bound first read (text ++ after) =
      .ok (read.reverse ++ members, '\x7d' :: after) := by
  induction sequence generalizing bound read with
  | done blanks =>
    obtain ⟨b, bound, rfl⟩ := List.exists_cons_of_length_pos long
    rw [membersRest, List.append_assoc, List.singleton_append,
      bind_of_ok (nextKey_done blanks _ after), List.append_nil]
    rfl
  | more blanks separated given others ih =>
    obtain ⟨b, bound, rfl⟩ := List.exists_cons_of_length_pos (Nat.zero_lt_of_lt long)
    have ends := stops_of_sequence others (by decide) after
    obtain ⟨spelled, blanks', blanks'', given⟩ := given
    simp only [List.append_assoc, List.cons_append]
    rw [membersRest, bind_of_ok (nextKey_more blanks separated spelled _), if_pos rfl,
      bind_of_ok (string_eq spelled _), bind_of_ok (colon_eq blanks' _),
      bind_of_ok (given.read _ _ blanks'' ends), ih (by simpa using long)]
    simp

end Objects

/-! ### Any value -/

theorem someDigits_eq {digits rest : List Char} (nonempty : Digits digits)
    (ends : NoDigit rest) : someDigits (digits ++ rest) = .ok (digits, rest) := by
  obtain ⟨filled, all⟩ := nonempty
  obtain ⟨taken, left⟩ := takeWhile_digits all ends
  rw [someDigits, bind_of_ok (get_eq _), taken, left,
    if_neg (by simpa using filled), bind_of_ok (set_eq _ _)]
  rfl

theorem optionalChar_some {wanted : List Char} {c : Char} (member : c ∈ wanted)
    (rest : List Char) : optionalChar wanted (c :: rest) = .ok ([c], rest) := by
  rw [optionalChar, bind_of_ok (peek?_eq _), List.head?_cons]
  simp only [List.contains_iff_mem, member, if_true]
  rw [bind_of_ok (skipChar_eq _ _)]
  rfl

theorem optionalChar_none {wanted : List Char} (unlike : ∀ c ∈ text.head?, c ∉ wanted) :
    optionalChar wanted text = .ok ([], text) := by
  rw [optionalChar, bind_of_ok (peek?_eq _)]
  cases text with
  | nil => rfl
  | cons c rest =>
    simp only [List.head?_cons, List.contains_iff_mem, unlike c rfl, if_false]
    rfl

theorem fractionText_parts {fraction power rest : List Char} (point : FractionText fraction)
    (written : ExponentText power) (ends : Stops rest) :
    ∃ mark digits, fraction = mark ++ digits ∧
      optionalChar ['.'] (fraction ++ (power ++ rest)) = .ok (mark, digits ++ (power ++ rest)) ∧
      (if mark.isEmpty then pure [] else someDigits : Reader (List Char))
        (digits ++ (power ++ rest)) = .ok (digits, power ++ rest) := by
  cases point with
  | none =>
    refine ⟨[], [], rfl, optionalChar_none fun c next => ?_, rfl⟩
    cases written with
    | none => simpa using (unlike_of_stops ends next).2.1
    | power marked =>
      obtain rfl := Option.some.inj next
      rcases marked with rfl | rfl <;> decide
  | point nonempty =>
    exact ⟨['.'], _, rfl, optionalChar_some (by decide) _,
      someDigits_eq nonempty (noDigit_of_exponent written ends)⟩

theorem exponentText_parts {power rest : List Char} (written : ExponentText power)
    (ends : Stops rest) :
    ∃ mark sign digits, power = mark ++ (sign ++ digits) ∧
      optionalChar ['e', 'E'] (power ++ rest) = .ok (mark, sign ++ (digits ++ rest)) ∧
      (if mark.isEmpty then pure [] else optionalChar ['+', '-'] : Reader (List Char))
        (sign ++ (digits ++ rest)) = .ok (sign, digits ++ rest) ∧
      (if mark.isEmpty then pure [] else someDigits : Reader (List Char))
        (digits ++ rest) = .ok (digits, rest) := by
  cases written with
  | none =>
    refine ⟨[], [], [], rfl, optionalChar_none fun c next => ?_, rfl, rfl⟩
    obtain ⟨-, -, notSmall, notLarge⟩ := unlike_of_stops ends next
    simp [notSmall, notLarge]
  | @power mark sign digits marked signed nonempty =>
    refine ⟨[mark], sign, digits, rfl, ?_, ?_, someDigits_eq nonempty (noDigit_of_stops ends)⟩
    · rw [List.cons_append, List.append_assoc]
      exact optionalChar_some (by simpa using marked) _
    · rcases signed with rfl | rfl | rfl
      · refine optionalChar_none fun c next => ?_
        obtain ⟨d, others, rfl, -, noSign⟩ := nonempty.exists_cons
        obtain rfl := Option.some.inj next
        exact noSign
      · exact optionalChar_some (by decide) _
      · exact optionalChar_some (by decide) _

theorem optionalChar_sign {sign whole : List Char} (signed : sign = [] ∨ sign = ['-'])
    (nonempty : Digits whole) (after : List Char) :
    optionalChar ['-'] (sign ++ (whole ++ after)) = .ok (sign, whole ++ after) := by
  rcases signed with rfl | rfl
  · obtain ⟨d, others, rfl, -, noSign⟩ := nonempty.exists_cons
    refine optionalChar_none fun c next minus => ?_
    obtain rfl := Option.some.inj next
    exact noSign (List.mem_cons_of_mem _ minus)
  · exact optionalChar_some (by decide) _

theorem numberText_eq (written : NumberText text) {rest : List Char} (ends : Stops rest) :
    numberText (text ++ rest) = .ok (String.ofList text, rest) := by
  obtain ⟨signed, nonempty, noZeros, point, power⟩ := written
  have inWhole := noDigit_of_fraction point power ends
  obtain ⟨mark, digits, rfl, pointed, fractional⟩ := fractionText_parts point power ends
  obtain ⟨mark', sign', digits', rfl, marked, signed', powered⟩ := exponentText_parts power ends
  simp only [List.append_assoc] at *
  have single {whole : List Char} (noZeros : whole.head? = some '0' → whole = ['0']) :
      ¬ (decide (whole.head? = some '0') && decide (1 < whole.length)) = true := by
    rw [Bool.and_eq_true, decide_eq_true_eq, decide_eq_true_eq]
    rintro ⟨zero, long⟩
    rw [noZeros zero] at long
    exact absurd long (by decide)
  rw [numberText, bind_of_ok (optionalChar_sign signed nonempty _),
    bind_of_ok (someDigits_eq nonempty inWhole), if_neg (single noZeros), bind_of_ok pointed]
  refine (ite_bind_of_ok fractional).trans ?_
  refine (bind_of_ok marked).trans ?_
  refine (ite_bind_of_ok signed').trans ?_
  refine (ite_bind_of_ok powered).trans ?_
  simp only [List.append_assoc]
  rfl

/-- Any value, which is nested less deep than the bound is long. -/
theorem anyValue_reads {depth : Nat} {value : Value} (spelled : SpellsValue lax depth text value)
    {bound : List Char} (long : text.length < bound.length) :
    Reads (anyValue lax bound) text value := by
  induction depth generalizing text value bound with
  | zero => exact absurd spelled (by simp [SpellsValue])
  | succ depth ih =>
    obtain ⟨b, bound, rfl⟩ := List.exists_cons_of_length_pos (Nat.zero_lt_of_lt long)
    rw [List.length_cons] at long
    cases value with
    | null =>
      simp only [SpellsValue] at spelled
      subst spelled
      refine ⟨begins_of_mem (by decide), fun gap rest blanks _ => ?_⟩
      refine (bind_of_ok (peekToken_eq blanks (by decide) _)).trans ?_
      exact bind_of_ok (literal_eq "null".toList rest)
    | bool value =>
      cases value <;> simp only [SpellsValue] at spelled <;> subst spelled
      all_goals
        refine ⟨begins_of_mem (by decide), fun gap rest blanks _ => ?_⟩
        refine (bind_of_ok (peekToken_eq blanks (by decide) _)).trans ?_
        exact bind_of_ok (literal_eq _ rest)
    | number written =>
      obtain ⟨number, rfl⟩ := spelled
      refine ⟨begins_of_numberText number, fun gap rest blanks ends => ?_⟩
      obtain ⟨c, start, peeked⟩ := peekToken_number blanks number rest
      rw [anyValue, bind_of_ok peeked]
      -- The first character chooses the branch; only the last one begins with a number.
      split
      all_goals first
        | exact absurd start (by decide)
        | rw [if_pos start]
          exact bind_of_ok (numberText_eq number ends)
    | string meant =>
      refine ⟨begins_of_spellsString spelled, fun gap rest blanks _ => ?_⟩
      refine (bind_of_ok (peekToken_string blanks spelled rest)).trans ?_
      exact bind_of_ok (string_eq spelled rest)
    | array items =>
      -- Each item is shorter than the array, so what is left of the bound is enough for it.
      have bracketed := Bracketed.map spelled id fun part item short given =>
        ih given (by omega : part.length < bound.length)
      rw [List.map_id] at bracketed
      have reads := list_reads bracketed
      refine ⟨reads.begins, fun gap rest blanks ends => ?_⟩
      obtain ⟨body, -, rfl⟩ := spelled
      refine (bind_of_ok (peekToken_eq blanks (by decide) _)).trans ?_
      exact bind_of_ok (reads.next ends)
    | object members =>
      have bracketed := Bracketed.map spelled id fun part member short written =>
        written.imp fun part' value short' given =>
          ih given (by omega : part'.length < bound.length)
      rw [List.map_id] at bracketed
      refine ⟨begins_of_bracketed bracketed (by decide), fun gap rest blanks _ => ?_⟩
      obtain ⟨body, sequence, rfl⟩ := bracketed
      have amount := sequence.length_le
      refine (bind_of_ok (peekToken_eq blanks (by decide) _)).trans ?_
      refine (bind_of_ok (skipChar_eq _ _)).trans ?_
      refine (bind_of_ok (get_eq _)).trans ?_
      refine (bind_of_ok (membersRest_eq sequence (by simp; omega) [] rest)).trans ?_
      exact bind_of_ok (skipChar_eq _ _)

theorem skipValue_reads {depth : Nat} {value : Value}
    (spelled : SpellsValue true depth text value) : Reads skipValue text () where
  begins := by
    have long : text.length < (' ' :: text).length := Nat.lt_succ_self _
    exact (anyValue_reads spelled long).begins
  read gap rest blanks ends := by
    have long : text.length < (' ' :: (gap ++ (text ++ rest))).length := by simp; omega
    rw [skipValue, bind_of_ok (get_eq _)]
    exact bind_of_ok ((anyValue_reads spelled long).read gap rest blanks ends)

end Vivarium.Json.Reader
