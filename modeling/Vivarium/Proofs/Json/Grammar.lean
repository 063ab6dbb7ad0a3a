import Vivarium.Json.Reader

/-!
# The texts of JSON values

What a text must look like to be a JSON value, said without a reader: between its tokens there
may be any blanks, a character of a string may stand for itself or be an escape, and a number is
a sign, digits, a fraction and an exponent. The grammar says of strings what they mean; a number
is left as it is written.
-/
namespace Vivarium.Json

/-! ### Blanks -/

def blankChars : List Char := [' ', '\t', '\n', '\r']

/-- Nothing but blanks. -/
def Blanks (text : List Char) : Prop := ∀ c ∈ text, c ∈ blankChars

/-- A value may end before this text: it is empty, or begins with a blank, a comma or a closing
bracket. -/
def Stops (text : List Char) : Prop :=
  ∀ c ∈ text.head?, c ∈ blankChars ∨ c ∈ [',', ']', '\x7d']

/-- A value may begin with this text: its first character is none of those that may come before a
value or end one. -/
def Begins (text : List Char) : Prop :=
  ∃ c others, text = c :: others ∧ c ∉ blankChars ∧ c ∉ [',', ']', '\x7d']

theorem blanks_nil : Blanks [] := by simp [Blanks]

theorem stops_nil : Stops [] := by simp [Stops]

/-! ### Strings -/

/-- The escapes of one letter, and the characters they stand for. -/
def shortEscapes : List (Char × Char) :=
  [('"', '"'), ('\\', '\\'), ('/', '/'), ('b', Char.ofNat 8), ('f', Char.ofNat 12), ('n', '\n'),
    ('r', '\r'), ('t', '\t')]

/-- A hexadecimal digit, in either case, and what it is worth. -/
def HexDigit (c : Char) (worth : Nat) : Prop :=
  "0123456789abcdef".toList[worth]? = some c ∨ "0123456789ABCDEF".toList[worth]? = some c

/-- Four hexadecimal digits, and the number they are. -/
inductive HexNumber : List Char → Nat → Prop
  | digits {a b c d : Char} {w x y z : Nat} (first : HexDigit a w) (second : HexDigit b x)
      (third : HexDigit c y) (last : HexDigit d z) :
      HexNumber [a, b, c, d] (((w * 16 + x) * 16 + y) * 16 + z)

/-- How a character may be written in a string. A `lax` text may have halves of the pairs that
stand for characters outside of the basic plane; there each half counts on its own. -/
inductive SpellsChar (lax : Bool) : List Char → Char → Prop
  | plain {c : Char} (printable : 32 ≤ c.toNat) (notQuote : c ≠ '"') (notEscape : c ≠ '\\') :
      SpellsChar lax [c] c
  | short {mark meant : Char} (listed : (mark, meant) ∈ shortEscapes) :
      SpellsChar lax ['\\', mark] meant
  | unit {digits : List Char} {number : Nat} (hex : HexNumber digits number)
      (whole : lax = true ∨ number < 0xD800 ∨ 0xE000 ≤ number) :
      SpellsChar lax ('\\' :: 'u' :: digits) (Char.ofNat number)
  | pair {digits digits' : List Char} {high low : Nat} (strict : lax = false)
      (hex : HexNumber digits high) (isHigh : 0xD800 ≤ high ∧ high < 0xDC00)
      (hex' : HexNumber digits' low) (isLow : 0xDC00 ≤ low ∧ low < 0xE000) :
      SpellsChar lax ('\\' :: 'u' :: (digits ++ '\\' :: 'u' :: digits'))
        (Char.ofNat (0x10000 + (high - 0xD800) * 0x400 + (low - 0xDC00)))

inductive SpellsChars (lax : Bool) : List Char → List Char → Prop
  | nil : SpellsChars lax [] []
  | cons {text rest meant : List Char} {c : Char} (first : SpellsChar lax text c)
      (others : SpellsChars lax rest meant) : SpellsChars lax (text ++ rest) (c :: meant)

/-- A string in its quotes, and what it means. -/
def SpellsString (lax : Bool) (text : List Char) (meant : String) : Prop :=
  ∃ body, SpellsChars lax body meant.toList ∧ text = '"' :: (body ++ ['"'])

/-! ### Numbers -/

/-- One digit or more. -/
def Digits (text : List Char) : Prop := text ≠ [] ∧ ∀ c ∈ text, c.isDigit = true

/-- The first digit is no sign. -/
theorem Digits.exists_cons {text : List Char} (digits : Digits text) :
    ∃ d others, text = d :: others ∧ d.isDigit = true ∧ d ∉ ['+', '-'] := by
  obtain ⟨filled, all⟩ := digits
  obtain ⟨d, others, rfl⟩ := List.exists_cons_of_ne_nil filled
  have digit : d.isDigit = true := all d (by simp)
  refine ⟨d, others, rfl, digit, fun sign => ?_⟩
  rw [List.mem_cons, List.mem_singleton] at sign
  rcases sign with rfl | rfl
  · exact absurd digit (by decide)
  · exact absurd digit (by decide)

/-- Nothing, or a point and digits. -/
inductive FractionText : List Char → Prop
  | none : FractionText []
  | point {digits : List Char} (nonempty : Digits digits) : FractionText ('.' :: digits)

/-- Nothing, or an exponent, which may have a sign. -/
inductive ExponentText : List Char → Prop
  | none : ExponentText []
  | power {mark : Char} {sign digits : List Char} (marked : mark = 'e' ∨ mark = 'E')
      (signed : sign = [] ∨ sign = ['+'] ∨ sign = ['-']) (nonempty : Digits digits) :
      ExponentText (mark :: (sign ++ digits))

/-- A number. Its first digit is only zero if it is the only one before the point. -/
inductive NumberText : List Char → Prop
  | parts {sign whole fraction exponent : List Char} (signed : sign = [] ∨ sign = ['-'])
      (digits : Digits whole) (noZeros : whole.head? = some '0' → whole = ['0'])
      (point : FractionText fraction) (power : ExponentText exponent) :
      NumberText (sign ++ (whole ++ (fraction ++ exponent)))

/-! ### Arrays and objects -/

/-- What stands before an item, apart from blanks: nothing before the first one, else a comma, which
may have blanks after it. -/
inductive Separator : (first : Bool) → List Char → Prop
  | nothing : Separator true []
  | comma {gap : List Char} (blanks : Blanks gap) : Separator false (',' :: gap)

section Sequences

variable {μ ν : Type} (Item : List Char → μ → Prop)

/-- Items up to a closing bracket. -/
inductive Sequence (closing : Char) : (first : Bool) → List Char → List μ → Prop
  | done {first : Bool} {gap : List Char} (blanks : Blanks gap) :
      Sequence closing first (gap ++ [closing]) []
  | more {first : Bool} {gap separator text rest : List Char} {item : μ} {items : List μ}
      (blanks : Blanks gap) (separated : Separator first separator) (given : Item text item)
      (others : Sequence closing false rest items) :
      Sequence closing first (gap ++ (separator ++ (text ++ rest))) (item :: items)

/-- Items between brackets. -/
def Bracketed (opening closing : Char) (text : List Char) (items : List μ) : Prop :=
  ∃ body, Sequence Item closing true body items ∧ text = opening :: body

variable {Item} {Item' : List Char → ν → Prop} {opening closing : Char} {first : Bool}
  {text : List Char} {items : List μ}

theorem Sequence.map (sequence : Sequence Item closing first text items) (f : μ → ν) (limit : Nat)
    (short : text.length ≤ limit)
    (each : ∀ part item, part.length ≤ limit → Item part item → Item' part (f item)) :
    Sequence Item' closing first text (items.map f) := by
  induction sequence with
  | done blanks => exact .done blanks
  | more blanks separated given others ih =>
    simp only [List.length_append] at short
    exact .more blanks separated (each _ _ (by omega) given) (ih (by omega))

/-- Items may be taken for something else, one by one; each is shorter than the whole. -/
theorem Bracketed.map (bracketed : Bracketed Item opening closing text items) (f : μ → ν)
    (each : ∀ part item, part.length < text.length → Item part item → Item' part (f item)) :
    Bracketed Item' opening closing text (items.map f) := by
  obtain ⟨body, sequence, rfl⟩ := bracketed
  exact ⟨body, sequence.map f body.length (Nat.le_refl _)
    fun part item short given => each part item (Nat.lt_succ_of_le short) given, rfl⟩

theorem Sequence.item_of_mem (sequence : Sequence Item closing first text items) {item : μ}
    (member : item ∈ items) : ∃ part, Item part item := by
  induction sequence with
  | done => exact absurd member List.not_mem_nil
  | more _ _ given _ ih =>
    rcases List.mem_cons.mp member with rfl | later
    · exact ⟨_, given⟩
    · exact ih later

/-- Each item takes a character, the first one perhaps only that of the closing bracket. -/
theorem Sequence.length_le (sequence : Sequence Item closing first text items) :
    items.length + (!first).toNat ≤ text.length := by
  induction sequence with
  | @done first gap blanks => cases first <;> simp
  | more blanks separated given others ih =>
    cases separated <;> simp only [List.length_append, List.length_cons] <;> grind

end Sequences

/-- A member of an object: its name, a colon and a value. -/
inductive MemberText {μ : Type} (lax : Bool) (Item : List Char → μ → Prop) :
    List Char → String × μ → Prop
  | named {key gap gap' text : List Char} {name : String} {value : μ}
      (spelled : SpellsString lax key name) (blanks : Blanks gap) (blanks' : Blanks gap')
      (given : Item text value) :
      MemberText lax Item (key ++ (gap ++ ':' :: (gap' ++ text))) (name, value)

theorem MemberText.compact {μ : Type} {lax : Bool} {Item : List Char → μ → Prop}
    {key text : List Char} {name : String} {value : μ} (spelled : SpellsString lax key name)
    (given : Item text value) : MemberText lax Item (key ++ ':' :: text) (name, value) :=
  .named spelled blanks_nil blanks_nil given

theorem MemberText.imp {μ : Type} {lax : Bool} {Item Item' : List Char → μ → Prop}
    {text : List Char} {member : String × μ} (written : MemberText lax Item text member)
    (each : ∀ part value, part.length < text.length → Item part value → Item' part value) :
    MemberText lax Item' text member := by
  obtain ⟨spelled, blanks, blanks', given⟩ := written
  refine .named spelled blanks blanks' (each _ _ ?_ given)
  simp only [List.length_append, List.length_cons]
  omega

/-- Any value, nested less than so deep. -/
def SpellsValue (lax : Bool) : (depth : Nat) → List Char → Value → Prop
  | 0, _, _ => False
  | _ + 1, text, .null => text = "null".toList
  | _ + 1, text, .bool true => text = "true".toList
  | _ + 1, text, .bool false => text = "false".toList
  | _ + 1, text, .number written => NumberText text ∧ written = String.ofList text
  | _ + 1, text, .string meant => SpellsString lax text meant
  | depth + 1, text, .array items => Bracketed (SpellsValue lax depth) '[' ']' text items
  | depth + 1, text, .object members =>
    Bracketed (MemberText lax (SpellsValue lax depth)) '\x7b' '\x7d' text members

end Vivarium.Json
