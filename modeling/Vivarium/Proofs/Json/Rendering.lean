import Vivarium.Proofs.Json.Records

/-!
# Written values

What a value is written as is a text of the grammar: each character of a string is escaped as it
has to be, items and members stand between their brackets with a comma between them, and no line
ends inside of it. So whatever reads texts of the grammar reads what was written.
-/
namespace Vivarium.Json

/-- The characters of a text in pieces. -/
def letters (pieces : List String) : List Char := pieces.flatMap String.toList

@[simp] theorem letters_nil : letters [] = [] := rfl

@[simp] theorem letters_cons (piece : String) (pieces : List String) :
    letters (piece :: pieces) = piece.toList ++ letters pieces :=
  List.flatMap_cons

@[simp] theorem letters_append (pieces more : List String) :
    letters (pieces ++ more) = letters pieces ++ letters more :=
  List.flatMap_append

theorem toList_render (value : Value) : value.render.toList = letters value.pieces :=
  String.toList_join

@[simp] theorem letters_ofInt (value : Int) :
    letters (Value.ofInt value).pieces = (toString value).toList := by
  simp [Value.ofInt, Value.pieces]

@[simp] theorem letters_ofNat (value : Nat) :
    letters (Value.ofNat value).pieces = (toString value).toList := by
  simp [Value.ofNat, Value.pieces]

/-! ### Strings -/

section Strings

variable {lax : Bool} {text meant : List Char} {c : Char}

theorem SpellsChars.append {text' meant' : List Char} (front : SpellsChars lax text meant)
    (back : SpellsChars lax text' meant') : SpellsChars lax (text ++ text') (meant ++ meant') := by
  induction front with
  | nil => exact back
  | cons first others ih =>
    rw [List.append_assoc]
    exact .cons first ih

theorem hexDigit_digit (value : Nat) : HexDigit (hexDigit value) (value % 16) := by
  have below : value % 16 < 16 := Nat.mod_lt _ (by decide)
  have digits : ∀ worth < 16, "0123456789abcdef".toList[worth]? =
      some ((Nat.toDigits 16 worth).headD '0') := by decide
  exact .inl (digits _ below)

theorem spellsChar_hexEscape (control : c.toNat < 32) :
    SpellsChar lax (hexEscape c.toNat).toList c := by
  have hex : HexNumber [hexDigit (c.toNat / 4096), hexDigit (c.toNat / 256),
      hexDigit (c.toNat / 16), hexDigit c.toNat] _ :=
    .digits (hexDigit_digit _) (hexDigit_digit _) (hexDigit_digit _) (hexDigit_digit _)
  have number : ((c.toNat / 4096 % 16 * 16 + c.toNat / 256 % 16) * 16 + c.toNat / 16 % 16) * 16 +
      c.toNat % 16 = c.toNat := by omega
  rw [number] at hex
  have spelled : SpellsChar lax _ (Char.ofNat c.toNat) := .unit hex (by omega)
  rw [Char.ofNat_toNat] at spelled
  rwa [hexEscape, String.toList_ofList]

/-- A character is meant by its escape, and one that has none stands for itself. -/
theorem spellsChar_escape (c : Char) :
    SpellsChar lax ((escapeOf? c).elim [c] String.toList) c := by
  -- The characters that have an escape of one letter are known by their codes.
  have named {mark : Char} (code : Nat) (same : c.toNat = code)
      (listed : (mark, Char.ofNat code) ∈ shortEscapes) : SpellsChar lax ['\\', mark] c := by
    rw [← same, Char.ofNat_toNat] at listed
    exact .short listed
  fun_cases escapeOf? c with
  | case1 same => exact named 34 (congrArg Char.toNat same) (by decide)
  | case2 _ same => exact named 92 (congrArg Char.toNat same) (by decide)
  | case3 _ _ same => exact named 10 (congrArg Char.toNat same) (by decide)
  | case4 _ _ _ same => exact named 13 (congrArg Char.toNat same) (by decide)
  | case5 _ _ _ _ same => exact named 9 (congrArg Char.toNat same) (by decide)
  | case6 _ _ _ _ _ same => exact named 8 same (by decide)
  | case7 _ _ _ _ _ _ same => exact named 12 same (by decide)
  | case8 _ _ _ _ _ _ _ control => exact spellsChar_hexEscape control
  | case9 notQuote notEscape _ _ _ _ _ printable =>
    exact .plain (Nat.le_of_not_lt printable) notQuote notEscape

/-- Characters wait until one has to be escaped; those that wait stand for themselves. -/
theorem spellsChars_stringPieces {plain : List Char}
    (waiting : SpellsChars lax plain.reverse plain.reverse) (rest : List Char) :
    SpellsChars lax (letters (stringPieces plain rest)) (plain.reverse ++ rest) := by
  have first (plain : List Char) :
      letters (if plain.isEmpty then [] else [String.ofList plain.reverse]) = plain.reverse := by
    cases plain <;> simp
  induction rest generalizing plain with
  | nil =>
    rw [stringPieces, first, List.append_nil]
    exact waiting
  | cons c rest ih =>
    have spelled : SpellsChar lax _ c := spellsChar_escape c
    rw [stringPieces]
    cases escaped : escapeOf? c with
    | none =>
      rw [escaped] at spelled
      have waiting' : SpellsChars lax (c :: plain).reverse (c :: plain).reverse := by
        rw [List.reverse_cons]
        exact waiting.append (.cons spelled .nil)
      simpa using ih waiting'
    | some escape =>
      rw [escaped] at spelled
      simp only [letters_append, letters_cons, first]
      exact waiting.append (.cons spelled (ih .nil))

theorem spellsChars_of_pieces (meant : List Char) :
    SpellsChars lax (letters (stringPieces [] meant)) meant :=
  spellsChars_stringPieces .nil meant

theorem spellsString_quoted (meant : String) : SpellsString lax (letters (quoted meant)) meant := by
  refine ⟨letters (stringPieces [] meant.toList), spellsChars_of_pieces _, ?_⟩
  simp [quoted]

end Strings

/-! ### Arrays and objects -/

section Sequences

variable {μ : Type} {Item : List Char → μ → Prop}

theorem separator_comma (first : Bool) :
    Separator first (letters (if first then [] else [","])) := by
  cases first
  · exact .comma blanks_nil
  · exact .nothing

theorem sequence_itemPieces (write : μ → Value) (first : Bool) {items : List μ}
    (each : ∀ item ∈ items, Item (letters (write item).pieces) item) :
    Sequence Item ']' first (letters (Value.itemPieces first (items.map write)) ++ [']'])
      items := by
  induction items generalizing first with
  | nil => exact .done blanks_nil
  | cons item items ih =>
    have others := ih false fun other member => each other (List.mem_cons_of_mem _ member)
    have more := Sequence.more blanks_nil (separator_comma first) (each item (by simp)) others
    simpa [Value.itemPieces] using more

theorem bracketed_array (write : μ → Value) {items : List μ}
    (each : ∀ item ∈ items, Item (letters (write item).pieces) item) :
    Bracketed Item '[' ']' (letters (Value.array (items.map write)).pieces) items :=
  ⟨_, sequence_itemPieces write true each, by simp [Value.pieces]⟩

theorem sequence_memberPieces (member : μ → String × Value) (first : Bool) {items : List μ}
    (each : ∀ item ∈ items, Item (letters (quoted (member item).1) ++
      ':' :: letters (member item).2.pieces) item) :
    Sequence Item '\x7d' first
      (letters (Value.memberPieces first (items.map member)) ++ ['\x7d']) items := by
  induction items generalizing first with
  | nil => exact .done blanks_nil
  | cons item items ih =>
    have others := ih false fun other listed => each other (List.mem_cons_of_mem _ listed)
    have more := Sequence.more blanks_nil (separator_comma first) (each item (by simp)) others
    simpa [Value.memberPieces] using more

theorem bracketed_object (member : μ → String × Value) {items : List μ}
    (each : ∀ item ∈ items, Item (letters (quoted (member item).1) ++
      ':' :: letters (member item).2.pieces) item) :
    Bracketed Item '\x7b' '\x7d' (letters (Value.object (items.map member)).pieces) items :=
  ⟨_, sequence_memberPieces member true each, by simp [Value.pieces]⟩

end Sequences

namespace Schema

variable {α ι : Type} [DecidableEq ι] {schema : Schema α ι} {record : α}
  {Spells : (field : ι) → List Char → schema.Value field → Prop}

/-- A record is written as an object of all its fields. -/
theorem spellsRecord_write
    (each : ∀ field, Spells field
      (letters ((schema.codec field).write (schema.get field record)).pieces)
      (schema.get field record)) :
    schema.SpellsRecord Spells (schema.get · record)
      (letters (Codec.writeRecord schema.fields record).pieces) schema.all := by
  have members : Bracketed (fun text field => schema.Member Spells (schema.get · record) text
      (some field)) '\x7b' '\x7d' (letters (Codec.writeRecord schema.fields record).pieces)
      schema.all := by
    rw [Codec.writeRecord, fields, List.map_map]
    exact bracketed_object _ fun field _ =>
      .known (.compact (spellsString_quoted _) (each field))
  exact ⟨schema.all.map some, members.map some fun _ _ _ written => written,
    by simp [List.reduceOption]⟩

end Schema

/-! ### Lines -/

/-- No line ends inside of what the value is written as. -/
def Value.OneLine (value : Value) : Prop := '\n' ∉ letters value.pieces

section Lines

variable {lax : Bool} {text : List Char}

theorem newline_notMem_hexNumber {number : Nat} (hex : HexNumber text number) : '\n' ∉ text := by
  have none : Reader.hexValue? '\n' = none := by decide
  have unlike {worth : Nat} : ¬ HexDigit '\n' worth := fun digit => by
    rw [Reader.hexValue?_of_digit digit] at none
    cases none
  obtain ⟨first, second, third, last⟩ := hex
  simp only [List.mem_cons, List.not_mem_nil, or_false]
  rintro (rfl | rfl | rfl | rfl)
  · exact unlike first
  · exact unlike second
  · exact unlike third
  · exact unlike last

theorem newline_notMem_spellsChar {c : Char} (spelled : SpellsChar lax text c) : '\n' ∉ text := by
  cases spelled with
  | plain printable =>
    rw [List.mem_singleton]
    rintro rfl
    exact absurd printable (by decide)
  | short listed =>
    have marks : ∀ escape ∈ shortEscapes, '\n' ∉ ['\\', escape.1] := by decide
    exact marks _ listed
  | unit hex => simpa using newline_notMem_hexNumber hex
  | pair _ hex _ hex' =>
    simpa using ⟨newline_notMem_hexNumber hex, newline_notMem_hexNumber hex'⟩

theorem newline_notMem_spellsString {meant : String} (spelled : SpellsString lax text meant) :
    '\n' ∉ text := by
  obtain ⟨body, spelled, rfl⟩ := spelled
  -- A line break is a control character, so it is always escaped in a string.
  have inner : '\n' ∉ body := by
    generalize meant.toList = chars at spelled
    induction spelled with
    | nil => exact List.not_mem_nil
    | cons first others ih =>
      rw [List.mem_append]
      exact not_or.mpr ⟨newline_notMem_spellsChar first, ih⟩
  simpa using inner

theorem oneLine_number {text : String} (single : '\n' ∉ text.toList) :
    (Value.number text).OneLine := by
  simpa [Value.OneLine, Value.pieces] using single

theorem oneLine_ofInt (value : Int) : (Value.ofInt value).OneLine := by
  apply oneLine_number
  rw [Reader.toList_toString, List.mem_append]
  rintro (sign | digit)
  · split at sign <;> simp at sign
  · exact absurd ((Reader.digits_toDigits _).2 _ digit) (by decide)

theorem oneLine_ofNat (value : Nat) : (Value.ofNat value).OneLine := oneLine_ofInt value

theorem oneLine_array {items : List Value} (each : ∀ item ∈ items, item.OneLine) :
    (Value.array items).OneLine := by
  have inner (first : Bool) : '\n' ∉ letters (Value.itemPieces first items) := by
    induction items generalizing first with
    | nil => simp [Value.itemPieces]
    | cons item items ih =>
      have single := each item (by simp)
      have others := ih (fun other member => each other (by simp [member])) false
      cases first <;> simpa [Value.itemPieces] using ⟨single, others⟩
  simpa [Value.OneLine, Value.pieces] using inner true

theorem oneLine_object {members : List (String × Value)}
    (each : ∀ member ∈ members, member.2.OneLine) : (Value.object members).OneLine := by
  have inner (first : Bool) : '\n' ∉ letters (Value.memberPieces first members) := by
    induction members generalizing first with
    | nil => simp [Value.memberPieces]
    | cons member members ih =>
      have spelled : SpellsString false (letters (quoted member.1)) member.1 :=
        spellsString_quoted member.1
      have key := newline_notMem_spellsString spelled
      have single := each member (by simp)
      have others := ih (fun other listed => each other (by simp [listed])) false
      cases first <;> simpa [Value.memberPieces] using ⟨key, single, others⟩
  simpa [Value.OneLine, Value.pieces] using inner true

end Lines

end Vivarium.Json
