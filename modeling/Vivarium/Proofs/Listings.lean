import Mathlib
import Vivarium.Instruction

/-!
# Words, instructions and listings

A word belongs to one of three bands, and its band says how it is decoded: to a number, to
an opcode or to nothing. Each of the three keeps the word, so encoding gives it back; the
other way round an instruction comes back if it stands in the band of its word.

A listing shows the instructions of a genome with a space between them. No instruction
shows a space, so the listing falls apart again at its spaces, and a number, a mnemonic and
a word without meaning are told apart by their characters.
-/
namespace Vivarium

namespace Opcode

theorem index_of_ofIndex? {opcode : Opcode} {index : Nat} (found : ofIndex? index = some opcode) :
    opcode.index = index := by
  have listed : ∀ place : Fin all.size, all[place].index = place := by decide
  obtain ⟨inside, rfl⟩ := Array.getElem?_eq_some_iff.mp found
  exact listed ⟨index, inside⟩

theorem ofIndex?_eq_none_iff {index : Nat} : ofIndex? index = none ↔ 30 ≤ index := by
  rw [ofIndex?, Array.getElem?_eq_none_iff]
  rfl

theorem mnemonic_injective : Function.Injective mnemonic := by
  have back (opcode : Opcode) : ofMnemonic? opcode.mnemonic = some opcode := by
    cases opcode <;> decide
  exact fun first second same =>
    Option.some.inj ((back first).symm.trans ((congrArg ofMnemonic? same).trans (back second)))

theorem isLower_of_mem_mnemonic {opcode : Opcode} {c : Char}
    (shown : c ∈ opcode.mnemonic.toList) : c.isLower = true := by
  have lower : opcode.mnemonic.toList.all Char.isLower = true := by
    cases opcode <;> decide +kernel
  exact List.all_eq_true.mp lower c shown

end Opcode

namespace Instruction

/-! ### Bands -/

/-- The words that stand for themselves. -/
def NumberBand (word : Int) : Prop := -literalBound < word ∧ word < literalBound

/-- The words of the opcodes. -/
def OpcodeBand (word : Int) : Prop := literalBound ≤ word ∧ word < literalBound + opcodeCount

variable {word : Int}

theorem decode_of_number (number : NumberBand word) : decode word = literal word :=
  if_pos number

theorem decode_of_opcode (band : OpcodeBand word) : ∃ opcode : Opcode,
    decode word = op opcode ∧ opcode.word = word := by
  obtain ⟨low, high⟩ := band
  cases found : Opcode.ofIndex? (word - literalBound).toNat with
  | none =>
    rw [Opcode.ofIndex?_eq_none_iff] at found
    unfold opcodeCount at high
    omega
  | some opcode =>
    have index := Opcode.index_of_ofIndex? found
    refine ⟨opcode, ?_, by rw [Opcode.word, index]; omega⟩
    rw [decode, if_neg (by omega), if_neg (by omega), found]

theorem decode_of_neither (notNumber : ¬ NumberBand word) (notOpcode : ¬ OpcodeBand word) :
    decode word = invalid word := by
  unfold NumberBand at notNumber
  rw [decode, if_neg notNumber]
  split
  next => rfl
  next high =>
    have above : Opcode.ofIndex? (word - literalBound).toNat = none := by
      rw [Opcode.ofIndex?_eq_none_iff]
      unfold OpcodeBand opcodeCount at notOpcode
      omega
    rw [above]

/-- A word is decoded by its band. -/
theorem decode_cases (word : Int) :
    (NumberBand word ∧ decode word = literal word) ∨
      (OpcodeBand word ∧ ∃ opcode : Opcode, decode word = op opcode ∧ opcode.word = word) ∨
      (¬ NumberBand word ∧ ¬ OpcodeBand word ∧ decode word = invalid word) := by
  by_cases number : NumberBand word
  · exact .inl ⟨number, decode_of_number number⟩
  · by_cases band : OpcodeBand word
    · exact .inr (.inl ⟨band, decode_of_opcode band⟩)
    · exact .inr (.inr ⟨number, band, decode_of_neither number band⟩)

/-! ### Back and forth -/

theorem encode_decode (word : Int) : (decode word).encode = word := by
  rcases decode_cases word with ⟨-, decoded⟩ | ⟨-, opcode, decoded, same⟩ | ⟨-, -, decoded⟩
  · rw [decoded, encode]
  · rw [decoded, encode, same]
  · rw [decoded, encode]

theorem decode_injective : Function.Injective decode :=
  Function.LeftInverse.injective encode_decode

/-- The instruction stands in the band of its word. -/
def InBand : Instruction → Prop
  | literal value => NumberBand value
  | op _ => True
  | invalid word => ¬ NumberBand word ∧ ¬ OpcodeBand word

theorem decode_encode_iff (instruction : Instruction) :
    decode instruction.encode = instruction ↔ instruction.InBand := by
  cases instruction with
  | op opcode => exact iff_of_true (decode_word opcode) trivial
  | literal word | invalid word =>
    simp only [encode, InBand]
    rcases decode_cases word with ⟨number, decoded⟩ | ⟨band, opcode, decoded, -⟩ |
      ⟨number, band, decoded⟩
    · simp [decoded, number]
    · have notNumber : ¬ NumberBand word := fun number => Int.not_lt.mpr band.1 number.2
      simp [decoded, band, notNumber]
    · simp [decoded, number, band]

theorem map_decode_assemble_iff (program : List Instruction) :
    (assemble program).map decode = program ↔ ∀ instruction ∈ program, instruction.InBand := by
  induction program with
  | nil => simp [assemble]
  | cons first rest ih =>
    rw [assemble, List.map_cons, List.map_cons, List.cons.injEq, List.forall_mem_cons,
      decode_encode_iff]
    exact and_congr_right fun _ => ih

/-! ### Machine words -/

/-- The difference of two words, unless it is none. -/
def checkedSub (a b : Int32) : Option Int32 :=
  if a.toBitVec.ssubOverflow b.toBitVec then none else some (a - b)

/-- Decoding with words of 32 bits: a word is an opcode if the difference to the first
opcode is a word, not negative, and the index of an opcode. -/
def decodeWord (word : Int32) : Instruction :=
  if -1024 < word ∧ word < 1024 then literal word.toInt
  else
    match checkedSub word 1024 with
    | none => invalid word.toInt
    | some index =>
      if index < 0 then invalid word.toInt
      else
        match Opcode.ofIndex? index.toNatClampNeg with
        | some opcode => op opcode
        | none => invalid word.toInt

theorem toInt_of_checkedSub {a b difference : Int32} (found : checkedSub a b = some difference) :
    difference.toInt = a.toInt - b.toInt := by
  unfold checkedSub at found
  split at found
  next => simp at found
  next fits =>
    obtain rfl := Option.some.inj found
    exact BitVec.toInt_sub_of_not_ssubOverflow fits

theorem lt_of_checkedSub_eq_none {a b : Int32} (missing : checkedSub a b = none)
    (positive : 0 ≤ b.toInt) : a.toInt < b.toInt := by
  unfold checkedSub at missing
  split at missing
  next overflows =>
    rw [BitVec.ssubOverflow, Bool.or_eq_true, decide_eq_true_eq, decide_eq_true_eq] at overflows
    have small : a.toBitVec.toInt < 2147483648 := a.toInt_lt
    change a.toBitVec.toInt < b.toBitVec.toInt
    change 0 ≤ b.toBitVec.toInt at positive
    omega
  next => simp at missing

/-- No word of 32 bits makes decoding fail: a difference that is no word comes from a word
below the opcodes. -/
theorem decodeWord_eq (word : Int32) : decodeWord word = decode word.toInt := by
  have first : (1024 : Int32).toInt = literalBound := rfl
  have last : (-1024 : Int32).toInt = -literalBound := rfl
  unfold decodeWord decode
  simp only [Int32.lt_iff_toInt_lt, first, last]
  split
  next => rfl
  next =>
    cases found : checkedSub word 1024 with
    | none =>
      have low : word.toInt < literalBound := lt_of_checkedSub_eq_none found (by decide)
      rw [if_pos low]
    | some index =>
      have difference : index.toInt = word.toInt - literalBound := toInt_of_checkedSub found
      have negative : word.toInt - literalBound < (0 : Int32).toInt ↔ word.toInt < literalBound :=
        sub_neg
      simp only [← Int32.toNat_toInt, difference]
      exact if_congr negative rfl rfl

/-! ### Texts -/

theorem of_mem_repr {value : Int} {c : Char} (shown : c ∈ value.repr.toList) :
    c = '-' ∨ c.isDigit = true := by
  rw [Int.repr_eq_if] at shown
  split at shown
  next =>
    rw [Nat.toList_repr] at shown
    exact .inr (Nat.isDigit_of_mem_toDigits (by decide) (by decide) shown)
  next =>
    rw [String.toList_append, List.mem_append, Nat.toList_repr] at shown
    rcases shown with sign | digit
    · exact .inl (by simpa using sign)
    · exact .inr (Nat.isDigit_of_mem_toDigits (by decide) (by decide) digit)

theorem text_ne_empty (instruction : Instruction) : instruction.text ≠ "" := by
  cases instruction with
  | literal value =>
    rw [text, Int.toString_eq_repr, Int.repr_eq_if]
    split
    next => exact Nat.repr_ne_empty
    next => simp
  | op opcode => cases opcode <;> decide
  | invalid word => simp [text]

theorem space_notMem_text (instruction : Instruction) : ' ' ∉ instruction.text.toList := by
  intro shown
  cases instruction with
  | literal value => exact absurd (of_mem_repr shown) (by decide)
  | op opcode => exact absurd (Opcode.isLower_of_mem_mnemonic shown) (by decide)
  | invalid word =>
    rw [text, String.toList_append, List.mem_append] at shown
    rcases shown with mark | number
    · exact absurd mark (by decide)
    · exact absurd (of_mem_repr number) (by decide)

theorem mark_mem_text (word : Int) : '?' ∈ (invalid word).text.toList := by
  simp [text]

/-- A number begins with a digit or its sign, a mnemonic with a letter. -/
theorem literal_text_ne_mnemonic (value : Int) (opcode : Opcode) :
    (literal value).text ≠ (op opcode).text := by
  intro same
  obtain ⟨c, shown⟩ := List.exists_mem_of_ne_nil _ (mt String.toList_eq_nil_iff.mp
    (text_ne_empty (literal value)))
  have listed : c ∈ (op opcode).text.toList := same ▸ shown
  have lower := Opcode.isLower_of_mem_mnemonic listed
  rcases of_mem_repr shown with rfl | digit
  · exact absurd lower (by decide)
  · rw [Char.isLower, Bool.and_eq_true, decide_eq_true_eq] at lower
    rw [Char.isDigit, Bool.and_eq_true, decide_eq_true_eq, decide_eq_true_eq] at digit
    exact absurd (UInt32.le_trans lower.1 digit.2) (by decide)

theorem text_injective : Function.Injective text := by
  intro first second same
  have unmarkedNumber (value : Int) : '?' ∉ (literal value).text.toList := fun shown =>
    absurd (of_mem_repr shown) (by decide)
  have unmarkedOpcode (opcode : Opcode) : '?' ∉ (op opcode).text.toList := fun shown =>
    absurd (Opcode.isLower_of_mem_mnemonic shown) (by decide)
  cases first with
  | literal value =>
    cases second with
    | literal value' => exact congrArg literal (Int.repr_inj.mp same)
    | op opcode => exact absurd same (literal_text_ne_mnemonic value opcode)
    | invalid word => exact absurd (same ▸ mark_mem_text word) (unmarkedNumber value)
  | op opcode =>
    cases second with
    | literal value => exact absurd same.symm (literal_text_ne_mnemonic value opcode)
    | op opcode' => exact congrArg op (Opcode.mnemonic_injective same)
    | invalid word => exact absurd (same ▸ mark_mem_text word) (unmarkedOpcode opcode)
  | invalid word =>
    cases second with
    | literal value => exact absurd (same ▸ mark_mem_text word) (unmarkedNumber value)
    | op opcode => exact absurd (same ▸ mark_mem_text word) (unmarkedOpcode opcode)
    | invalid word' =>
      exact congrArg invalid (Int.repr_inj.mp ((String.append_right_inj "?").mp same))

/-! ### Listings -/

/-- A listing falls apart at its spaces into the texts of its words. -/
theorem splitOn_disassemble {code : List Int} (some : code ≠ []) :
    (disassemble code).toList.splitOn ' ' = code.map fun word => (decode word).text.toList := by
  rw [disassemble, String.toList_intercalate, List.map_map]
  refine List.splitOn_intercalate ' ' ?_ (mt List.map_eq_nil_iff.mp some)
  intro shown listed
  obtain ⟨word, -, rfl⟩ := List.mem_map.mp listed
  exact space_notMem_text (decode word)

theorem disassemble_ne_empty {code : List Int} (some : code ≠ []) : disassemble code ≠ "" := by
  intro empty
  have apart := splitOn_disassemble some
  rw [empty] at apart
  have blank : [] ∈ code.map fun word => (decode word).text.toList := by
    rw [← apart]
    exact List.mem_singleton.mpr rfl
  obtain ⟨word, -, shown⟩ := List.mem_map.mp blank
  exact text_ne_empty (decode word) (String.toList_eq_nil_iff.mp shown)

theorem disassemble_injective : Function.Injective disassemble := by
  intro first second same
  have texts : Function.Injective fun word => (decode word).text.toList :=
    fun _ _ shown => decode_injective (text_injective (String.toList_injective shown))
  by_cases none : first = []
  · by_contra different
    subst none
    exact disassemble_ne_empty (Ne.symm different) same.symm
  · have some : second ≠ [] := by
      rintro rfl
      exact disassemble_ne_empty none same
    apply List.map_injective_iff.mpr texts
    rw [← splitOn_disassemble none, ← splitOn_disassemble some, same]

/-- The instructions of a program stand in the bands of their words if its numbers and its
words without meaning do; an opcode has no other word. -/
theorem forall_inBand_iff (program : List Instruction) :
    (∀ instruction ∈ program, instruction.InBand) ↔
      (∀ value, literal value ∈ program → NumberBand value) ∧
        ∀ word, invalid word ∈ program → ¬ NumberBand word ∧ ¬ OpcodeBand word := by
  constructor
  · intro inBand
    exact ⟨fun value listed => inBand _ listed, fun word listed => inBand _ listed⟩
  · rintro ⟨numbers, meaningless⟩ instruction listed
    cases instruction with
    | literal value => exact numbers value listed
    | op opcode => trivial
    | invalid word => exact meaningless word listed

/-- A genome is kept by its instructions and by its listing, and decoding is the same with
machine words. A program is kept by its words if its instructions stand in their bands. -/
theorem codes_lossless :
    (∀ code : List Int, assemble (code.map decode) = code) ∧
      (∀ program : List Instruction, (assemble program).map decode = program ↔
        (∀ value, literal value ∈ program → NumberBand value) ∧
          ∀ word, invalid word ∈ program → ¬ NumberBand word ∧ ¬ OpcodeBand word) ∧
      (∀ word : Int32, decodeWord word = decode word.toInt) ∧
      Function.Injective disassemble := by
  refine ⟨fun code => ?_, fun program => ?_, decodeWord_eq, disassemble_injective⟩
  · rw [assemble, List.map_map]
    exact List.map_id'' encode_decode code
  · exact (map_decode_assemble_iff program).trans (forall_inBand_iff program)

end Instruction

end Vivarium
