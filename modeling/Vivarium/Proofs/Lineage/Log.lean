import Vivarium.Lineage.Log
import Vivarium.Proofs.Config.Fields
import Vivarium.Proofs.Json.Rendering

/-!
# The lineage log read back

A birth is written as an object of all its fields, on one line, and reading the line gives the same
birth. What a log holds is the old content and the lines of its births, however its buffer is
emptied in between; so a log on a file of whole lines has one more line per birth.
-/
namespace Vivarium

open Json (Codec Reads letters)

namespace BirthRecord

/-! ### Births as objects -/

inductive Field where
  | id
  | parent
  | iteration
  | offset
  | energy
  | code
  deriving DecidableEq

def Field.Value : Field → Type
  | .id | .iteration | .offset => Nat
  | .parent => Option Nat
  | .energy => Int
  | .code => List Int

def schema : Json.Schema BirthRecord Field where
  Value := Field.Value
  codec
    | .id | .iteration | .offset => largeCount
    | .parent => largeCount.option
    | .energy => amount
    | .code => codeWord.list
  key
    | .id => "id"
    | .parent => "parent"
    | .iteration => "iteration"
    | .offset => "offset"
    | .energy => "energy"
    | .code => "code"
  get
    | .id => id
    | .parent => parent
    | .iteration => iteration
    | .offset => offset
    | .energy => energy
    | .code => code
  build values :=
    { id := values .id, parent := values .parent, iteration := values .iteration,
      offset := values .offset, energy := values .energy, code := values .code }
  all := [.id, .parent, .iteration, .offset, .energy, .code]
  get_build _ field := by cases field <;> rfl
  build_get _ := rfl
  mem_all field := by cases field <;> decide
  key_injective first second same := by cases first <;> cases second <;> simp_all

theorem fields_eq : fields = schema.fields := rfl

/-- The numbers of a record are of the sizes that it is written with. -/
structure Fits (record : BirthRecord) : Prop where
  id : record.id < limit64
  parent : ∀ parent ∈ record.parent, parent < limit64
  iteration : record.iteration < limit64
  offset : record.offset < limit64
  energy : isAmount record.energy = true
  code : ∀ word ∈ record.code, -2147483648 ≤ word ∧ word ≤ 2147483647

variable {record : BirthRecord}

theorem reads_word {word : Int} (within : -2147483648 ≤ word ∧ word ≤ 2147483647) :
    Reads codeWord.read (letters (codeWord.write word).pieces) word := by
  have fits : Json.Reader.Within64 word := by
    simp only [Json.Reader.Within64, Json.Reader.negativeLimit, Json.Reader.significandLimit]
    omega
  simpa [codeWord, Codec.integer] using Json.Reader.integer_reads fits within

theorem reads_count {value : Nat} (small : value < limit64) :
    Reads largeCount.read (letters (largeCount.write value).pieces) value := by
  simpa [largeCount, Codec.count] using largeCount_reads small

/-- Each field is read back from what it is written as. -/
theorem reads_field (fits : record.Fits) (field : Field) :
    Reads (schema.codec field).read
      (letters ((schema.codec field).write (schema.get field record)).pieces)
      (schema.get field record) := by
  cases field with
  | id => exact reads_count fits.id
  | iteration => exact reads_count fits.iteration
  | offset => exact reads_count fits.offset
  | parent =>
    have reads (parent : Option Nat) (within : ∀ known ∈ parent, known < limit64) :
        Reads largeCount.option.read (letters (largeCount.option.write parent).pieces) parent := by
      cases parent with
      | none => exact Json.Reader.option_reads_none _
      | some known =>
        have written : letters (largeCount.option.write (some known)).pieces =
            (toString known).toList := Json.letters_ofNat known
        rw [written]
        exact seed_reads (within known rfl)
    exact reads record.parent fits.parent
  | energy =>
    have written : letters (amount.write record.energy).pieces = (toString record.energy).toList :=
      Json.letters_ofInt record.energy
    show Reads amount.read (letters (amount.write record.energy).pieces) record.energy
    rw [written]
    exact amount_reads fits.energy
  | code =>
    exact Json.Reader.list_reads
      (Json.bracketed_array codeWord.write fun word member => reads_word (fits.code word member))

/-- A birth is read back from what it is written as. -/
theorem ofText_toText (fits : record.Fits) : codec.ofText (codec.toText record) = .ok record := by
  have spelled := Json.Schema.spellsRecord_write (reads_field fits)
  have reads := Json.Schema.strictCodec_reads spelled (by decide) blank
    (by decide : ∀ key ∈ ["id", "iteration", "offset", "energy", "code"],
      key ∈ schema.all.map schema.key)
  rw [Json.Schema.fill_self _ _ _ schema.mem_all] at reads
  refine Json.Reader.run_of_reads reads Json.blanks_nil Json.blanks_nil ?_
  rw [Codec.toText, Json.toList_render, List.append_nil]
  rfl

/-- A birth is written on one line. -/
theorem newline_notMem_toText (record : BirthRecord) :
    '\n' ∉ (codec.toText record).toList := by
  rw [Codec.toText, Json.toList_render]
  have single (field : Field) : ((schema.field field).write record).OneLine := by
    cases field with
    | id => exact Json.oneLine_ofNat record.id
    | iteration => exact Json.oneLine_ofNat record.iteration
    | offset => exact Json.oneLine_ofNat record.offset
    | energy => exact Json.oneLine_ofInt record.energy
    | parent =>
      have parent (known : Option Nat) : (Json.Value.ofOption .ofNat known).OneLine := by
        cases known with
        | none => exact (by decide : '\n' ∉ letters ["null"])
        | some known => exact Json.oneLine_ofNat known
      exact parent record.parent
    | code =>
      have words : ∀ item ∈ record.code.map Json.Value.ofInt, item.OneLine := by
        intro item member
        obtain ⟨word, -, rfl⟩ := List.mem_map.mp member
        exact Json.oneLine_ofInt word
      exact Json.oneLine_array words
  refine Json.oneLine_object fun member listed => ?_
  obtain ⟨_, known, rfl⟩ := List.mem_map.mp listed
  obtain ⟨field, -, rfl⟩ := List.mem_map.mp (fields_eq ▸ known)
  exact single field

end BirthRecord

namespace Lineage.Log

variable {log : Log}

/-! ### What a log holds -/

/-- A piece comes after what was written so far, whether it waits or makes room or goes straight
through. -/
theorem content_writePiece (log : Log) (piece : String) :
    (log.writePiece piece).content = log.content ++ piece := by
  unfold writePiece
  generalize made : (if bufferSize < log.buffer.utf8ByteSize + piece.utf8ByteSize then log.flush
    else log) = ready
  -- A piece that goes straight to the file leaves nothing behind it in the buffer.
  have empty : bufferSize ≤ piece.utf8ByteSize → ready.buffer = "" := by
    intro large
    split at made
    next => rw [← made, flush]
    next room =>
      rw [← made]
      exact String.utf8ByteSize_eq_zero_iff.mp (by omega)
  have kept : ready.content = log.content := by
    split at made
    next => rw [← made, content_flush]
    next => rw [made]
  rw [← kept]
  dsimp only
  split
  next large => simp [content, empty large]
  next => simp [content, String.append_assoc]

theorem content_foldl (log : Log) (pieces : List String) :
    (pieces.foldl writePiece log).content = log.content ++ String.join pieces := by
  induction pieces generalizing log with
  | nil => simp
  | cons piece pieces ih =>
    rw [List.foldl_cons, ih, content_writePiece, String.join_cons, String.append_assoc]

/-- The line of a birth. -/
def line (record : BirthRecord) : String := BirthRecord.codec.toText record ++ "\n"

theorem content_write (log : Log) (record : BirthRecord) :
    (log.write record).content = log.content ++ line record := by
  have joined : String.join record.line = line record := by
    simp [BirthRecord.line, line, Codec.toText, Json.Value.render, String.join_append]
  rw [← joined, ← content_foldl, write]

theorem written_writePiece (log : Log) (piece : String) :
    (log.writePiece piece).written = log.written := by
  unfold writePiece
  dsimp only
  split <;> split <;> rfl

theorem written_write (log : Log) (record : BirthRecord) :
    (log.write record).written = log.written := by
  have kept (pieces : List String) : (pieces.foldl writePiece log).written = log.written := by
    induction pieces generalizing log with
    | nil => rfl
    | cons piece pieces ih => rw [List.foldl_cons, ih, written_writePiece]
  exact kept record.line

/-- A birth is counted as long as the count has room for it. -/
theorem append_eq (log : Log) (record : BirthRecord) :
    log.append record =
      if log.written + 1 < limit64 then
        .ok { log.write record with written := log.written + 1 }
      else .error .countOverflow := by
  simp only [append, Count.add, written_write]
  split <;> rfl

theorem add_of_room (room : log.written + 1 < limit64) (record : BirthRecord) :
    log.add record = { log.write record with written := log.written + 1 } := by
  rw [add, append_eq, if_pos room]
  rfl

theorem content_add (log : Log) (record : BirthRecord) :
    (log.add record).content = log.content ++ line record := by
  rw [← content_write, add, append_eq]
  split <;> simp only [Except.toOption, Option.getD_some, Option.getD_none, content]

theorem written_foldl_add {records : List BirthRecord}
    (room : log.written + records.length < limit64) :
    (records.foldl add log).written = log.written + records.length := by
  induction records generalizing log with
  | nil => rfl
  | cons record records ih =>
    rw [List.length_cons] at room ⊢
    have counted : (log.add record).written = log.written + 1 := by
      rw [add_of_room (by omega)]
    rw [List.foldl_cons, ih (by omega), counted]
    omega

/-- Any number of births is appended, unless there are too many to be counted. -/
theorem foldlM_append (records : List BirthRecord) (ready : log.written < limit64) :
    records.foldlM append log =
      if log.written + records.length < limit64 then .ok (records.foldl add log)
      else .error .countOverflow := by
  induction records generalizing log with
  | nil =>
    rw [List.length_nil, Nat.add_zero, if_pos ready]
    rfl
  | cons record records ih =>
    rw [List.foldlM_cons, List.foldl_cons, List.length_cons, append_eq]
    by_cases room : log.written + 1 < limit64
    · have counted : (log.add record).written = log.written + 1 := by rw [add_of_room room]
      have appended : records.foldlM append (log.add record) = _ := ih (by rwa [counted])
      rw [counted, Nat.add_assoc, Nat.add_comm 1] at appended
      rw [if_pos room, ← add_of_room room]
      exact appended
    · rw [if_neg room, if_neg (by omega)]
      rfl

theorem content_foldl_add (log : Log) (records : List BirthRecord) :
    (records.foldl add log).content = log.content ++ String.join (records.map line) := by
  induction records generalizing log with
  | nil => simp
  | cons record records ih =>
    rw [List.foldl_cons, ih, content_add, List.map_cons, String.join_cons, String.append_assoc]

/-! ### Lines -/

/-- The lines of a file; each ends with a line break, and what comes after the last one is none. -/
def linesOf (file : String) : List String :=
  (file.toList.splitOn '\n').dropLast.map String.ofList

/-- The file consists of lines: it is empty, or ends with a line break. -/
def Whole (file : String) : Prop := file = "" ∨ ∃ front, file = front ++ "\n"

theorem whole_append (content body : String) : Whole (content ++ (body ++ "\n")) :=
  .inr ⟨content ++ body, by rw [String.append_assoc]⟩

/-- A further line is a line of its own. -/
theorem linesOf_append {content body : String} (whole : Whole content)
    (single : '\n' ∉ body.toList) :
    linesOf (content ++ (body ++ "\n")) = linesOf content ++ [body] := by
  have ended (text : List Char) : ((text ++ ['\n']).splitOn '\n').dropLast = text.splitOn '\n' := by
    rw [List.splitOn_append_cons_self, List.splitOn_nil, List.dropLast_concat]
  have last : body.toList.splitOn '\n' = [body.toList] := List.splitOn_eq_singleton single
  have newline : "\n".toList = ['\n'] := rfl
  simp only [linesOf, String.toList_append, newline, ← List.append_assoc, ended]
  -- If there is a line already, its line break separates it from the new one.
  rcases whole with rfl | ⟨front, rfl⟩
  · simp [last]
  · rw [String.toList_append, newline, ended, List.append_assoc, List.singleton_append,
      List.splitOn_append_cons_self, last]
    simp

theorem linesOf_join {content : String} (whole : Whole content) (records : List BirthRecord) :
    linesOf (content ++ String.join (records.map line)) =
      linesOf content ++ records.map BirthRecord.codec.toText := by
  induction records generalizing content with
  | nil => simp
  | cons record records ih =>
    have single := BirthRecord.newline_notMem_toText record
    rw [List.map_cons, String.join_cons, ← String.append_assoc, line,
      ih (whole_append content _), linesOf_append whole single, List.append_assoc]
    rfl

/-- The log on a file with this content after these births. -/
def after (content : String) (records : List BirthRecord) : Log :=
  records.foldl add (openOn content)

/-- On a file of whole lines a log that is closed has left the old content and behind it one line
for each birth, in order, and has counted them; more of them than can be counted end the program.
No line has a line break in it, and reading the new lines gives the births. -/
theorem log_reads_back {content : String} (whole : Whole content) {records : List BirthRecord}
    (fits : ∀ record ∈ records, record.Fits) :
    records.foldlM append (openOn content) =
        (if records.length < limit64 then .ok (after content records)
          else .error .countOverflow) ∧
      (records.length < limit64 → (after content records).written = records.length) ∧
      (after content records).close = content ++ String.join (records.map line) ∧
      linesOf (after content records).close =
        linesOf content ++ records.map BirthRecord.codec.toText ∧
      (∀ record ∈ records, '\n' ∉ (BirthRecord.codec.toText record).toList) ∧
      ((linesOf (after content records).close).drop (linesOf content).length).map
        BirthRecord.codec.ofText = records.map .ok := by
  have closed : (after content records).close = content ++ String.join (records.map line) := by
    rw [close_eq_content, after, content_foldl_add]
    simp [Log.content, openOn]
  have lines := linesOf_join whole records
  rw [← closed] at lines
  have fresh : (openOn content).written = 0 := rfl
  refine ⟨?_, fun few => ?_, closed, lines, fun record _ => record.newline_notMem_toText, ?_⟩
  · rw [foldlM_append records (by rw [fresh]; decide), fresh, Nat.zero_add, after]
  · rw [after, written_foldl_add (by rwa [fresh, Nat.zero_add]), fresh, Nat.zero_add]
  · rw [lines, List.drop_left, List.map_map]
    exact List.map_congr_left fun record member => BirthRecord.ofText_toText (fits record member)

/-- The first organism, which owes all it can, and a child of the last one that can be numbered,
with the largest words. -/
def extremes : List BirthRecord :=
  [{ id := 0, parent := none, iteration := 0, offset := 0, energy := minAmount, code := [] },
    { id := limit64 - 1, parent := some (limit64 - 2), iteration := limit64 - 1, offset := 5,
      energy := maxAmount, code := [2147483647, -2147483648] }]

theorem log_reads_back_extremes :
    Whole "an old line\n" ∧ (∀ record ∈ extremes, record.Fits) ∧
      extremes.foldlM append (openOn "an old line\n") = .ok (after "an old line\n" extremes) ∧
      (after "an old line\n" extremes).written = 2 ∧
      ((linesOf (after "an old line\n" extremes).close).drop 1).map BirthRecord.codec.ofText =
        extremes.map .ok := by
  have whole : Whole "an old line\n" := .inr ⟨"an old line", rfl⟩
  have fits : ∀ record ∈ extremes, record.Fits := by
    intro record member
    simp only [extremes, List.mem_cons, List.not_mem_nil, or_false] at member
    rcases member with rfl | rfl <;> constructor <;> decide
  have old : (linesOf "an old line\n").length = 1 := by decide
  obtain ⟨appended, written, -, -, -, read⟩ := log_reads_back whole fits
  have few : extremes.length < limit64 := by decide
  rw [if_pos few] at appended
  rw [old] at read
  exact ⟨whole, fits, appended, written few, read⟩

end Lineage.Log

end Vivarium
