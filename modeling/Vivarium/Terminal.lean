/-!
# Terminal text

Text for a terminal is styled by control sequences. They begin with an escape
character and run up to a final character that their kind decides; a sequence
that is never finished takes the rest of the text with it. `plain` leaves of a
text what is shown where sequences mean nothing. Main statements: a
text without control characters is left as it is (`plain_of_shows`), and bold text
leaves what the text itself does (`plain_bold`).
-/
namespace Vivarium.Terminal

/-! ### Styles -/

def escape : Char := '\x1b'

def bold (text : String) : String := "\x1b[1m" ++ text ++ "\x1b[0m"

def heading (text : String) : String := "\x1b[1m\x1b[4m" ++ text ++ "\x1b[0m"

/-! ### Sequences -/

/-- Where in a sequence a text stands. -/
inductive Mode where
  /-- In no sequence. -/
  | ground
  /-- After the escape. -/
  | escaped
  /-- After the escape and characters that only qualify the sequence. -/
  | qualified
  /-- In a style or another sequence with parameters. -/
  | control
  /-- At the head of a device string. -/
  | device
  /-- In the parameters of a device string. -/
  | deviceParameters
  /-- After characters that only qualify a device string. -/
  | deviceQualified
  /-- In the body of a device string or of another string not meant for the screen. -/
  | body
  /-- In a string for the system around the terminal, such as a title. -/
  | system
  deriving DecidableEq, Repr

def isAscii (c : Char) : Bool := c.val < 0x80

/-- Characters that only qualify a sequence. -/
def isQualifier (c : Char) : Bool := ' ' ≤ c && c ≤ '/'

/-- Characters that carry a parameter. -/
def isParameter (c : Char) : Bool := '0' ≤ c && c ≤ ';'

/-- Characters that can end a sequence with parameters. -/
def isFinal (c : Char) : Bool := '@' ≤ c && c ≤ '~'

/-- Control characters that leave space. -/
def isSpacing (c : Char) : Bool := c == '\t' || c == '\n' || c == '\x0c' || c == '\r'

/-- Whether the bytes of a character hold the one that ends a string early. -/
def endsString (c : Char) : Bool := (String.utf8EncodeChar c).contains 0x9c

namespace Mode

/-- Where the character after the escape leads. -/
def afterEscape (c : Char) : Mode :=
  if isQualifier c then qualified
  else if c = '[' then control
  else if c = ']' then system
  else if c = 'P' then device
  else if c = 'X' ∨ c = '^' ∨ c = '_' then body
  else if '0' ≤ c ∧ c ≤ '~' then ground
  else escaped

/-- Where a character leads inside a sequence. -/
def inside (mode : Mode) (c : Char) : Mode :=
  match mode with
  | ground => ground
  | escaped => afterEscape c
  | qualified => if '0' ≤ c ∧ c ≤ '~' then ground else qualified
  | control => if isFinal c then ground else control
  | device =>
    if isQualifier c then deviceQualified
    else if '0' ≤ c ∧ c ≤ '?' then deviceParameters
    else if isFinal c then body
    else device
  | deviceParameters =>
    if isParameter c then deviceParameters
    else if isQualifier c then deviceQualified
    else if '0' ≤ c ∧ c ≤ '~' then body
    else deviceParameters
  | deviceQualified => if '0' ≤ c ∧ c ≤ '~' then body else deviceQualified
  | body => if endsString c then ground else body
  | system => if c = '\x07' then ground else system

/-- Where a character leads. An escape begins a sequence anew, wherever it stands, and
two control characters give a sequence up. -/
def next (mode : Mode) (c : Char) : Mode :=
  if c = escape then escaped
  else if c = '\x18' ∨ c = '\x1a' then ground
  else mode.inside c

/-- Whether a character is shown. Spacing is shown even inside a sequence that is no
string. -/
def shows (mode : Mode) (c : Char) : Bool :=
  match mode with
  | ground => isSpacing c || (' ' ≤ c && c ≠ '\x7f')
  | escaped | qualified | control => isSpacing c
  | _ => false

end Mode

/-! ### Reading -/

/-- How far a text has been read. -/
structure Progress where
  /-- The mode of the last sequence, which spacing may have interrupted. -/
  mode : Mode
  /-- The last character was shown. -/
  showing : Bool
  /-- The characters shown, newest first. -/
  shown : List Char

namespace Progress

/-- In no sequence, after some characters shown. -/
def afterShown (shown : List Char) (showing : Bool) : Progress :=
  { mode := .ground, showing, shown }

def start : Progress := afterShown [] true

/-- Read one character. Once something is shown, everything is, up to the next control
character; only then does a sequence that was interrupted go on. -/
def read (progress : Progress) (c : Char) : Progress :=
  if progress.showing && Mode.ground.shows c then
    { progress with
      mode := if isAscii c then progress.mode else .ground
      shown := c :: progress.shown }
  else if progress.mode.shows c then
    { mode := progress.mode.next c, showing := true, shown := c :: progress.shown }
  else { progress with mode := progress.mode.next c, showing := false }

end Progress

/-- What a text shows where sequences mean nothing. -/
def plain (text : String) : String :=
  String.ofList (text.toList.foldl Progress.read .start).shown.reverse

/-! ### What is left -/

theorem not_shows_escape (mode : Mode) : mode.shows escape = false := by
  cases mode <;> decide

/-- In no sequence it does not matter whether the last character was shown. -/
theorem read_afterShown (shown : List Char) (showing : Bool) (c : Char) :
    (Progress.afterShown shown showing).read c =
      if Mode.ground.shows c then .afterShown (c :: shown) true
      else { mode := Mode.ground.next c, showing := false, shown } := by
  cases visible : Mode.ground.shows c with
  | false => simp [Progress.read, Progress.afterShown, visible]
  | true =>
    have resting : Mode.ground.next c = .ground := by
      unfold Mode.next
      by_cases escaping : c = escape
      · rw [escaping, not_shows_escape] at visible
        contradiction
      · simp [escaping, Mode.inside]
    cases showing <;> simp [Progress.read, Progress.afterShown, visible, resting]

theorem shown_foldl_afterShown (shown : List Char) (showing : Bool) (text : List Char) :
    (text.foldl Progress.read (.afterShown shown showing)).shown
      = (text.foldl Progress.read (.afterShown shown true)).shown := by
  cases text with
  | nil => rfl
  | cons c text => simp only [List.foldl_cons, read_afterShown]

theorem foldl_of_shows (shown text : List Char) (visible : ∀ c ∈ text, Mode.ground.shows c = true) :
    (text.foldl Progress.read (.afterShown shown true)).shown = text.reverse ++ shown := by
  induction text generalizing shown with
  | nil => rfl
  | cons c text ih =>
    rw [List.foldl_cons, read_afterShown, if_pos (visible c List.mem_cons_self),
      ih _ fun other member => visible other (List.mem_cons_of_mem _ member)]
    simp

/-- A text without control characters is shown as it is. -/
theorem plain_of_shows (text : String)
    (visible : ∀ c ∈ text.toList, Mode.ground.shows c = true) : plain text = text := by
  unfold plain Progress.start
  rw [foldl_of_shows _ _ visible]
  simp

/-- An escape begins a sequence whatever stood before. -/
theorem read_escape (progress : Progress) :
    progress.read escape = { mode := .escaped, showing := false, shown := progress.shown } := by
  simp [Progress.read, not_shows_escape, Mode.next]

/-- The end of a style shows nothing. -/
theorem shown_foldl_reset (progress : Progress) :
    ([escape, '[', '0', 'm'].foldl Progress.read progress).shown = progress.shown := by
  rw [List.foldl_cons, read_escape]
  rfl

theorem plain_bold (text : String) : plain (bold text) = plain text := by
  have begun : [escape, '[', '1', 'm'].foldl Progress.read .start = .afterShown [] false := by
    rfl
  have spelled : (bold text).toList = [escape, '[', '1', 'm'] ++ text.toList
      ++ [escape, '[', '0', 'm'] := by
    simp [bold, escape]
  unfold plain
  rw [spelled, List.foldl_append, List.foldl_append, shown_foldl_reset, begun,
    shown_foldl_afterShown]
  rfl

end Vivarium.Terminal
