import Vivarium.Json
import Vivarium.Register

/-!
# Reading JSON

A reader takes what it needs from the front of the text. The first problem in
reading order is the one reported, as one of three causes: the text is no JSON,
it ends too early, or it is JSON of the wrong shape. A value of the wrong shape
is read to its end first if it is a number, a word or a string, so a problem
inside it comes before the shape; the shape of an array or an object is known at
its bracket.

Each turn of a loop takes at least one character, so a loop is bounded by the
text it starts on: `bound` loses one character per turn and holds one more than
the text at the start.
-/
namespace Vivarium.Json

/-- Why a text was not read. -/
inductive ReadError where
  /-- The text is no JSON. -/
  | malformed
  /-- The text ends before the value does. -/
  | unfinished
  /-- The value is none of those that are wanted. -/
  | mismatch
  deriving DecidableEq, Repr

/-- Readers of the front of a text. -/
abbrev Reader (α : Type) := StateT (List Char) (Except ReadError) α

/-- A number as it was written. -/
inductive Number where
  /-- Without point and exponent, and within 64 bits. -/
  | int (value : Int)
  | float (value : Float)

def Number.toFloat : Number → Float
  | int value => Register.ofInt value
  | float value => value

/-- One field of a record: how reading it changes the record, and what it is
written as. -/
structure RecordField (α : Type) where
  key : String
  read : Reader (α → α)
  write : α → Value

namespace Reader

/-- Give up for a reason. -/
def fail {α : Type} (error : ReadError) : Reader α := fun _ => .error error

def isBlank (c : Char) : Bool := c == ' ' || c == '\n' || c == '\t' || c == '\r'

def skipBlanks : Reader Unit := fun text => .ok ((), text.dropWhile isBlank)

/-- The next character, which stays in the text. -/
def peek? : Reader (Option Char) := fun text => .ok (text.head?, text)

def skipChar : Reader Unit := fun text => .ok ((), text.tail)

/-- The next character after blanks, which stays in the text; there must be one. -/
def peekToken : Reader Char := do
  skipBlanks
  match ← peek? with
  | none => fail .unfinished
  | some c => return c

def literal : List Char → Reader Unit
  | [] => return ()
  | wanted :: rest => do
    match ← peek? with
    | none => fail .unfinished
    | some c =>
      if c = wanted then
        skipChar
        literal rest
      else fail .malformed

/-! ### Strings -/

def hexValue? (c : Char) : Option Nat :=
  if c.isDigit then some (c.toNat - '0'.toNat)
  else if 'a' ≤ c ∧ c ≤ 'f' then some (c.toNat - 'a'.toNat + 10)
  else if 'A' ≤ c ∧ c ≤ 'F' then some (c.toNat - 'A'.toNat + 10)
  else none

def hexNumber? (digits : List Char) : Option Nat :=
  digits.foldl (fun number c => do return (← number) * 16 + (← hexValue? c)) (some 0)

/-- Four hexadecimal digits. A text with fewer than four bytes left ends early. -/
def hexDigits : Reader Nat := do
  let text ← get
  if (text.take 4).foldl (fun bytes c => bytes + c.utf8Size) 0 < 4 then fail .unfinished
  else
    match hexNumber? (text.take 4) with
    | none => fail .malformed
    | some number =>
      set (text.drop 4)
      return number

def isHighSurrogate (unit : Nat) : Bool := 0xD800 ≤ unit && unit < 0xDC00

def isLowSurrogate (unit : Nat) : Bool := 0xDC00 ≤ unit && unit < 0xE000

/-- The character of an escape by number; characters outside the basic plane take
two. A `lax` reader lets halves of such pairs pass. -/
def unicodeEscape (lax : Bool) : Reader Char := do
  let unit ← hexDigits
  if lax then return Char.ofNat unit
  else if isLowSurrogate unit then fail .malformed
  else if isHighSurrogate unit then
    literal ['\\', 'u']
    let low ← hexDigits
    if isLowSurrogate low then
      return Char.ofNat (0x10000 + (unit - 0xD800) * 0x400 + (low - 0xDC00))
    else fail .malformed
  else return Char.ofNat unit

/-- The character of the escape after a backslash. -/
def escape (lax : Bool) : Reader Char := do
  match ← peek? with
  | none => fail .unfinished
  | some c =>
    skipChar
    match c with
    | '"' => return '"'
    | '\\' => return '\\'
    | '/' => return '/'
    | 'b' => return Char.ofNat 8
    | 'f' => return Char.ofNat 12
    | 'n' => return '\n'
    | 'r' => return '\r'
    | 't' => return '\t'
    | 'u' => unicodeEscape lax
    | _ => fail .malformed

/-- The rest of a string up to its closing quote; `read` is what was read so far,
newest first. -/
def stringRest (lax : Bool) : (bound : List Char) → (read : List Char) → Reader String
  | [], _ => fail .unfinished
  | _ :: bound, read => do
    match ← peek? with
    | none => fail .unfinished
    | some c =>
      if c = '"' then
        skipChar
        return String.ofList read.reverse
      else if c = '\\' then
        skipChar
        let meant ← escape lax
        stringRest lax bound (meant :: read)
      else if c.toNat < 32 then fail .malformed
      else
        skipChar
        stringRest lax bound (c :: read)

/-- A string whose opening quote is next. -/
def string (lax : Bool) : Reader String := do
  skipChar
  let text ← get
  stringRest lax (' ' :: text) []

/-! ### Numbers -/

/-- Largest 64-bit number plus one; digits that would reach it are dropped. -/
def significandLimit : Nat := 18446744073709551616

/-- Append digits to a number as long as it stays below the limit: the number, how
many digits were taken, and the rest. -/
def takeDigits (number taken : Nat) : List Char → Nat × Nat × List Char
  | [] => (number, taken, [])
  | c :: rest =>
    let longer := number * 10 + (c.toNat - '0'.toNat)
    if c.isDigit && longer < significandLimit then takeDigits longer (taken + 1) rest
    else (number, taken, c :: rest)

/-- `significand · 10^exponent`, computed with one power of ten; none if that is
not finite. -/
def scaled? (significand : Nat) (exponent : Int) : Option Float :=
  let number := (UInt64.ofNat significand).toFloat
  let power (places : Nat) : Float := Float.ofScientific 1 false places
  -- `10^308` is the largest power of ten that is finite, so small numbers take two steps.
  if exponent < -616 then some 0.0
  else if exponent < -308 then some (number / power 308 / power (-308 - exponent).toNat)
  else if exponent < 0 then some (number / power (-exponent).toNat)
  else if exponent ≤ 308 then
    let product := number * power exponent.toNat
    if product.isFinite then some product else none
  else if significand = 0 then some 0.0
  else none

/-- The number with this sign and magnitude. -/
def signed (negative : Bool) (magnitude : Float) : Number :=
  .float (if negative then -magnitude else magnitude)

/-- The number `significand · 10^exponent`; it must be finite. -/
def decimal (negative : Bool) (significand : Nat) (exponent : Int) : Reader Number :=
  match scaled? significand exponent with
  | none => fail .malformed
  | some magnitude => return signed negative magnitude

/-- Largest exponent that is taken at its word. -/
def exponentLimit : Nat := 2147483647

/-- The digits of an exponent; `down` is its sign. -/
def exponentDigits (negative : Bool) (significand : Nat) (exponent : Int) (down : Bool) :
    Reader Number := do
  match ← peek? with
  | none => fail .unfinished
  | some c =>
    if c.isDigit then
      let text ← get
      let written := (text.takeWhile Char.isDigit).foldl
        (fun number digit => number * 10 + (digit.toNat - '0'.toNat)) 0
      set (text.dropWhile Char.isDigit)
      if written ≤ exponentLimit then
        decimal negative significand (if down then exponent - written else exponent + written)
      -- Zero stays zero under any exponent.
      else if significand ≠ 0 && !down then fail .malformed
      else return signed negative 0.0
    else fail .malformed

/-- The exponent after `e`. -/
def exponentPart (negative : Bool) (significand : Nat) (exponent : Int) : Reader Number := do
  skipChar
  match ← peek? with
  | some '-' =>
    skipChar
    exponentDigits negative significand exponent true
  | some '+' =>
    skipChar
    exponentDigits negative significand exponent false
  | _ => exponentDigits negative significand exponent false

/-- What follows the digits after the point. -/
def fractionRest (negative : Bool) (significand : Nat) (exponent : Int) : Reader Number := do
  match ← peek? with
  | some 'e' | some 'E' => exponentPart negative significand exponent
  | _ => decimal negative significand exponent

/-- The digits after the point. -/
def fractionPart (negative : Bool) (significand : Nat) (exponent : Int) : Reader Number := do
  skipChar
  match ← peek? with
  | none => fail .unfinished
  | some c =>
    if c.isDigit then
      let (significand, taken, rest) := takeDigits significand 0 (← get)
      set (rest.dropWhile Char.isDigit)
      fractionRest negative significand (exponent - taken)
    else fail .malformed

/-- Magnitude of the smallest integer. -/
def negativeLimit : Nat := 9223372036854775808

/-- A number without point and exponent: an integer if it is within 64 bits. -/
def plainNumber (negative : Bool) (significand : Nat) : Number :=
  if !negative then .int significand
  -- Minus zero is not among the integers.
  else if 0 < significand && significand ≤ negativeLimit then .int (-(significand : Int))
  else signed true (UInt64.ofNat significand).toFloat

/-- What follows the first digits of a number. `dropped` counts the digits that did
not fit; each stands for a factor of ten. -/
def numberRest (negative : Bool) (significand dropped : Nat) : Reader Number := do
  match ← peek? with
  | some '.' => fractionPart negative significand dropped
  | some 'e' | some 'E' => exponentPart negative significand dropped
  | _ =>
    if dropped = 0 then return plainNumber negative significand
    else decimal negative significand dropped

/-- A number whose first digit is next. -/
def wholePart (negative : Bool) : Reader Number := do
  match ← peek? with
  | none => fail .unfinished
  | some '0' =>
    skipChar
    match ← peek? with
    | some c => if c.isDigit then fail .malformed else numberRest negative 0 0
    | none => numberRest negative 0 0
  | some c =>
    if c.isDigit then
      let (significand, _, rest) := takeDigits 0 0 (← get)
      set (rest.dropWhile Char.isDigit)
      numberRest negative significand (rest.takeWhile Char.isDigit).length
    else fail .malformed

/-- A number whose sign or first digit is next. -/
def number : Reader Number := do
  match ← peek? with
  | some '-' =>
    skipChar
    wholePart true
  | _ => wholePart false

/-! ### Shapes -/

def isNumberStart (c : Char) : Bool := c.isDigit || c == '-'

/-- Refuse the value that is next. A word, a number or a string is read first. -/
def mismatch {α : Type} : Reader α := do
  match ← peek? with
  | some 'n' => literal "null".toList
  | some 't' => literal "true".toList
  | some 'f' => literal "false".toList
  | some '"' =>
    let _ ← string false
  | some '[' | some '\x7b' => return ← fail .mismatch
  | some c =>
    if isNumberStart c then
      let _ ← number
    else fail .malformed
  | none => fail .malformed
  fail .mismatch

def integer (low high : Int) : Reader Int := do
  let c ← peekToken
  if isNumberStart c then
    match ← number with
    | .int value => if low ≤ value ∧ value ≤ high then return value else fail .mismatch
    | .float _ => fail .mismatch
  else mismatch

def count (limit : Nat) : Reader Nat := do
  let value ← integer 0 (limit - 1)
  return value.toNat

/-- A number, whichever way it is written. -/
def float : Reader Float := do
  let c ← peekToken
  if isNumberStart c then
    let value ← number
    return value.toFloat
  else mismatch

def bool : Reader Bool := do
  match ← peekToken with
  | 't' => do literal "true".toList; return true
  | 'f' => do literal "false".toList; return false
  | _ => mismatch

def text : Reader String := do
  if (← peekToken) = '"' then string false else mismatch

def option {α : Type} (read : Reader α) : Reader (Option α) := do
  skipBlanks
  if (← peek?) = some 'n' then
    literal "null".toList
    return none
  else return some (← read)

/-- Whether another item follows in an array; the closing bracket stays. -/
def nextItem (first : Bool) : Reader Bool := do
  let c ← peekToken
  if c = ']' then return false
  else if first then return true
  else if c = ',' then
    skipChar
    if (← peekToken) = ']' then fail .malformed else return true
  else fail .malformed

def closeArray : Reader Unit := do
  let c ← peekToken
  skipChar
  if c = ']' then return () else fail .malformed

/-- Whether another member follows in an object; the closing brace stays. -/
def nextKey (first : Bool) : Reader Bool := do
  let c ← peekToken
  if c = '\x7d' then return false
  else if first then
    if c = '"' then return true else fail .malformed
  else if c = ',' then
    skipChar
    if (← peekToken) = '"' then return true else fail .malformed
  else fail .malformed

def colon : Reader Unit := do
  if (← peekToken) = ':' then skipChar else fail .malformed

/-- The items of an array up to its bracket, which stays; newest first in `read`. -/
def itemsRest {α : Type} (item : Reader α) :
    (bound : List Char) → (first : Bool) → (read : List α) → Reader (List α)
  | [], _, _ => fail .unfinished
  | _ :: bound, first, read => do
    if ← nextItem first then
      let value ← item
      itemsRest item bound false (value :: read)
    else return read.reverse

def list {α : Type} (item : Reader α) : Reader (List α) := do
  if (← peekToken) = '[' then
    skipChar
    let text ← get
    let items ← itemsRest item (' ' :: text) true []
    closeArray
    return items
  else mismatch

/-- So many items of an array; fewer are refused. -/
def exactItems {α : Type} (item : Reader α) : (first : Bool) → (amount : Nat) →
    Reader { items : List α // items.length = amount }
  | _, 0 => return ⟨[], rfl⟩
  | first, amount + 1 => do
    if ← nextItem first then
      let value ← item
      let ⟨rest, length⟩ ← exactItems item false amount
      return ⟨value :: rest, by simp [length]⟩
    else fail .mismatch

def vector {α : Type} (item : Reader α) (amount : Nat) : Reader (Vector α amount) := do
  if (← peekToken) = '[' then
    skipChar
    let ⟨items, length⟩ ← exactItems item true amount
    closeArray
    return ⟨items.toArray, by simpa using length⟩
  else mismatch

/-! ### Any value -/

/-- The digits at the front, at least one. -/
def someDigits : Reader (List Char) := do
  let text ← get
  let digits := text.takeWhile Char.isDigit
  if digits.isEmpty then fail .malformed
  else
    set (text.dropWhile Char.isDigit)
    return digits

/-- One of some characters, if it is next. -/
def optionalChar (wanted : List Char) : Reader (List Char) := do
  match ← peek? with
  | none => return []
  | some c =>
    if wanted.contains c then
      skipChar
      return [c]
    else return []

/-- The text of a number, whatever its size. -/
def numberText : Reader String := do
  let sign ← optionalChar ['-']
  let whole ← someDigits
  if whole.head? = some '0' && 1 < whole.length then fail .malformed
  else
    let point ← optionalChar ['.']
    let fraction ← if point.isEmpty then pure [] else someDigits
    let mark ← optionalChar ['e', 'E']
    let exponentSign ← if mark.isEmpty then pure [] else optionalChar ['+', '-']
    let exponent ← if mark.isEmpty then pure [] else someDigits
    return String.ofList (sign ++ whole ++ point ++ fraction ++ mark ++ exponentSign ++ exponent)

/-- The members of an object up to its brace, which stays; newest first in `read`. -/
def membersRest {α : Type} (lax : Bool) (value : Reader α) : (bound : List Char) → (first : Bool) →
    (read : List (String × α)) → Reader (List (String × α))
  | [], _, _ => fail .unfinished
  | _ :: bound, first, read => do
    if ← nextKey first then
      let key ← string lax
      colon
      let value' ← value
      membersRest lax value bound false ((key, value') :: read)
    else return read.reverse

/-- Any value; each level of nesting takes a character, so `bound` bounds the depth. -/
def anyValue (lax : Bool) : (bound : List Char) → Reader Value
  | [] => fail .unfinished
  | _ :: bound => do
    match ← peekToken with
    | 'n' => do literal "null".toList; return .null
    | 't' => do literal "true".toList; return .bool true
    | 'f' => do literal "false".toList; return .bool false
    | '"' => return .string (← string lax)
    | '[' => return .array (← list (anyValue lax bound))
    | '\x7b' =>
      skipChar
      let text ← get
      let members ← membersRest lax (anyValue lax bound) (' ' :: text) true []
      skipChar
      return .object members
    | c => if isNumberStart c then return .number (← numberText) else fail .malformed

/-- Any value, in which strings and numbers must make sense. -/
def value : Reader Value := do
  let text ← get
  anyValue false (' ' :: text)

/-- Pass a value by, whatever its strings and numbers mean. -/
def skipValue : Reader Unit := do
  let text ← get
  let _ ← anyValue true (' ' :: text)

/-! ### Records -/

/-- The members of an object as fields; a field may come once, and keys that are
none are passed by. -/
def fieldsRest {α : Type} (fields : List (RecordField α)) : (bound : List Char) → (first : Bool) →
    (seen : List String) → α → Reader (α × List String)
  | [], _, _, _ => fail .unfinished
  | _ :: bound, first, seen, record => do
    if ← nextKey first then
      let key ← string false
      match fields.find? (·.key == key) with
      | none =>
        colon
        skipValue
        fieldsRest fields bound false seen record
      | some field =>
        -- The second of two members is refused at its key, before its value is read.
        if seen.contains key then fail .mismatch
        else
          colon
          let change ← field.read
          fieldsRest fields bound false (key :: seen) (change record)
    else return (record, seen)

/-- The items of an array as fields in their order; the array may end early. -/
def fieldsInOrder {α : Type} : List (RecordField α) → (first : Bool) → (seen : List String) → α →
    Reader (α × List String)
  | [], _, seen, record => return (record, seen)
  | field :: rest, first, seen, record => do
    if ← nextItem first then
      let change ← field.read
      fieldsInOrder rest false (field.key :: seen) (change record)
    else return (record, seen)

/-- A record that starts out as given, and the fields that were there. It is an
object, or an array of the fields in their order. -/
def record {α : Type} (fields : List (RecordField α)) (start : α) : Reader (α × List String) := do
  match ← peekToken with
  | '\x7b' =>
    skipChar
    let text ← get
    let read ← fieldsRest fields (' ' :: text) true [] start
    skipChar
    return read
  | '[' =>
    skipChar
    let read ← fieldsInOrder fields true [] start
    closeArray
    return read
  | _ => mismatch

def run {α : Type} (reader : Reader α) (text : String) : Except ReadError α :=
  match reader text.toList with
  | .error error => .error error
  | .ok (value, rest) =>
    if (rest.dropWhile isBlank).isEmpty then .ok value else .error .malformed

end Reader

def Value.ofText (text : String) : Except ReadError Value := Reader.value.run text

end Vivarium.Json
