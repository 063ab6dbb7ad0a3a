import Vivarium.Decimal.Shortest

/-!
# JSON values and their text

A value is written without blanks, members in the order they are given. A
number keeps the text it was read from or is to be written with, so nothing is
lost between reading and writing. Text is produced in pieces, one per token or
run of plain characters, because a buffered writer treats pieces as units.
-/
namespace Vivarium.Json

/-- A JSON value; numbers are kept as text. -/
inductive Value where
  | null
  | bool (value : Bool)
  | number (text : String)
  | string (value : String)
  | array (items : List Value)
  | object (members : List (String × Value))

instance : Inhabited Value := ⟨.null⟩

def hexDigit (value : Nat) : Char := (Nat.toDigits 16 (value % 16)).headD '0'

/-- A control character as an escape of four hexadecimal digits. -/
def hexEscape (code : Nat) : String :=
  String.ofList ['\\', 'u', hexDigit (code / 4096), hexDigit (code / 256), hexDigit (code / 16),
    hexDigit code]

/-- How a character is written that cannot stand for itself. -/
def escapeOf? (c : Char) : Option String :=
  if c = '"' then some "\\\""
  else if c = '\\' then some "\\\\"
  else if c = '\n' then some "\\n"
  else if c = '\r' then some "\\r"
  else if c = '\t' then some "\\t"
  else if c.toNat = 8 then some "\\b"
  else if c.toNat = 12 then some "\\f"
  else if c.toNat < 32 then some (hexEscape c.toNat)
  else none

/-- The pieces of a string between its quotes; `plain` holds the characters since
the last escape, newest first. -/
def stringPieces (plain : List Char) : List Char → List String
  | [] => if plain.isEmpty then [] else [String.ofList plain.reverse]
  | c :: rest =>
    match escapeOf? c with
    | none => stringPieces (c :: plain) rest
    | some escape =>
      let before := if plain.isEmpty then [] else [String.ofList plain.reverse]
      before ++ escape :: stringPieces [] rest

def quoted (text : String) : List String :=
  "\"" :: stringPieces [] text.toList ++ ["\""]

namespace Value

mutual

/-- The text of a value, in pieces. -/
def pieces : Value → List String
  | null => ["null"]
  | bool true => ["true"]
  | bool false => ["false"]
  | number text => [text]
  | string text => quoted text
  | array items => "[" :: itemPieces true items ++ ["]"]
  | object members => "\x7b" :: memberPieces true members ++ ["\x7d"]

/-- The items of an array; all but the first follow a comma. -/
def itemPieces (first : Bool) : List Value → List String
  | [] => []
  | item :: rest => (if first then [] else [","]) ++ pieces item ++ itemPieces false rest

/-- The members of an object; all but the first follow a comma. -/
def memberPieces (first : Bool) : List (String × Value) → List String
  | [] => []
  | (key, value) :: rest =>
    (if first then [] else [","]) ++ quoted key ++ ":" :: pieces value ++ memberPieces false rest

end

def render (value : Value) : String := String.join value.pieces

def ofNat (value : Nat) : Value := number (toString value)

def ofInt (value : Int) : Value := number (toString value)

/-- The value of an option; none is `null`. -/
def ofOption {α : Type} (write : α → Value) : Option α → Value
  | none => null
  | some value => write value

def member? (value : Value) (key : String) : Option Value :=
  match value with
  | object members => members.lookup key
  | _ => none

end Value

/-! ### Floating-point numbers

Numbers from `10⁻⁵` up to `10¹⁶` are written positionally, with at least one
digit after the point; the others with one digit before the point and an
exponent.
-/

/-- `d.ddd` for the digits of a number, with the point after `point` of them. -/
def pointed (digits : List Char) (point : Nat) : List Char :=
  digits.take point ++ '.' :: digits.drop point

/-- The text of a decimal with these digits times `10^exponent`. -/
def decimalText (digits : List Char) (exponent : Int) : List Char :=
  let point := digits.length + exponent
  if 0 ≤ exponent ∧ point ≤ 16 then
    digits ++ List.replicate exponent.toNat '0' ++ ['.', '0']
  else if 0 < point ∧ point ≤ 16 then pointed digits point.toNat
  else if -5 < point ∧ point ≤ 0 then
    ['0', '.'] ++ List.replicate (-point).toNat '0' ++ digits
  else
    let lead := if digits.length = 1 then digits else pointed digits 1
    lead ++ 'e' :: (toString (point - 1)).toList

/-- The text of a finite number: the fewest digits that read back. -/
def floatText (value : Float) : String :=
  let sign := if value.toBits.toNat < Decimal.signBit then [] else ['-']
  let body :=
    if value == 0.0 then ['0', '.', '0']
    else
      let (digits, exponent) := Decimal.normalize (Decimal.shortest value)
      decimalText digits exponent
  String.ofList (sign ++ body)

/-- A number if it is finite, else `null`. -/
def Value.ofFloat (value : Float) : Value :=
  if value.isFinite then .number (floatText value) else .null

end Vivarium.Json
