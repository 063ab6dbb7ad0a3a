import Vivarium.Json.Reader

/-!
# Codecs

A codec says how values of a type are read and how they are written. Codecs of
records are put together from codecs of their fields, each with the place of the
field in the record, so reading and writing name the same fields in the same
order.
-/
namespace Vivarium.Json

/-- How values are read and written. -/
structure Codec (α : Type) where
  read : Reader α
  write : α → Value

namespace Codec

/-- Counts below `limit`. -/
def count (limit : Nat) : Codec Nat := { read := .count limit, write := .ofNat }

/-- Integers within bounds. -/
def integer (low high : Int) : Codec Int := { read := .integer low high, write := .ofInt }

def float : Codec Float := { read := .float, write := .ofFloat }

def bool : Codec Bool := { read := .bool, write := .bool }

def text : Codec String := { read := .text, write := .string }

def option {α : Type} (codec : Codec α) : Codec (Option α) :=
  { read := .option codec.read, write := .ofOption codec.write }

def list {α : Type} (codec : Codec α) : Codec (List α) :=
  { read := .list codec.read, write := fun items => .array (items.map codec.write) }

def vector {α : Type} (codec : Codec α) (amount : Nat) : Codec (Vector α amount) :=
  { read := .vector codec.read amount
    write := fun items => .array (items.toList.map codec.write) }

/-- One of some names. A name may also be the key of an object whose only member
is `null`. -/
def name {α : Type} (nameOf : α → String) (all : List α) : Codec α :=
  let find : Reader α := do
    let given ← Reader.text
    match all.find? (nameOf · == given) with
    | some value => return value
    | none => Reader.fail .mismatch
  { write := fun value => .string (nameOf value)
    read := do
      match ← Reader.peekToken with
      | '"' => find
      | '\x7b' =>
        Reader.skipChar
        let value ← if (← Reader.peekToken) = '"' then find else Reader.fail .malformed
        Reader.colon
        if (← Reader.peekToken) = 'n' then Reader.literal "null".toList else Reader.mismatch
        if (← Reader.peekToken) = '\x7d' then
          Reader.skipChar
          return value
        else Reader.fail .malformed
      | _ => Reader.fail .malformed }

/-- A field with its place in a record. -/
def field {α β : Type} (codec : Codec β) (key : String) (get : α → β) (put : β → α → α) :
    RecordField α :=
  { key
    read := do
      let value ← codec.read
      return put value
    write := fun record => codec.write (get record) }

/-- A record as an object of all its fields. -/
def writeRecord {α : Type} (fields : List (RecordField α)) (record : α) : Value :=
  .object (fields.map fun field => (field.key, field.write record))

/-- Records whose missing fields are those of `start`. -/
def record {α : Type} (fields : List (RecordField α)) (start : α) : Codec α :=
  { read := do
      let (record, _) ← Reader.record fields start
      return record
    write := writeRecord fields }

/-- Records in which the given fields must be there. -/
def strictRecord {α : Type} (fields : List (RecordField α)) (start : α) (required : List String) :
    Codec α :=
  { read := do
      let (record, seen) ← Reader.record fields start
      if required.all seen.contains then return record else Reader.fail .mismatch
    write := writeRecord fields }

def ofText {α : Type} (codec : Codec α) (text : String) : Except ReadError α :=
  codec.read.run text

def toText {α : Type} (codec : Codec α) (value : α) : String := (codec.write value).render

end Codec

end Vivarium.Json
