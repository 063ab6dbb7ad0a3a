import Mathlib.Data.List.Nodup
import Mathlib.Data.List.ReduceOption
import Vivarium.Proofs.Json.Values

/-!
# Records by their fields

A schema takes a type of records apart into fields, each with its key and its codec; a record is
no more than the values of its fields. An object that gives some of the fields, each once, in any
order and among members of other names, is read as the record with these values and with those of
the start in all other fields.
-/
namespace Vivarium.Json

/-- The fields of a type of records. -/
structure Schema (α ι : Type) where
  Value : ι → Type
  codec : (field : ι) → Codec (Value field)
  key : ι → String
  get : (field : ι) → α → Value field
  /-- The record with these values. -/
  build : ((field : ι) → Value field) → α
  /-- The fields in the order in which they are written. -/
  all : List ι
  get_build : ∀ values field, get field (build values) = values field
  build_get : ∀ record, build (get · record) = record
  mem_all : ∀ field, field ∈ all
  key_injective : Function.Injective key

namespace Schema

variable {α ι : Type} (schema : Schema α ι)

theorem ext {record other : α} (same : ∀ field, schema.get field record = schema.get field other) :
    record = other := by
  rw [← schema.build_get record, ← schema.build_get other]
  exact congrArg schema.build (funext same)

section Filling

variable [DecidableEq ι]

def put (field : ι) (value : schema.Value field) (record : α) : α :=
  schema.build (Function.update (schema.get · record) field value)

/-- The field as readers and writers use it. -/
def field (field : ι) : RecordField α :=
  (schema.codec field).field (schema.key field) (schema.get field) (schema.put field)

def fields : List (RecordField α) := schema.all.map schema.field

/-- The record with these values in the given fields and with those of the start in the others. -/
def fill (given : List ι) (values : (field : ι) → schema.Value field) (start : α) : α :=
  schema.build fun field => if field ∈ given then values field else schema.get field start

variable (given : List ι) (values : (field : ι) → schema.Value field) (record : α)

@[simp] theorem get_put (field other : ι) (value : schema.Value field) :
    schema.get other (schema.put field value record) =
      Function.update (schema.get · record) field value other :=
  schema.get_build _ other

@[simp] theorem get_fill (field : ι) :
    schema.get field (schema.fill given values record) =
      if field ∈ given then values field else schema.get field record :=
  schema.get_build _ field

@[simp] theorem fill_nil : schema.fill [] values record = record :=
  schema.ext fun field => by simp

theorem fill_cons (field : ι) :
    schema.fill (field :: given) values record =
      schema.fill given values (schema.put field (values field) record) := by
  apply schema.ext
  intro other
  by_cases same : other = field
  · subst same
    simp
  · simp [same]

/-- A record is filled by its own values. -/
theorem fill_self (all : ∀ field, field ∈ given) (other : α) :
    schema.fill given (schema.get · record) other = record :=
  schema.ext fun field => by simp [all field]

end Filling

/-! ### Objects -/

section Objects

variable (Spells : (field : ι) → List Char → schema.Value field → Prop)
  (values : (field : ι) → schema.Value field)

/-- A member of an object: a field with its value, or a member of another name with any value. -/
inductive Member : List Char → Option ι → Prop
  | known {text : List Char} {field : ι}
      (written : MemberText false (Spells field) text (schema.key field, values field)) :
      Member text (some field)
  | unknown {text : List Char} {name : String} {depth : Nat} {value : Json.Value}
      (written : MemberText false (SpellsValue true depth) text (name, value))
      (foreign : ∀ field, schema.key field ≠ name) : Member text none

/-- An object that gives these fields, in this order. -/
def SpellsRecord (text : List Char) (given : List ι) : Prop :=
  ∃ members, Bracketed (schema.Member Spells values) '\x7b' '\x7d' text members ∧
    members.reduceOption = given

variable {schema Spells values} {Spells' : (field : ι) → List Char → schema.Value field → Prop}
  {values' : (field : ι) → schema.Value field} {text : List Char} {given : List ι}

theorem Member.imp {member : Option ι} (each : ∀ field text, Spells field text (values field) →
    Spells' field text (values' field)) (written : schema.Member Spells values text member) :
    schema.Member Spells' values' text member := by
  cases written with
  | known written =>
    obtain ⟨spelled, blanks, blanks', given⟩ := written
    exact .known (.named spelled blanks blanks' (each _ _ given))
  | unknown written foreign => exact .unknown written foreign

theorem SpellsRecord.imp (each : ∀ field text, Spells field text (values field) →
    Spells' field text (values' field)) (spelled : schema.SpellsRecord Spells values text given) :
    schema.SpellsRecord Spells' values' text given := by
  obtain ⟨members, bracketed, listed⟩ := spelled
  have mapped := bracketed.map id fun _ _ _ written => Member.imp each written
  rw [List.map_id] at mapped
  exact ⟨members, mapped, listed⟩

theorem SpellsRecord.of_mem (spelled : schema.SpellsRecord Spells values text given) {field : ι}
    (member : field ∈ given) : ∃ part, Spells field part (values field) := by
  obtain ⟨members, ⟨body, sequence, -⟩, rfl⟩ := spelled
  obtain ⟨_, written⟩ := sequence.item_of_mem (List.reduceOption_mem_iff.mp member)
  cases written with
  | known written =>
    obtain ⟨-, -, -, given⟩ := written
    exact ⟨_, given⟩

end Objects

/-! ### Reading -/

section Reading

open Reader

variable [DecidableEq ι] {schema} {values : (field : ι) → schema.Value field} {text : List Char}
  {given : List ι} {first : Bool} {members : List (Option ι)}

theorem find?_field (field : ι) :
    schema.fields.find? (·.key == schema.key field) = some (schema.field field) := by
  rw [fields, List.find?_map]
  exact congrArg (Option.map schema.field)
    (find?_of_injective schema.key_injective (schema.mem_all field))

theorem find?_foreign {name : String} (foreign : ∀ field, schema.key field ≠ name) :
    schema.fields.find? (·.key == name) = none := by
  rw [fields, List.find?_map, Option.map_eq_none_iff, List.find?_eq_none]
  exact fun field _ same => foreign field (eq_of_beq same)

/-- A value that is read is put into its field. -/
theorem field_read {field : ι} {value : schema.Value field}
    (reads : Reads (schema.codec field).read text value) {gap rest : List Char}
    (blanks : Blanks gap) (ends : Stops rest) :
    (schema.field field).read (gap ++ (text ++ rest)) = .ok (schema.put field value, rest) :=
  bind_of_ok (reads.read gap rest blanks ends)

/-- Members of other names leave the record as it is; each field is changed once. Induction on the
members, with the fields that came before. -/
theorem fieldsRest_eq
    (sequence : Sequence (schema.Member (fun field => Reads (schema.codec field).read) values)
      '\x7d' first text members)
    {bound : List Char} (long : members.length < bound.length) {before : List ι}
    (apart : (members.reduceOption.reverse ++ before).Nodup) (record : α) (after : List Char) :
    fieldsRest schema.fields bound first (before.map schema.key) record (text ++ after) =
      .ok ((schema.fill members.reduceOption values record,
        (members.reduceOption.reverse ++ before).map schema.key), '\x7d' :: after) := by
  induction sequence generalizing bound before record with
  | done blanks =>
    obtain ⟨b, bound, rfl⟩ := List.exists_cons_of_length_pos long
    rw [fieldsRest, List.append_assoc, List.singleton_append,
      bind_of_ok (nextKey_done blanks _ after)]
    simp
    rfl
  | more blanks separated given others ih =>
    obtain ⟨b, bound, rfl⟩ := List.exists_cons_of_length_pos (Nat.zero_lt_of_lt long)
    have ends := stops_of_sequence others (by decide) after
    have long' := Nat.lt_of_succ_lt_succ long
    cases given with
    | @known field written =>
      obtain ⟨spelled, blanks', blanks'', given⟩ := written
      simp only [List.reduceOption_cons_of_some, List.reverse_cons, List.append_assoc,
        List.cons_append, List.nil_append] at apart ⊢
      -- A field that came before would be a duplicate, which is refused.
      have unseen : ¬ (before.map schema.key).contains (schema.key field) = true := by
        rw [List.contains_iff_mem, List.mem_map_of_injective schema.key_injective]
        exact (List.nodup_cons.mp (List.Nodup.of_append_right apart)).1
      rw [fieldsRest, bind_of_ok (nextKey_more blanks separated spelled _), if_pos rfl,
        bind_of_ok (string_eq spelled _)]
      simp only [find?_field]
      rw [if_neg unseen, bind_of_ok (colon_eq blanks' _),
        bind_of_ok (field_read given blanks'' ends), schema.fill_cons]
      exact ih long' apart (schema.put field (values field) record)
    | unknown written foreign =>
      obtain ⟨spelled, blanks', blanks'', given⟩ := written
      simp only [List.append_assoc, List.cons_append]
      rw [fieldsRest, bind_of_ok (nextKey_more blanks separated spelled _), if_pos rfl,
        bind_of_ok (string_eq spelled _)]
      simp only [find?_foreign foreign]
      rw [bind_of_ok (colon_eq blanks' _),
        bind_of_ok ((skipValue_reads given).read _ _ blanks'' ends)]
      exact ih long' apart record

/-- The record and the keys that came, the last one first. -/
theorem record_reads
    (spelled : schema.SpellsRecord (fun field => Reads (schema.codec field).read) values text given)
    (apart : given.Nodup) (start : α) :
    Reads (record schema.fields start) text
      (schema.fill given values start, given.reverse.map schema.key) := by
  obtain ⟨members, bracketed, rfl⟩ := spelled
  refine ⟨begins_of_bracketed bracketed (by decide), fun gap rest blanks _ => ?_⟩
  obtain ⟨body, sequence, rfl⟩ := bracketed
  have amount := sequence.length_le
  have long : members.length < (' ' :: (body ++ rest)).length := by
    simp
    omega
  have apart' : (members.reduceOption.reverse ++ []).Nodup := by
    rw [List.append_nil, List.nodup_reverse]
    exact apart
  have read := fieldsRest_eq sequence long apart' start rest
  rw [List.append_nil, List.map_nil] at read
  refine (bind_of_ok (peekToken_eq blanks (by decide) _)).trans ?_
  refine (bind_of_ok (skipChar_eq _ _)).trans ?_
  refine (bind_of_ok (get_eq _)).trans ?_
  refine (bind_of_ok read).trans ?_
  exact bind_of_ok (skipChar_eq _ _)

/-- A partial object fills in the start. -/
theorem codec_reads
    (spelled : schema.SpellsRecord (fun field => Reads (schema.codec field).read) values text given)
    (apart : given.Nodup) (start : α) :
    Reads (Codec.record schema.fields start).read text (schema.fill given values start) where
  begins := (record_reads spelled apart start).begins
  read gap rest blanks ends :=
    bind_of_ok ((record_reads spelled apart start).read gap rest blanks ends)

/-- An object without a required field is refused, and any other one is read alike. -/
theorem strictCodec_reads
    (spelled : schema.SpellsRecord (fun field => Reads (schema.codec field).read) values text given)
    (apart : given.Nodup) (start : α) {required : List String}
    (present : ∀ key ∈ required, key ∈ given.map schema.key) :
    Reads (Codec.strictRecord schema.fields start required).read text
      (schema.fill given values start) where
  begins := (record_reads spelled apart start).begins
  read gap rest blanks ends := by
    have complete : required.all (given.reverse.map schema.key).contains = true := by
      simpa using present
    refine (bind_of_ok ((record_reads spelled apart start).read gap rest blanks ends)).trans ?_
    simp only [complete, if_true]
    rfl

end Reading

end Schema

end Vivarium.Json
