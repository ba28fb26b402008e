import SerialCard.Config.DecodeError

/-!
# Reading structures

A schema lists the fields of a structure and says how the value of each is read. A structure may be
given as a table or as an array:

* the keys of a table are visited in the order of the document, and the value of a key is read when
  the key is visited; fields that are not there are looked for only after that;
* the elements of an array go to the fields in the order of their declaration, and elements beyond
  the last field do not count.

Reading fills in a draft, on which every field that is not given has its default or is open.
-/

namespace SerialCard

open Toml (Value Entries)

/-- A field of a structure that is read into a draft of type `δ`. -/
structure Field (δ : Type) where
  name : String
  /-- Reads the value of the field and enters it. -/
  read : Value → δ → Except DecodeError δ
  /-- Whether an array may end before the field. -/
  optional : Bool

/-- A structure of type `α` that is read by way of a draft of type `δ`. -/
structure Schema (δ α : Type) where
  title : String
  fields : List (Field δ)
  /-- Whether keys that are no fields are refused. -/
  closed : Bool
  /-- The draft before anything was read. -/
  blank : δ
  /-- The structure of a draft, if nothing is missing. -/
  finish : δ → Except DecodeError α

/-- A field whose value is read by `decode` and entered by `enter`. -/
def Field.of {δ β : Type} (name : String) (decode : Value → Except DecodeError β)
    (enter : β → δ → δ) (optional : Bool) : Field δ where
  name := name
  read v draft := (decode v).map fun b => enter b draft
  optional := optional

namespace Schema

variable {δ α : Type} (schema : Schema δ α)

/-- The field of a name. -/
def field? (name : String) : Option (Field δ) :=
  schema.fields.find? fun f => f.name == name

/-- Visits a key of a table. -/
def visit (draft : δ) (entry : String × Value) : Except DecodeError δ :=
  match schema.field? entry.1 with
  | some f => f.read entry.2 draft
  | none =>
    if schema.closed then .error (.unknownField entry.1 (schema.fields.map Field.name))
    else .ok draft

/-- Reads a table. -/
def ofEntries (entries : Entries) : Except DecodeError α := do
  schema.finish (← entries.foldlM schema.visit schema.blank)

/-- Enters the elements of an array from the field number `index` on. -/
def enterElements (index : Nat) :
    List (Field δ) → List Value → δ → Except DecodeError δ
  | [], _, draft => .ok draft
  | f :: fields, v :: rest, draft => do
    enterElements (index + 1) fields rest (← f.read v draft)
  | f :: fields, [], draft =>
    if f.optional then enterElements (index + 1) fields [] draft
    else .error (.tooShort index schema.title schema.fields.length)

/-- Reads an array. -/
def ofElements (items : List Value) : Except DecodeError α := do
  schema.finish (← schema.enterElements 0 schema.fields items schema.blank)

/-- The key under which a moment shows its text when it stands for a table. -/
def momentKey : String := "$__toml_private_datetime"

/-- Reads a value. A moment is a table with a single key. -/
def ofValue : Value → Except DecodeError α
  | .table entries => schema.ofEntries entries
  | .moment written => schema.ofEntries [(momentKey, .text written)]
  | .array items => schema.ofElements items
  | v => .error (.wrongType (.ofValue v) (.fields schema.title))

end Schema

end SerialCard
