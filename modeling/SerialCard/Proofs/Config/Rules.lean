import SerialCard.Config.Decode
import SerialCard.Proofs.Config.Fields

/-!
# What can be wrong with a value

Reading a configuration fails with one error, and which one it is can be said without reading.
A `Check` says what is wrong with a value, if anything is. `Rules` are what a structure asks of a
value, and their check looks through the value in the order in which it is written:

* in a table, for the first entry that has a problem, and if there is none, for a field that is
  missing or a rule that is not kept; a moment is a table with a single entry;
* in an array, for the first element that has a problem, and if there is none, for a field that the
  array does not reach; otherwise it is looked at as the table with the same values.

The check of a field may be that of other rules, so a value inside another is looked through to its
end, its own missing fields included, before what comes after it. A schema that keeps to rules field
by field (`Schema.Keeps`) reads a value exactly if the rules find nothing wrong with it, and
otherwise fails with what they find (`Schema.Keeps.error?_ofValue`).
-/

namespace SerialCard

open Toml (Value Entries)

/-! ### Errors of outcomes -/

section Errors

variable {ε α β : Type}

/-- The error of an outcome, if it is one. -/
def error? : Except ε α → Option ε
  | .error e => some e
  | .ok _ => none

theorem error?_eq_none_iff {outcome : Except ε α} :
    error? outcome = none ↔ ∃ a, outcome = .ok a := by
  cases outcome with
  | error e => simp only [error?, reduceCtorEq, exists_false]
  | ok a => exact ⟨fun _ => ⟨a, rfl⟩, fun _ => rfl⟩

@[simp]
theorem error?_map (f : α → β) (outcome : Except ε α) :
    error? (outcome.map f) = error? outcome := by
  cases outcome <;> rfl

/-- Steps in a row fail with the first error. -/
theorem error?_bind (first : Except ε α) (next : α → Except ε β) (last : Option ε)
    (h : ∀ a, first = .ok a → error? (next a) = last) :
    error? (first >>= next) = (error? first).or last := by
  cases first with
  | error e => rfl
  | ok a => exact h a rfl

end Errors

/-! ### Single values -/

/-- What is wrong with a value, if anything is. -/
abbrev Check := Value → Option DecodeError

namespace Check

/-- The value has to be a truth value. -/
def boolean : Check
  | .boolean _ => none
  | v => some (.wrongType (.ofValue v) .boolean)

/-- The value has to be a text. -/
def text : Check
  | .text _ => none
  | v => some (.wrongType (.ofValue v) .text)

/-- The value has to be a number from `low` to below `high`. -/
def number (expected : Expected) (low high : Int) : Check
  | .integer n => if low ≤ n ∧ n < high then none else some (.outOfRange n expected)
  | v => some (.wrongType (.ofValue v) expected)

/-- The value has to be a number from zero to `2 ^ 32 - 1`. -/
def word : Check :=
  number .word 0 0x100000000

/-- The value has to be a number from `-2 ^ 31` to `2 ^ 31 - 1`. -/
def signed : Check :=
  number .signed (-0x80000000) 0x80000000

end Check

namespace Decode

theorem error?_boolean (v : Value) : error? (boolean v) = Check.boolean v := by
  cases v <;> rfl

theorem error?_text (v : Value) : error? (text v) = Check.text v := by
  cases v <;> rfl

theorem error?_word (v : Value) : error? (word v) = Check.word v := by
  cases v with
  | integer n =>
    rw [word, Check.word, Check.number]
    split_ifs <;> rfl
  | _ => rfl

theorem error?_signed (v : Value) : error? (signed v) = Check.signed v := by
  cases v with
  | integer n =>
    rw [signed, Check.signed, Check.number]
    split_ifs <;> rfl
  | _ => rfl

end Decode

/-! ### Structures -/

/-- What is asked of a field. -/
structure FieldRule where
  name : String
  /-- What can be wrong with the value of the field. -/
  check : Check
  /-- Whether an array may end before the field. -/
  optional : Bool

/-- What a structure asks of a value that is to be one. -/
structure Rules where
  title : String
  /-- The fields in the order of their declaration. -/
  fields : List FieldRule
  /-- Whether keys that are no fields are a problem. -/
  closed : Bool
  /-- The fields that a table has to have. -/
  required : List String
  /-- What else can be wrong with a table whose entries have no problem by themselves. -/
  violation? : Entries → Option DecodeError := fun _ => none
  nodup_names : (fields.map FieldRule.name).Nodup := by decide

namespace Rules

variable (rules : Rules)

/-- The names of the fields. -/
def names : List String :=
  rules.fields.map FieldRule.name

/-- What can be wrong with the values of the fields, by name. -/
def checks : List (String × Check) :=
  rules.fields.map fun f => (f.name, f.check)

/-- The problem of an entry of a table, if it has one. -/
def problem? (entry : String × Value) : Option DecodeError :=
  match rules.checks.lookup entry.1 with
  | some check => check entry.2
  | none => if rules.closed then some (.unknownField entry.1 rules.names) else none

/-- What is wrong with a table all of whose entries are without problem: the first field that has
to be there and is not, or a rule that is not kept. -/
def incomplete? (entries : Entries) : Option DecodeError :=
  match rules.required.find? fun name => (entries.lookup name).isNone with
  | some name => some (.missingField name)
  | none => rules.violation? entries

/-- What is wrong with a table. -/
def checkTable (entries : Entries) : Option DecodeError :=
  (entries.findSome? rules.problem?).or (rules.incomplete? entries)

/-- The problem of the first element of an array that has one. -/
def elementProblem? (items : List Value) : Option DecodeError :=
  (rules.checks.zip items).findSome? fun given => given.1.2 given.2

/-- The first field that an array of some length does not reach and may not end before. -/
def uncovered? (length : Nat) : Option Nat :=
  ((rules.fields.drop length).findIdx? fun f => !f.optional).map (length + ·)

/-- What is wrong with an array. -/
def checkArray (items : List Value) : Option DecodeError :=
  (rules.elementProblem? items).or <|
    match rules.uncovered? items.length with
    | some index => some (.tooShort index rules.title rules.fields.length)
    | none => rules.incomplete? (rules.names.zip items)

/-- What is wrong with a value. -/
def check : Check
  | .table entries => rules.checkTable entries
  | .moment written => rules.checkTable [("$__toml_private_datetime", .text written)]
  | .array items => rules.checkArray items
  | v => some (.wrongType (.ofValue v) (.fields rules.title))

theorem map_fst_checks : rules.checks.map Prod.fst = rules.names :=
  List.map_map

/-- A value has the same problem under the name of its field as in the place of its field. -/
theorem problem?_of_mem {named : String × Check} (h : named ∈ rules.checks) (v : Value) :
    rules.problem? (named.1, v) = named.2 v := by
  have hnodup : (rules.checks.map Prod.fst).Nodup := rules.map_fst_checks ▸ rules.nodup_names
  rw [problem?, (Toml.lookup_eq_some_iff hnodup).mpr h]

/-- The first entry with a problem, in the table that gives elements to the fields, is the first
element with one. -/
theorem findSome?_zip_names (items : List Value) :
    (rules.names.zip items).findSome? rules.problem? = rules.elementProblem? items := by
  rw [← map_fst_checks, List.zip_map_left, List.findSome?_map, elementProblem?,
    ← List.head?_filterMap, ← List.head?_filterMap]
  refine congrArg List.head? (List.filterMap_congr fun given hgiven => ?_)
  exact rules.problem?_of_mem (List.of_mem_zip hgiven).1 given.2

/-- A table that is incomplete for want of a field lacks the first of those that have to be there,
unless the rule it does not keep is worded like this. -/
theorem find?_of_incomplete? {entries : Entries} {name : String}
    (hrule : rules.violation? entries ≠ some (.missingField name))
    (h : rules.incomplete? entries = some (.missingField name)) :
    rules.required.find? (fun field => (entries.lookup field).isNone) = some name := by
  rw [incomplete?] at h
  split at h
  · next found hfound =>
    obtain rfl := DecodeError.missingField.inj (Option.some.inj h)
    exact hfound
  · exact absurd h hrule

end Rules

/-! ### Schemas that keep to rules -/

variable {δ α β : Type}

/-- A field is read as its rule says, whatever was read before. -/
structure Field.Follows (f : Field δ) (rule : FieldRule) : Prop where
  name : f.name = rule.name
  optional : f.optional = rule.optional
  read : ∀ v draft, error? (f.read v draft) = rule.check v

theorem Field.Follows.of {decode : Value → Except DecodeError β} {check : Check}
    (h : ∀ v, error? (decode v) = check v) (name : String) (enter : β → δ → δ) (optional : Bool) :
    (Field.of name decode enter optional).Follows ⟨name, check, optional⟩ :=
  ⟨rfl, rfl, fun v _ => (error?_map _ _).trans (h v)⟩

namespace Schema

/-- A schema keeps to rules: its fields are read as the rules say, one by one, and what was read is
refused in the end if it is incomplete. -/
structure Keeps (schema : Schema δ α) (rules : Rules) : Prop where
  title : schema.title = rules.title
  closed : schema.closed = rules.closed
  fields : List.Forall₂ Field.Follows schema.fields rules.fields
  finish {entries : Entries} {draft : δ} :
    entries.foldlM schema.visit schema.blank = .ok draft →
      error? (schema.finish draft) = rules.incomplete? entries

/-- A key is the name of a field exactly if there is a check under it. -/
private theorem find?_follows {fields : List (Field δ)} {rules : List FieldRule}
    (h : List.Forall₂ Field.Follows fields rules) (key : String) :
    Option.Rel (fun f check => ∀ v draft, error? (f.read v draft) = check v)
      (fields.find? fun f => f.name == key)
      ((rules.map fun rule => (rule.name, rule.check)).lookup key) := by
  induction h with
  | nil => exact .none
  | @cons f rule _ _ hfollows _ ih =>
    rw [List.find?_cons, List.map_cons, List.lookup_cons, hfollows.name, BEq.comm]
    cases key == rule.name with
    | true => exact .some hfollows.read
    | false => exact ih

private theorem map_declared_of_follows {fields : List (Field δ)} {rules : List FieldRule}
    (h : List.Forall₂ Field.Follows fields rules) :
    fields.map (fun f => (f.name, f.optional)) =
      rules.map fun rule => (rule.name, rule.optional) := by
  induction h with
  | nil => rfl
  | cons hfollows _ ih => rw [List.map_cons, List.map_cons, ih, hfollows.name, hfollows.optional]

namespace Keeps

variable {schema : Schema δ α} {rules : Rules} (h : schema.Keeps rules)

include h

theorem declared_eq :
    schema.declared = rules.fields.map fun rule => (rule.name, rule.optional) :=
  map_declared_of_follows h.fields

theorem map_fst_declared : schema.declared.map Prod.fst = rules.names := by
  rw [h.declared_eq, List.map_map]
  rfl

theorem map_name_fields : schema.fields.map Field.name = rules.names := by
  rw [← h.map_fst_declared, declared, List.map_map]
  rfl

theorem firstUncovered_eq (length : Nat) :
    schema.firstUncovered length = rules.uncovered? length := by
  rw [firstUncovered, h.declared_eq, ← List.map_drop, List.findIdx?_map]
  rfl

/-- Visiting an entry fails with its problem, whatever was read before. -/
theorem error?_visit (draft : δ) (entry : String × Value) :
    error? (schema.visit draft entry) = rules.problem? entry := by
  have hfound := find?_follows h.fields entry.1
  rw [visit, field?, Rules.problem?, h.closed, h.map_name_fields, Rules.checks]
  generalize schema.fields.find? (fun f => f.name == entry.1) = field,
    List.lookup entry.1 _ = check at hfound ⊢
  cases hfound with
  | some hcheck => exact hcheck entry.2 draft
  | none =>
    dsimp only
    split <;> rfl

/-- Visiting entries fails with the first problem. -/
theorem error?_visits (entries : Entries) (draft : δ) :
    error? (entries.foldlM schema.visit draft) = entries.findSome? rules.problem? := by
  induction entries generalizing draft with
  | nil => rfl
  | cons entry rest ih =>
    rw [List.foldlM_cons, error?_bind _ _ _ fun middle _ => ih middle, h.error?_visit,
      List.findSome?_cons]
    cases rules.problem? entry <;> rfl

/-- Reading a table fails with what is wrong with it. -/
theorem error?_ofEntries (entries : Entries) :
    error? (schema.ofEntries entries) = rules.checkTable entries := by
  rw [Rules.checkTable, ← h.error?_visits entries schema.blank]
  exact error?_bind _ _ _ fun _ hvisits => h.finish hvisits

/-- Reading an array fails with what is wrong with it. -/
theorem error?_ofElements (items : List Value) :
    error? (schema.ofElements items) = rules.checkArray items := by
  have hnames : (schema.declared.map Prod.fst).Nodup := h.map_fst_declared ▸ rules.nodup_names
  have hvisits := h.error?_visits (rules.names.zip items) schema.blank
  rw [rules.findSome?_zip_names] at hvisits
  rw [ofElements_eq hnames, h.map_fst_declared, h.firstUncovered_eq, Rules.checkArray]
  cases rules.uncovered? items.length with
  | none =>
    dsimp only
    rw [h.error?_ofEntries, Rules.checkTable, rules.findSome?_zip_names]
  | some index =>
    have hlength : schema.fields.length = rules.fields.length := h.fields.length_eq
    dsimp only
    rw [error?_bind _ _ _ fun _ _ => rfl, hvisits, h.title, hlength]
    rfl

/-- **Reading fails with what is wrong with a value**, and with nothing else. -/
theorem error?_ofValue (v : Value) : error? (schema.ofValue v) = rules.check v := by
  cases v with
  | table entries => exact h.error?_ofEntries entries
  | moment written => exact h.error?_ofEntries _
  | array items => exact h.error?_ofElements items
  | text _ | integer _ | float _ | boolean _ =>
    rw [ofValue, h.title]
    · rfl
    all_goals nofun

end Keeps

end Schema

end SerialCard
