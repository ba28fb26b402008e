import SerialCard.Proofs.Config.Problems

/-!
# Parts given as arrays

A part of a configuration may be given as an array, whose elements go to the fields in the order of
their declaration. An array that reaches every field it may not end before is read just like the
table that gives the same values to the same fields, also if it cannot be read. A shorter one is
refused whatever it holds, even if the table could be read, but not before its elements were read:
the problem of an element is reported before the length (`Part.ofValue_array`).

Which arrays are too short is a matter of the part (`array_agrees_with_table`). That of a profile
has to reach the last field, though a table may leave all of them out.
-/

namespace SerialCard

open Toml (Value)

namespace Part

variable (part : Part) (items : List Value)

/-- The names of the fields of a part. -/
def names : List String :=
  part.rules.names

/-- The table that gives elements to the fields in the order of their declaration. -/
def keyed : Value :=
  .table (part.names.zip items)

/-- The problem of the first element that cannot be read as its field. -/
def elementProblem? : Option DecodeError :=
  part.rules.elementProblem? items

theorem map_fst_declared : part.schema.declared.map Prod.fst = part.names :=
  part.keeps.map_fst_declared

/-- **An array is read like the table with the same values, or is too short.** In the second case
its elements are read nevertheless. -/
theorem ofValue_array :
    part.schema.ofValue (.array items) =
      match part.schema.firstUncovered items.length with
      | none => part.schema.ofValue (part.keyed items)
      | some index =>
        .error ((part.elementProblem? items).getD
          (.tooShort index part.schema.title part.schema.fields.length)) := by
  have hnames : (part.schema.declared.map Prod.fst).Nodup :=
    part.map_fst_declared ▸ part.rules.nodup_names
  rw [Schema.ofValue, Schema.ofElements_eq hnames, map_fst_declared]
  cases part.schema.firstUncovered items.length with
  | none => rfl
  | some index =>
    have hvisits : error? ((part.names.zip items).foldlM part.schema.visit part.schema.blank) =
        part.elementProblem? items :=
      (part.keeps.error?_visits _ _).trans (part.rules.findSome?_zip_names items)
    dsimp only
    rw [← hvisits]
    cases (part.names.zip items).foldlM part.schema.visit part.schema.blank <;> rfl

/-- Elements beyond the last field do not count. -/
theorem ofValue_array_take :
    part.schema.ofValue (.array (items.take part.names.length)) =
      part.schema.ofValue (.array items) := by
  have hlength : part.names.length = part.schema.fields.length := by
    rw [names, ← part.keeps.map_name_fields, List.length_map]
  rw [hlength, Schema.ofValue, Schema.ofValue, Schema.ofElements, Schema.enterElements_take]
  rfl

/-! ### Where arrays may end -/

/-- An array may end anywhere if all fields may be left out. -/
theorem firstUncovered_of_forall (h : ∀ field ∈ part.schema.declared, field.2 = true)
    (length : Nat) : part.schema.firstUncovered length = none :=
  Schema.firstUncovered_eq_none_iff.mpr fun field hfield => h field (List.mem_of_mem_drop hfield)

/-- The array of a profile has to reach the last field; only the first may be left out. -/
theorem firstUncovered_profile (length : Nat) :
    profile.schema.firstUncovered length = if 13 ≤ length then none else some (max 1 length) := by
  by_cases h : 13 ≤ length
  · have hdrop : profile.schema.declared.drop length = [] := List.drop_eq_nil_of_le h
    rw [if_pos h, Schema.firstUncovered, hdrop]
    rfl
  · have hshort : ∀ n < 13, profile.schema.firstUncovered n = some (max 1 n) := by decide
    rw [if_neg h, hshort length (Nat.lt_of_not_le h)]

/-- The array of a mode has to say whether the mode is enabled. -/
theorem firstUncovered_mode (length : Nat) :
    mode.schema.firstUncovered length = if 1 ≤ length then none else some 0 := by
  cases length with
  | zero => rfl
  | succ n =>
    have hoptional : ∀ field ∈ mode.schema.declared.drop 1, field.2 = true := by decide
    rw [if_pos (Nat.le_add_left 1 n), Schema.firstUncovered_eq_none_iff]
    intro field hfield
    rw [Nat.add_comm, ← List.drop_drop] at hfield
    exact hoptional field (List.mem_of_mem_drop hfield)

end Part

/-- **Arrays and tables agree.** The parts about the log and about the port are read from an array
just as from the table that gives its elements to the fields in order, with the same result or the
same error. So is a profile from an array of thirteen elements or more, and a mode from one of one
element or more. A shorter array is refused, with the problem of the first element that has one, or
else for its length, at the first field that it does not reach and may not end before; the table of
a profile is refused only in the first case. Elements beyond the last field never count. -/
theorem array_agrees_with_table (items : List Value) :
    Part.logging.schema.ofValue (.array items) =
      Part.logging.schema.ofValue (Part.logging.keyed items) ∧
    Part.port.schema.ofValue (.array items) = Part.port.schema.ofValue (Part.port.keyed items) ∧
    Part.profile.schema.ofValue (.array items) =
      (if 13 ≤ items.length then Part.profile.schema.ofValue (Part.profile.keyed items)
      else .error ((Part.profile.elementProblem? items).getD
        (.tooShort (max 1 items.length) "PortProfile" 13))) ∧
    error? (Part.profile.schema.ofValue (Part.profile.keyed items)) =
      Part.profile.elementProblem? items ∧
    Part.mode.schema.ofValue (.array items) =
      (if 1 ≤ items.length then Part.mode.schema.ofValue (Part.mode.keyed items)
      else .error (.tooShort 0 "RawModeConfig" 2)) ∧
    ∀ part : Part, part.schema.ofValue (.array (items.take part.names.length)) =
      part.schema.ofValue (.array items) := by
  refine ⟨?logging, ?port, ?profile, ?table, ?mode, fun part => part.ofValue_array_take items⟩
  case logging =>
    rw [Part.ofValue_array, Part.firstUncovered_of_forall _ (by decide)]
  case port =>
    rw [Part.ofValue_array, Part.firstUncovered_of_forall _ (by decide)]
  case profile =>
    rw [Part.ofValue_array, Part.firstUncovered_profile]
    split_ifs <;> rfl
  case table =>
    -- nothing can be wrong with the table of a profile but its entries
    have hread : error? (Part.profile.schema.ofValue (Part.profile.keyed items)) =
        (error? (Part.profile.visitAll (Part.profile.names.zip items))).or none :=
      error?_bind _ _ none fun _ _ => rfl
    rw [hread, Option.or_none]
    exact (Part.profile.keeps.error?_visits _ _).trans (Rules.profile.findSome?_zip_names items)
  case mode =>
    rw [Part.ofValue_array, Part.firstUncovered_mode]
    cases items <;> rfl

/-- The empty array is no profile, though the empty table is. -/
example :
    Profile.schema.ofValue (.array []) = .error (.tooShort 1 "PortProfile" 13) ∧
      Profile.schema.ofValue (.table []) = .ok {} :=
  ⟨rfl, rfl⟩

end SerialCard
