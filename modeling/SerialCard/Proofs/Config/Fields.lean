import Mathlib.Data.List.Induction
import Mathlib.Data.List.Nodup
import SerialCard.Config.Schema
import SerialCard.Proofs.Toml.Distinct

/-!
# Reading field by field

What a schema makes of a table can be told field by field, whatever the order of the keys. A field
is a part of the draft: its key sets the part, and no other key touches it (`Schema.Sets`). So once
all keys were visited, the part is what the value of its key says, or what it was before if the key
is not there (`Sets.latest_foldlM`, and `Sets.lookup_foldlM` where every key stands once).
Conversely the whole table can be read if each of its entries can be read on any draft
(`exists_foldlM_visit`).

A structure in any form is read by way of a table, the entries the value gives (`Gives`): a table
gives its own, a moment its one key, and an array gives its elements to the fields in the order of
their declaration, if the fields it does not reach may be left out (`ofValue_eq_ok_iff`). An array
that cannot be read fails as that table does, or else for its length (`ofElements_eq`).
-/

namespace SerialCard

open Toml (Value Entries)

/-! ### Outcomes -/

section Outcome

variable {ε ε' α β : Type}

/-- Steps in a row succeed if each of them does. -/
theorem bind_eq_ok_iff {first : Except ε α} {next : α → Except ε β} {b : β} :
    (first >>= next) = .ok b ↔ ∃ a, first = .ok a ∧ next a = .ok b := by
  cases first with
  | error e => exact ⟨fun h => (nomatch h), fun ⟨_, h, _⟩ => nomatch h⟩
  | ok a => exact ⟨fun h => ⟨a, rfl, h⟩, fun ⟨_, ha, h⟩ => Except.ok.inj ha ▸ h⟩

theorem map_eq_ok_iff {f : α → β} {step : Except ε α} {b : β} :
    step.map f = .ok b ↔ ∃ a, step = .ok a ∧ f a = b := by
  cases step with
  | error e => exact ⟨fun h => (nomatch h), fun ⟨_, h, _⟩ => nomatch h⟩
  | ok a => exact ⟨fun h => ⟨a, rfl, Except.ok.inj h⟩, fun ⟨_, ha, h⟩ => Except.ok.inj ha ▸ h ▸ rfl⟩

/-- A step whose error is put in other words succeeds if the step does. -/
theorem mapError_eq_ok_iff {f : ε → ε'} {step : Except ε α} {a : α} :
    step.mapError f = .ok a ↔ step = .ok a := by
  cases step with
  | error e => exact ⟨fun h => (nomatch h), fun h => nomatch h⟩
  | ok a' => exact ⟨fun h => congrArg Except.ok (Except.ok.inj h), fun h => h ▸ rfl⟩

end Outcome

/-! ### The value of a key -/

namespace Toml.Entries

/-- The value a table has for a key. In a document no key stands twice; in any other table it is the
last value that counts. -/
def latest? (entries : Entries) (key : String) : Option Value :=
  entries.reverse.lookup key

theorem latest?_concat (entries : Entries) (entry : String × Value) (key : String) :
    Entries.latest? (entries ++ [entry]) key =
      if key = entry.1 then some entry.2 else entries.latest? key := by
  rw [latest?, List.reverse_append, List.reverse_singleton, List.singleton_append, List.lookup_cons]
  by_cases hkey : key = entry.1
  · rw [if_pos hkey, beq_iff_eq.mpr hkey]
  · rw [if_neg hkey, beq_false_of_ne hkey]
    rfl

/-- A table has a value for a key if there is an entry for it. -/
theorem isNone_latest? (entries : Entries) (key : String) :
    (entries.latest? key).isNone = (entries.lookup key).isNone := by
  rw [Bool.eq_iff_iff, Option.isNone_iff_eq_none, Option.isNone_iff_eq_none, latest?,
    List.lookup_eq_none_iff, List.lookup_eq_none_iff]
  simp only [List.mem_reverse]

theorem latest?_eq_lookup {entries : Entries} (hkeys : (entries.map Prod.fst).Nodup)
    (key : String) : entries.latest? key = entries.lookup key := by
  have hreverse : (entries.reverse.map Prod.fst).Nodup := by
    rw [List.map_reverse, List.nodup_reverse]
    exact hkeys
  ext v
  rw [latest?, Toml.lookup_eq_some_iff hreverse, Toml.lookup_eq_some_iff hkeys, List.mem_reverse]

end Toml.Entries

variable {δ α β γ : Type}

/-! ### Parts of a draft -/

namespace Field

@[simp]
theorem of_name {name : String} {decode : Value → Except DecodeError β} {enter : β → δ → δ}
    {optional : Bool} : (Field.of name decode enter optional).name = name := rfl

/-- Reading the field leaves a part of the draft as it is. -/
def Spares (f : Field δ) (part : δ → γ) : Prop :=
  ∀ v draft draft', f.read v draft = .ok draft' → part draft' = part draft

/-- A field that enters its value elsewhere spares a part. -/
@[simp]
theorem spares_of {name : String} {decode : Value → Except DecodeError β} {enter : β → δ → δ}
    {optional : Bool} {part : δ → γ} (h : ∀ b draft, part (enter b draft) = part draft) :
    (Field.of name decode enter optional).Spares part := by
  intro v draft draft' hread
  obtain ⟨b, -, rfl⟩ := map_eq_ok_iff.mp hread
  exact h b draft

end Field

namespace Schema

variable (schema : Schema δ α)

/-- The names of the fields, each with whether an array may end before it. -/
def declared : List (String × Bool) :=
  schema.fields.map fun f => (f.name, f.optional)

/-- A key sets a part of the draft to what its value says, and no other field touches the part. -/
structure Sets (name : String) (decode : Value → Except DecodeError β) (part : δ → γ)
    (put : β → γ) : Prop where
  /-- What the key does to the part. -/
  own : ∀ v draft draft', schema.visit draft (name, v) = .ok draft' →
    ∃ b, decode v = .ok b ∧ part draft' = put b
  /-- The other fields leave it alone. -/
  others : ∀ f ∈ schema.fields, f.name ≠ name → f.Spares part

variable {schema}

/-- A key that is no field changes nothing, and the key of a field is read by the field. -/
theorem visit_eq_ok {draft draft' : δ} {key : String} {v : Value}
    (h : schema.visit draft (key, v) = .ok draft') :
    (∃ f ∈ schema.fields, f.name = key ∧ f.read v draft = .ok draft') ∨
      (schema.closed = false ∧ draft' = draft) := by
  rw [visit] at h
  split at h
  · next f hf =>
    refine .inl ⟨f, List.mem_of_find?_eq_some hf, ?_, h⟩
    simpa using List.find?_some hf
  · split at h
    · cases h
    · next hopen => exact .inr ⟨Bool.eq_false_iff.mpr hopen, (Except.ok.inj h).symm⟩

section Own

variable {name : String} {decode : Value → Except DecodeError β} {enter : β → δ → δ}
  {optional : Bool} {v : Value}

theorem visit_of (hfield : schema.field? name = some (.of name decode enter optional)) (draft : δ) :
    schema.visit draft (name, v) = (decode v).map fun b => enter b draft := by
  rw [visit, hfield]
  rfl

/-- The key of a field sets the part that the field enters its value into. -/
theorem Sets.of {part : δ → γ} {put : β → γ}
    (hfield : schema.field? name = some (.of name decode enter optional))
    (hput : ∀ b draft, part (enter b draft) = put b)
    (hothers : ∀ f ∈ schema.fields, f.name ≠ name → f.Spares part) :
    schema.Sets name decode part put where
  own v draft draft' hvisit := by
    rw [visit_of hfield] at hvisit
    obtain ⟨b, hdecode, rfl⟩ := map_eq_ok_iff.mp hvisit
    exact ⟨b, hdecode, hput b draft⟩
  others := hothers

/-- The key of a field can be visited if its value can be read. -/
theorem exists_visit (hfield : schema.field? name = some (.of name decode enter optional)) {b : β}
    (h : decode v = .ok b) (draft : δ) :
    ∃ draft', schema.visit draft (name, v) = .ok draft' := by
  rw [visit_of hfield, h]
  exact ⟨_, rfl⟩

end Own

/-- **A part of the draft is told by its key.** After all keys were visited it is what the value of
the key says, or what it was before if the key is not there. -/
theorem Sets.latest_foldlM {name : String} {decode : Value → Except DecodeError β} {part : δ → γ}
    {put : β → γ} (h : schema.Sets name decode part put) {entries : Entries} {draft draft' : δ}
    (hfold : entries.foldlM schema.visit draft = .ok draft') :
    match entries.latest? name with
    | none => part draft' = part draft
    | some v => ∃ b, decode v = .ok b ∧ part draft' = put b := by
  induction entries using List.reverseRecOn generalizing draft' with
  | nil =>
    obtain rfl := Except.ok.inj hfold
    rfl
  | append_singleton before entry ih =>
    obtain ⟨key, v⟩ := entry
    rw [List.foldlM_append] at hfold
    obtain ⟨middle, hbefore, hlast⟩ := bind_eq_ok_iff.mp hfold
    obtain ⟨last, hvisit, hnil⟩ := bind_eq_ok_iff.mp hlast
    obtain rfl : last = draft' := Except.ok.inj hnil
    rw [Toml.Entries.latest?_concat]
    by_cases hkey : name = key
    · subst hkey
      rw [if_pos rfl]
      exact h.own v middle last hvisit
    · have hspared : part last = part middle := by
        rcases visit_eq_ok hvisit with ⟨f, hf, hname, hread⟩ | ⟨-, rfl⟩
        · exact h.others f hf (hname ▸ Ne.symm hkey) v middle last hread
        · rfl
      rw [if_neg hkey, hspared]
      exact ih hbefore

/-- If every key stands once, the value of the key is that of its one entry. -/
theorem Sets.lookup_foldlM {name : String} {decode : Value → Except DecodeError β} {part : δ → γ}
    {put : β → γ} (h : schema.Sets name decode part put) {entries : Entries}
    (hkeys : (entries.map Prod.fst).Nodup) {draft draft' : δ}
    (hfold : entries.foldlM schema.visit draft = .ok draft') :
    match entries.lookup name with
    | none => part draft' = part draft
    | some v => ∃ b, decode v = .ok b ∧ part draft' = put b := by
  rw [← Toml.Entries.latest?_eq_lookup hkeys]
  exact h.latest_foldlM hfold

/-- A table is read to the end if each entry can be read, whatever was read before it. -/
theorem exists_foldlM_visit {entries : Entries}
    (h : ∀ e ∈ entries, ∀ draft, ∃ draft', schema.visit draft e = .ok draft') (draft : δ) :
    ∃ draft', entries.foldlM schema.visit draft = .ok draft' := by
  induction entries generalizing draft with
  | nil => exact ⟨draft, rfl⟩
  | cons entry rest ih =>
    obtain ⟨middle, hvisit⟩ := h entry List.mem_cons_self draft
    obtain ⟨draft', hfold⟩ := ih (fun e he => h e (List.mem_cons_of_mem entry he)) middle
    refine ⟨draft', ?_⟩
    rw [List.foldlM_cons, hvisit]
    exact hfold

/-- A schema that is closed reads a table only if all its keys are declared. -/
theorem mem_declared_of_foldlM (hclosed : schema.closed = true) {entries : Entries}
    {draft draft' : δ} (hfold : entries.foldlM schema.visit draft = .ok draft') :
    ∀ key ∈ entries.map Prod.fst, key ∈ schema.declared.map Prod.fst := by
  induction entries generalizing draft with
  | nil => exact fun _ hkey => absurd hkey List.not_mem_nil
  | cons entry rest ih =>
    obtain ⟨key', v⟩ := entry
    rw [List.foldlM_cons] at hfold
    obtain ⟨middle, hvisit, hfold⟩ := bind_eq_ok_iff.mp hfold
    intro key hkey
    rcases List.mem_cons.mp hkey with rfl | hkey
    · rcases visit_eq_ok hvisit with ⟨f, hf, rfl, -⟩ | ⟨hopen, -⟩
      · rw [declared, List.map_map]
        exact List.mem_map_of_mem hf
      · rw [hclosed] at hopen
        cases hopen
    · exact ih hfold key hkey

/-! ### Arrays -/

variable (schema) in
/-- The first field that an array of some length does not reach and may not end before. -/
def firstUncovered (length : Nat) : Option Nat :=
  ((schema.declared.drop length).findIdx? fun field => !field.2).map (length + ·)

theorem firstUncovered_eq_none_iff {length : Nat} :
    schema.firstUncovered length = none ↔
      ∀ field ∈ schema.declared.drop length, field.2 = true := by
  rw [firstUncovered, Option.map_eq_none_iff, List.findIdx?_eq_none_iff]
  simp only [Bool.not_eq_false']

/-- The elements of an array enter their fields in order. That the array ends too early is noticed
after the last of them. -/
theorem enterElements_eq (index : Nat) (fields : List (Field δ)) (items : List Value) (draft : δ) :
    schema.enterElements index fields items draft =
      (fields.zip items).foldlM (fun d (p : Field δ × Value) => p.1.read p.2 d) draft >>= fun d =>
        match (fields.drop items.length).findIdx? fun f => !f.optional with
        | none => .ok d
        | some i =>
          .error (.tooShort (index + items.length + i) schema.title schema.fields.length) := by
  induction fields generalizing index items draft with
  | nil => rw [List.drop_nil]; rfl
  | cons f fields ih =>
    cases items with
    | nil =>
      have hrest := ih (index + 1) [] draft
      rw [List.zip_nil_right] at hrest ⊢
      rw [enterElements, List.length_nil, List.drop_zero, List.findIdx?_cons]
      by_cases hoptional : f.optional = true
      · rw [if_pos hoptional, hrest, List.length_nil, List.drop_zero]
        simp only [hoptional, Bool.not_true, Bool.false_eq_true, if_false]
        cases fields.findIdx? fun f => !f.optional with
        | none => rfl
        | some i =>
          have hindex : index + 1 + 0 + i = index + 0 + (i + 1) := by omega
          simp only [Option.map_some, hindex]
      · rw [if_neg hoptional, Bool.eq_false_iff.mpr hoptional]
        rfl
    | cons v items =>
      rw [enterElements, List.length_cons, List.drop_succ_cons, List.zip_cons_cons,
        List.foldlM_cons, bind_assoc]
      refine congrArg _ (funext fun middle => ?_)
      have hindex : index + 1 + items.length = index + (items.length + 1) := by omega
      rw [ih, hindex]

/-- Elements beyond the last field do not count. -/
theorem enterElements_take (index : Nat) (fields : List (Field δ)) (items : List Value)
    (draft : δ) :
    schema.enterElements index fields (items.take fields.length) draft =
      schema.enterElements index fields items draft := by
  induction fields generalizing index items draft with
  | nil => rfl
  | cons f fields ih =>
    cases items with
    | nil => rfl
    | cons v items =>
      rw [List.length_cons, List.take_succ_cons, enterElements, enterElements]
      exact congrArg _ (funext fun middle => ih (index + 1) items middle)

/-- A field is found by its name. -/
theorem field?_name (hnames : (schema.declared.map Prod.fst).Nodup) {f : Field δ}
    (hf : f ∈ schema.fields) : schema.field? f.name = some f := by
  rw [declared, List.map_map] at hnames
  have hsome : (schema.field? f.name).isSome := List.find?_isSome.mpr ⟨f, hf, beq_self_eq_true _⟩
  obtain ⟨g, hg⟩ := Option.isSome_iff_exists.mp hsome
  have hname : g.name = f.name := by simpa using List.find?_some hg
  rw [hg, List.inj_on_of_nodup_map hnames (List.mem_of_find?_eq_some hg) hf hname]

/-- Elements that are visited under the names of fields are read by the fields. -/
private theorem foldlM_visit_zip (hnames : (schema.declared.map Prod.fst).Nodup)
    {fields : List (Field δ)} (hfields : ∀ f ∈ fields, f ∈ schema.fields) (items : List Value)
    (draft : δ) :
    ((fields.map Field.name).zip items).foldlM schema.visit draft =
      (fields.zip items).foldlM (fun d (p : Field δ × Value) => p.1.read p.2 d) draft := by
  induction fields generalizing items draft with
  | nil => rfl
  | cons f fields ih =>
    cases items with
    | nil => rfl
    | cons v items =>
      have hvisit : schema.visit draft (f.name, v) = f.read v draft := by
        rw [visit, field?_name hnames (hfields f List.mem_cons_self)]
      rw [List.map_cons, List.zip_cons_cons, List.zip_cons_cons, List.foldlM_cons,
        List.foldlM_cons, hvisit]
      exact congrArg _ (funext fun middle =>
        ih (fun g hg => hfields g (List.mem_cons_of_mem f hg)) items middle)

/-- **An array is read like a table**, the one that gives its elements to the fields in order. If
the array does not reach a field it may not end before, its elements are read nevertheless, and then
it is too short. -/
theorem ofElements_eq (hnames : (schema.declared.map Prod.fst).Nodup) (items : List Value) :
    schema.ofElements items =
      match schema.firstUncovered items.length with
      | none => schema.ofEntries ((schema.declared.map Prod.fst).zip items)
      | some index =>
        ((schema.declared.map Prod.fst).zip items).foldlM schema.visit schema.blank >>= fun _ =>
          .error (.tooShort index schema.title schema.fields.length) := by
  have hdeclared : schema.declared.map Prod.fst = schema.fields.map Field.name := by
    rw [declared, List.map_map]
    rfl
  have huncovered : schema.firstUncovered items.length =
      ((schema.fields.drop items.length).findIdx? fun f => !f.optional).map (items.length + ·) := by
    rw [firstUncovered, declared, ← List.map_drop, List.findIdx?_map]
    rfl
  rw [ofElements, ofEntries, enterElements_eq, huncovered, hdeclared,
    foldlM_visit_zip hnames fun _ hf => hf, bind_assoc]
  cases (schema.fields.drop items.length).findIdx? fun f => !f.optional with
  | none => rfl
  | some i =>
    simp only [Option.map_some, Nat.zero_add]
    rfl

/-- An array is read if the table that gives its elements to the fields is, and if the array may end
where it does. -/
theorem ofElements_eq_ok_iff (hnames : (schema.declared.map Prod.fst).Nodup) {items : List Value}
    {a : α} :
    schema.ofElements items = .ok a ↔
      (∀ field ∈ schema.declared.drop items.length, field.2 = true) ∧
        schema.ofEntries ((schema.declared.map Prod.fst).zip items) = .ok a := by
  rw [ofElements_eq hnames, ← firstUncovered_eq_none_iff]
  cases schema.firstUncovered items.length with
  | none => exact (and_iff_right rfl).symm
  | some index =>
    refine iff_of_false (fun h => ?_) fun h => nomatch h.1
    obtain ⟨_, -, h⟩ := bind_eq_ok_iff.mp h
    cases h

end Schema

/-! ### Structures in any form -/

/-- The entries a value gives to a structure with declared fields, each of which says whether an
array may end before it. -/
inductive Gives (declared : List (String × Bool)) : Value → Entries → Prop
  /-- A table gives its entries. -/
  | table (entries : Entries) : Gives declared (.table entries) entries
  /-- A moment is a table with its text under a key of its own. -/
  | moment (written : String) :
      Gives declared (.moment written) [("$__toml_private_datetime", .text written)]
  /-- An array gives its elements to the fields in order. -/
  | array {items : List Value} (h : ∀ field ∈ declared.drop items.length, field.2 = true) :
      Gives declared (.array items) ((declared.map Prod.fst).zip items)

/-- A value gives entries in one way only. -/
theorem Gives.unique {declared : List (String × Bool)} {v : Value} {given given' : Entries}
    (h : Gives declared v given) (h' : Gives declared v given') : given = given' := by
  cases h <;> cases h' <;> rfl

/-- What a value gives to the distinct fields of a structure has distinct keys. -/
theorem Gives.distinct {declared : List (String × Bool)} {v : Value} {given : Entries}
    (h : Gives declared v given) (hnames : (declared.map Prod.fst).Nodup) (hv : v.Distinct) :
    (Value.table given).Distinct := by
  cases h with
  | table entries => exact hv
  | moment written =>
    refine .table (List.nodup_singleton _) fun e he => ?_
    obtain rfl := List.mem_singleton.mp he
    exact .text written
  | @array items hreached =>
    cases hv with
    | array hitems =>
      refine .table ?_ fun e he => hitems e.2 (List.of_mem_zip he).2
      rw [List.zip_eq_zip_take_min, List.map_fst_zip (by simp)]
      exact hnames.sublist (List.take_sublist _ _)

/-- **Structures are read by way of a table.** A value is read if it gives entries that are. -/
theorem Schema.ofValue_eq_ok_iff {schema : Schema δ α}
    (hnames : (schema.declared.map Prod.fst).Nodup) {v : Value} {a : α} :
    schema.ofValue v = .ok a ↔
      ∃ given, Gives schema.declared v given ∧ schema.ofEntries given = .ok a := by
  constructor
  · intro h
    cases v with
    | table entries => exact ⟨_, .table entries, h⟩
    | moment written => exact ⟨_, .moment written, h⟩
    | array items =>
      obtain ⟨hreached, hread⟩ := (ofElements_eq_ok_iff hnames).mp h
      exact ⟨_, .array hreached, hread⟩
    | text _ | integer _ | float _ | boolean _ => cases h
  · rintro ⟨given, hgives, hread⟩
    cases hgives with
    | table entries => exact hread
    | moment written => exact hread
    | array hreached => exact (ofElements_eq_ok_iff hnames).mpr ⟨hreached, hread⟩

end SerialCard
