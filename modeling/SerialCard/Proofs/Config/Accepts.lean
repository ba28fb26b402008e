import SerialCard.Config.Load
import SerialCard.Proofs.Config.Fields

/-!
# The documents that are configurations

What a configuration looks like in a document is said here without a word about how it is read.
`Reads` are the values that stand for a truth value, a text, a number or a structure; a structure
may be written as a table, an array or a moment, and `Describes`, for each structure, is what its
entries have to be: which keys there may be, which there must be, and what the value of each says.

Every reader of the configuration agrees with this on values whose tables have distinct keys
(`Reads.Agrees`), from the single fields up to whole documents. So a document is read exactly if it
describes a configuration, and it is read as what it describes (`config_accepts_described`).
-/

namespace SerialCard

open Toml (Value Entries)

/-! ### What values stand for -/

namespace Reads

variable {α β : Type}

/-- The value is a truth value. -/
def boolean (v : Value) (b : Bool) : Prop :=
  v = .boolean b

/-- The value is a text. -/
def text (v : Value) (s : String) : Prop :=
  v = .text s

/-- The value is a number in the range of unsigned words. -/
def word (v : Value) (n : UInt32) : Prop :=
  v = .integer n.toNat

/-- The value is a number in the range of signed words. -/
def signed (v : Value) (n : Int32) : Prop :=
  v = .integer n.toInt

/-- The value gives the declared fields of a structure entries that describe it. -/
def struct (declared : List (String × Bool)) (describes : Entries → α → Prop) (v : Value) (a : α) :
    Prop :=
  ∃ given, Gives declared v given ∧ describes given a

/-- What is found stands for something, and if nothing is found, there is a default. -/
def orElse (read : Value → β → Prop) (default : β) : Option Value → β → Prop
  | none, b => b = default
  | some v, b => read v b

end Reads

/-- The fields of a mode, each with whether an array may end before it. -/
def ModeConfig.declared : List (String × Bool) :=
  [("enabled", false), ("value", true)]

/-- The entries describe a mode. The value counts only when the mode is enabled, but then it has to
be there. -/
structure ModeConfig.Describes (given : Entries) (m : ModeConfig) : Prop where
  keys : ∀ key ∈ given.map Prod.fst, key ∈ declared.map Prod.fst
  enabled : given.lookup "enabled" = some (.boolean m.enabled)
  value : Reads.orElse Reads.signed 0 (given.lookup "value") m.value
  required : m.enabled = true → given.lookup "value" ≠ none

/-- The value stands for a mode. -/
def Reads.mode : Value → ModeConfig → Prop :=
  struct ModeConfig.declared ModeConfig.Describes

/-- The fields of a profile, each with whether an array may end before it. -/
def Profile.declared : List (String × Bool) :=
  [("skip_unsupported", true), ("clock_rate", false), ("sample_rate", false), ("rs485", false),
    ("echo_cancel", false), ("termination", false), ("nine_bit", false), ("tx_trigger", false),
    ("rx_trigger", false), ("fixed_baud_rate", false), ("isochronous", false),
    ("external_transmit", false), ("frame_length", false)]

/-- The entries describe a profile. -/
structure Profile.Describes (given : Entries) (p : Profile) : Prop where
  keys : ∀ key ∈ given.map Prod.fst, key ∈ declared.map Prod.fst
  skipUnsupported : Reads.orElse Reads.boolean false (given.lookup "skip_unsupported")
    p.skipUnsupported
  clockRate : Option.Rel Reads.word (given.lookup "clock_rate") p.clockRate
  sampleRate : Option.Rel Reads.word (given.lookup "sample_rate") p.sampleRate
  rs485 : Option.Rel Reads.boolean (given.lookup "rs485") p.rs485
  echoCancel : Option.Rel Reads.boolean (given.lookup "echo_cancel") p.echoCancel
  termination : Option.Rel Reads.boolean (given.lookup "termination") p.termination
  nineBit : Option.Rel Reads.boolean (given.lookup "nine_bit") p.nineBit
  txTrigger : Option.Rel Reads.word (given.lookup "tx_trigger") p.txTrigger
  rxTrigger : Option.Rel Reads.word (given.lookup "rx_trigger") p.rxTrigger
  fixedBaudRate : Option.Rel Reads.mode (given.lookup "fixed_baud_rate") p.fixedBaudRate
  isochronous : Option.Rel Reads.mode (given.lookup "isochronous") p.isochronous
  externalTransmit : Option.Rel Reads.mode (given.lookup "external_transmit") p.externalTransmit
  frameLength : Option.Rel Reads.word (given.lookup "frame_length") p.frameLength

/-- The value stands for a profile. -/
def Reads.profile : Value → Profile → Prop :=
  struct Profile.declared Profile.Describes

/-- The fields of the part about the log, each with whether an array may end before it. -/
def LoggingConfig.declared : List (String × Bool) :=
  [("enable", true), ("file", true), ("level", true)]

/-- The entries describe the part about the log. Other keys are let pass. -/
structure LoggingConfig.Describes (given : Entries) (l : LoggingConfig) : Prop where
  enable : Reads.orElse Reads.boolean false (given.lookup "enable") l.enable
  file : Option.Rel Reads.text (given.lookup "file") l.file
  level : Reads.orElse Reads.text "INFO" (given.lookup "level") l.level

/-- The value stands for the part about the log. -/
def Reads.logging : Value → LoggingConfig → Prop :=
  struct LoggingConfig.declared LoggingConfig.Describes

/-- The fields of the part about the port, each with whether an array may end before it. -/
def PortConfig.declared : List (String × Bool) :=
  [("number", true), ("path", true)]

/-- The entries describe the part about the port. -/
structure PortConfig.Describes (given : Entries) (p : PortConfig) : Prop where
  keys : ∀ key ∈ given.map Prod.fst, key ∈ declared.map Prod.fst
  number : Option.Rel Reads.word (given.lookup "number") p.number
  path : Option.Rel Reads.text (given.lookup "path") p.path

/-- The value stands for the part about the port. -/
def Reads.port : Value → PortConfig → Prop :=
  struct PortConfig.declared PortConfig.Describes

/-- The entries of a document describe a configuration. Only the port has to be there. -/
structure Config.Describes (entries : Entries) (c : Config) : Prop where
  keys : ∀ key ∈ entries.map Prod.fst, key ∈ ["logging", "port", "profile"]
  logging : Reads.orElse Reads.logging { enable := false, file := none, level := "INFO" }
    (entries.lookup "logging") c.logging
  port : ∃ v, entries.lookup "port" = some v ∧ Reads.port v c.port
  profile : Reads.orElse Reads.profile { skipUnsupported := false } (entries.lookup "profile")
    c.profile

/-! ### Readers and what they read -/

namespace Reads

variable {δ α β γ : Type}

/-- A reader reads the distinct values that stand for something, and reads them as that. -/
def Agrees (decode : Value → Except DecodeError β) (read : Value → β → Prop) : Prop :=
  ∀ v, v.Distinct → ∀ b, decode v = .ok b ↔ read v b

theorem agrees_boolean : Agrees Decode.boolean boolean := by
  intro v _ b
  rw [boolean]
  cases v with
  | boolean b' => simp only [Decode.boolean, Except.ok.injEq, Value.boolean.injEq]
  | _ => simp only [Decode.boolean, reduceCtorEq]

theorem agrees_text : Agrees Decode.text text := by
  intro v _ s
  rw [text]
  cases v with
  | text s' => simp only [Decode.text, Except.ok.injEq, Value.text.injEq]
  | _ => simp only [Decode.text, reduceCtorEq]

/-- Numbers are not wrapped. -/
theorem agrees_word : Agrees Decode.word word := by
  intro v _ n
  rw [word]
  cases v with
  | integer k =>
    rw [Decode.word, Value.integer.injEq]
    constructor
    · intro h
      split at h
      · next hrange =>
        obtain rfl := Except.ok.inj h
        rw [UInt32.toNat_ofNat']
        omega
      · cases h
    · rintro rfl
      have hlt := n.toNat_lt
      rw [if_pos (by omega), Int.toNat_natCast, UInt32.ofNat_toNat]
  | _ => simp only [Decode.word, reduceCtorEq]

theorem agrees_signed : Agrees Decode.signed signed := by
  intro v _ n
  rw [signed]
  cases v with
  | integer k =>
    rw [Decode.signed, Value.integer.injEq]
    constructor
    · intro h
      split at h
      · next hrange =>
        obtain rfl := Except.ok.inj h
        rw [Int32.toInt_ofInt_of_le (by omega) (by omega)]
      · cases h
    · rintro rfl
      have hle := n.le_toInt
      have hlt := n.toInt_lt
      rw [if_pos (by omega), Int32.ofInt_toInt]
  | _ => simp only [Decode.signed, reduceCtorEq]

section Struct

variable {schema : Schema δ α} {declared : List (String × Bool)} {describes : Entries → α → Prop}

/-- A structure is read in any form if it is read from tables. -/
theorem agrees_struct (hdeclared : schema.declared = declared)
    (hnames : (declared.map Prod.fst).Nodup)
    (h : ∀ given a, (Value.table given).Distinct →
      (schema.ofEntries given = .ok a ↔ describes given a)) :
    Agrees schema.ofValue (struct declared describes) := by
  intro v hv a
  subst hdeclared
  rw [Schema.ofValue_eq_ok_iff hnames]
  constructor
  · rintro ⟨given, hgives, hread⟩
    exact ⟨given, hgives, (h given a (hgives.distinct hnames hv)).mp hread⟩
  · rintro ⟨given, hgives, hdescribes⟩
    exact ⟨given, hgives, (h given a (hgives.distinct hnames hv)).mpr hdescribes⟩

end Struct

section Lookup

variable {read : Value → β → Prop} {found : Option Value} {b b' : β}

/-- The value that is found stands for something. -/
theorem exists_of_rel {o : Option β} (h : Option.Rel read found o) :
    ∀ v, found = some v → ∃ b, read v b := by
  rintro v rfl
  cases h with
  | some h => exact ⟨_, h⟩

theorem exists_of_rel_some (h : Option.Rel read found (some b)) :
    ∃ v, found = some v ∧ read v b := by
  cases h with
  | some h => exact ⟨_, rfl, h⟩

theorem exists_of_orElse {default : β} (h : orElse read default found b) :
    ∀ v, found = some v → ∃ b, read v b := by
  rintro v rfl
  exact ⟨b, h⟩

theorem orElse_of_rel {o : Option β} (h : Option.Rel read found o) (default : β) :
    orElse read default found (o.getD default) := by
  cases h with
  | none => rfl
  | some h => exact h

theorem rel_ne_none {o : Option β} (h : Option.Rel read found o) : o ≠ none ↔ found ≠ none := by
  cases h with
  | none => exact iff_of_false (fun h => h rfl) (fun h => h rfl)
  | some h => exact ⟨fun _ => Option.some_ne_none _, fun _ => Option.some_ne_none _⟩

theorem rel_boolean {o : Option Bool} (h : Option.Rel boolean found o) {on : Bool} :
    o = some on ↔ found = some (.boolean on) := by
  cases h with
  | none => simp only [reduceCtorEq]
  | some h =>
    rw [boolean] at h
    rw [h, Option.some.injEq, Option.some.injEq, Value.boolean.injEq]

variable {decode : Value → Except DecodeError β} (hagrees : Agrees decode read) {given : Entries}
  (hgiven : (Value.table given).Distinct) {name : String}

include hagrees hgiven

/-- What is looked up stands for one thing only. -/
theorem unique_lookup {v : Value} (hlookup : given.lookup name = some v) (h : read v b)
    (h' : read v b') : b = b' := by
  have hv := hgiven.of_lookup hlookup
  exact Except.ok.inj (((hagrees v hv b).mpr h).symm.trans ((hagrees v hv b').mpr h'))

theorem rel_unique {o o' : Option β} (h : Option.Rel read (given.lookup name) o)
    (h' : Option.Rel read (given.lookup name) o') : o = o' := by
  cases hlookup : given.lookup name with
  | none =>
    rw [hlookup] at h h'
    cases h
    cases h'
    rfl
  | some v =>
    rw [hlookup] at h h'
    cases h with
    | some h =>
      cases h' with
      | some h' => exact congrArg some (unique_lookup hagrees hgiven hlookup h h')

theorem orElse_unique {default : β} (h : orElse read default (given.lookup name) b)
    (h' : orElse read default (given.lookup name) b') : b = b' := by
  cases hlookup : given.lookup name with
  | none =>
    rw [hlookup] at h h'
    exact h.trans h'.symm
  | some v =>
    rw [hlookup] at h h'
    exact unique_lookup hagrees hgiven hlookup h h'

end Lookup

end Reads

namespace Schema

variable {δ α β γ : Type} {schema : Schema δ α} {name : String}
  {decode : Value → Except DecodeError β} {read : Value → β → Prop} {given : Entries}
  {draft draft' : δ}

/-- A part that is open unless its key is there. -/
theorem Sets.rel {part : δ → Option β} (h : schema.Sets name decode part some)
    (hagrees : Reads.Agrees decode read) (hgiven : (Value.table given).Distinct)
    (hfold : given.foldlM schema.visit draft = .ok draft') (hdraft : part draft = none) :
    Option.Rel read (given.lookup name) (part draft') := by
  have htold := h.lookup_foldlM hgiven.keys hfold
  cases hlookup : given.lookup name with
  | none =>
    rw [hlookup] at htold
    rw [htold, hdraft]
    exact .none
  | some v =>
    rw [hlookup] at htold
    obtain ⟨b, hdecode, hpart⟩ := htold
    rw [hpart]
    exact .some ((hagrees v (hgiven.of_lookup hlookup) b).mp hdecode)

/-- A part that has a default. -/
theorem Sets.orElse {part : δ → β} (h : schema.Sets name decode part id)
    (hagrees : Reads.Agrees decode read) (hgiven : (Value.table given).Distinct)
    (hfold : given.foldlM schema.visit draft = .ok draft') :
    Reads.orElse read (part draft) (given.lookup name) (part draft') := by
  have htold := h.lookup_foldlM hgiven.keys hfold
  cases hlookup : given.lookup name with
  | none =>
    rw [hlookup] at htold
    exact htold
  | some v =>
    rw [hlookup] at htold
    obtain ⟨b, hdecode, hpart⟩ := htold
    rw [hpart]
    exact (hagrees v (hgiven.of_lookup hlookup) b).mp hdecode

/-- The key of a field can be visited if what is looked up under it stands for something. -/
theorem exists_visit_lookup {enter : β → δ → δ} {optional : Bool}
    (hfield : schema.field? name = some (.of name decode enter optional))
    (hagrees : Reads.Agrees decode read) (hgiven : (Value.table given).Distinct)
    (h : ∀ v, given.lookup name = some v → ∃ b, read v b) {v : Value}
    (hlookup : given.lookup name = some v) (draft : δ) :
    ∃ draft', schema.visit draft (name, v) = .ok draft' := by
  obtain ⟨b, hread⟩ := h v hlookup
  exact exists_visit hfield ((hagrees v (hgiven.of_lookup hlookup) b).mpr hread) draft

/-- Each entry can be visited if what is looked up under each key there may be can be. -/
theorem forall_exists_visit (hgiven : (Value.table given).Distinct) {names : List String}
    (hnames : ∀ key ∈ given.map Prod.fst, key ∈ names)
    (h : ∀ key ∈ names, ∀ {v}, given.lookup key = some v →
      ∀ draft, ∃ draft', schema.visit draft (key, v) = .ok draft') :
    ∀ e ∈ given, ∀ draft, ∃ draft', schema.visit draft e = .ok draft' := by
  rintro ⟨key, v⟩ he
  exact h key (hnames key (List.mem_map_of_mem he))
    ((Toml.lookup_eq_some_iff hgiven.keys).mpr he)

/-- A schema whose drafts are structures already reads what its entries describe: what was read is
described, what is described can be visited, and only one structure is described. -/
theorem ofEntries_eq_ok_iff {schema : Schema α α} {describes : α → Prop}
    (hfinish : schema.finish = .ok)
    (hdraft : ∀ {a}, given.foldlM schema.visit schema.blank = .ok a → describes a)
    (hvisit : ∀ {a}, describes a →
      ∀ e ∈ given, ∀ draft, ∃ draft', schema.visit draft e = .ok draft')
    (hunique : ∀ {a a'}, describes a → describes a' → a = a') {a : α} :
    schema.ofEntries given = .ok a ↔ describes a := by
  rw [ofEntries, bind_eq_ok_iff, hfinish]
  constructor
  · rintro ⟨a', hfold, ha⟩
    obtain rfl := Except.ok.inj ha
    exact hdraft hfold
  · intro h
    obtain ⟨a', hfold⟩ := exists_foldlM_visit (hvisit h) schema.blank
    obtain rfl := hunique h (hdraft hfold)
    exact ⟨a, hfold, rfl⟩

end Schema

/-! ### Modes -/

namespace ModeConfig

variable {given : Entries} {m : ModeConfig}

theorem sets_enabled : schema.Sets "enabled" Decode.boolean Draft.enabled some :=
  .of rfl (fun _ _ => rfl) (by simp [schema])

theorem sets_value : schema.Sets "value" Decode.signed Draft.value some :=
  .of rfl (fun _ _ => rfl) (by simp [schema])

/-- What was read of a mode is what its entries say. -/
theorem describes_draft (hgiven : (Value.table given).Distinct) {draft : Draft}
    (hfold : given.foldlM schema.visit {} = .ok draft) :
    (∀ key ∈ given.map Prod.fst, key ∈ declared.map Prod.fst) ∧
      Option.Rel Reads.boolean (given.lookup "enabled") draft.enabled ∧
      Option.Rel Reads.signed (given.lookup "value") draft.value := by
  exact ⟨Schema.mem_declared_of_foldlM rfl hfold,
    sets_enabled.rel Reads.agrees_boolean hgiven hfold rfl,
    sets_value.rel Reads.agrees_signed hgiven hfold rfl⟩

/-- The mode of a draft. -/
theorem ofDraft_eq_ok_iff {draft : Draft} :
    ofDraft draft = .ok m ↔
      draft.enabled = some m.enabled ∧ draft.value.getD 0 = m.value ∧
        (m.enabled = true → draft.value ≠ none) := by
  obtain ⟨enabled, value⟩ := draft
  obtain ⟨on, number⟩ := m
  rcases enabled with - | - | - <;> rcases value with - | n <;> cases on <;> simp [ofDraft]

theorem ofEntries_eq_ok_iff (hgiven : (Value.table given).Distinct) :
    schema.ofEntries given = .ok m ↔ Describes given m := by
  rw [Schema.ofEntries, bind_eq_ok_iff]
  constructor
  · rintro ⟨draft, hfold, hfinish⟩
    obtain ⟨hkeys, henabled, hvalue⟩ := describes_draft hgiven hfold
    obtain ⟨hon, hnumber, hrequired⟩ := ofDraft_eq_ok_iff.mp hfinish
    have hvalue' := Reads.orElse_of_rel hvalue 0
    rw [hnumber] at hvalue'
    exact ⟨hkeys, (Reads.rel_boolean henabled).mp hon, hvalue',
      fun h => (Reads.rel_ne_none hvalue).mp (hrequired h)⟩
  · intro h
    have hvisit : ∀ e ∈ given, ∀ draft, ∃ draft', schema.visit draft e = .ok draft' := by
      refine Schema.forall_exists_visit hgiven h.keys ?_
      simp only [declared, List.map_cons, List.map_nil, List.forall_mem_cons]
      exact ⟨Schema.exists_visit_lookup rfl Reads.agrees_boolean hgiven
          fun v hv => ⟨m.enabled, Option.some.inj (hv.symm.trans h.enabled)⟩,
        Schema.exists_visit_lookup rfl Reads.agrees_signed hgiven (Reads.exists_of_orElse h.value),
        fun _ hkey => absurd hkey List.not_mem_nil⟩
    obtain ⟨draft, hfold⟩ := Schema.exists_foldlM_visit hvisit {}
    obtain ⟨-, henabled, hvalue⟩ := describes_draft hgiven hfold
    have hnumber := Reads.orElse_unique Reads.agrees_signed hgiven (Reads.orElse_of_rel hvalue 0)
      h.value
    exact ⟨draft, hfold, ofDraft_eq_ok_iff.mpr ⟨(Reads.rel_boolean henabled).mpr h.enabled, hnumber,
      fun hon => (Reads.rel_ne_none hvalue).mpr (h.required hon)⟩⟩

end ModeConfig

theorem Reads.agrees_mode : Agrees ModeConfig.schema.ofValue mode :=
  agrees_struct rfl (by decide) fun _ _ => ModeConfig.ofEntries_eq_ok_iff

/-! ### The parts of a configuration -/

namespace Profile

variable {given : Entries} {p : Profile}

/-- What was read of a profile is what its entries say. -/
theorem describes_draft (hgiven : (Value.table given).Distinct)
    (hfold : given.foldlM schema.visit {} = .ok p) : Describes given p := by
  have hword {name : String} {part : Profile → Option UInt32} (hblank : part {} = none)
      (hsets : schema.Sets name Decode.word part some) :
      Option.Rel Reads.word (given.lookup name) (part p) :=
    hsets.rel Reads.agrees_word hgiven hfold hblank
  have hflag {name : String} {part : Profile → Option Bool} (hblank : part {} = none)
      (hsets : schema.Sets name Decode.boolean part some) :
      Option.Rel Reads.boolean (given.lookup name) (part p) :=
    hsets.rel Reads.agrees_boolean hgiven hfold hblank
  have hmode {name : String} {part : Profile → Option ModeConfig} (hblank : part {} = none)
      (hsets : schema.Sets name ModeConfig.schema.ofValue part some) :
      Option.Rel Reads.mode (given.lookup name) (part p) :=
    hsets.rel Reads.agrees_mode hgiven hfold hblank
  have hskip : schema.Sets "skip_unsupported" Decode.boolean skipUnsupported id :=
    .of rfl (fun _ _ => rfl) (by simp [schema])
  exact
    { keys := Schema.mem_declared_of_foldlM rfl hfold
      skipUnsupported := hskip.orElse Reads.agrees_boolean hgiven hfold
      clockRate := hword rfl (.of rfl (fun _ _ => rfl) (by simp [schema]))
      sampleRate := hword rfl (.of rfl (fun _ _ => rfl) (by simp [schema]))
      rs485 := hflag rfl (.of rfl (fun _ _ => rfl) (by simp [schema]))
      echoCancel := hflag rfl (.of rfl (fun _ _ => rfl) (by simp [schema]))
      termination := hflag rfl (.of rfl (fun _ _ => rfl) (by simp [schema]))
      nineBit := hflag rfl (.of rfl (fun _ _ => rfl) (by simp [schema]))
      txTrigger := hword rfl (.of rfl (fun _ _ => rfl) (by simp [schema]))
      rxTrigger := hword rfl (.of rfl (fun _ _ => rfl) (by simp [schema]))
      fixedBaudRate := hmode rfl (.of rfl (fun _ _ => rfl) (by simp [schema]))
      isochronous := hmode rfl (.of rfl (fun _ _ => rfl) (by simp [schema]))
      externalTransmit := hmode rfl (.of rfl (fun _ _ => rfl) (by simp [schema]))
      frameLength := hword rfl (.of rfl (fun _ _ => rfl) (by simp [schema])) }

/-- Each entry of a profile can be visited. -/
theorem Describes.exists_visit (h : Describes given p) (hgiven : (Value.table given).Distinct) :
    ∀ e ∈ given, ∀ draft, ∃ draft', schema.visit draft e = .ok draft' := by
  refine Schema.forall_exists_visit hgiven h.keys ?_
  simp only [declared, List.map_cons, List.map_nil, List.forall_mem_cons]
  exact ⟨Schema.exists_visit_lookup rfl Reads.agrees_boolean hgiven
      (Reads.exists_of_orElse h.skipUnsupported),
    Schema.exists_visit_lookup rfl Reads.agrees_word hgiven (Reads.exists_of_rel h.clockRate),
    Schema.exists_visit_lookup rfl Reads.agrees_word hgiven (Reads.exists_of_rel h.sampleRate),
    Schema.exists_visit_lookup rfl Reads.agrees_boolean hgiven (Reads.exists_of_rel h.rs485),
    Schema.exists_visit_lookup rfl Reads.agrees_boolean hgiven (Reads.exists_of_rel h.echoCancel),
    Schema.exists_visit_lookup rfl Reads.agrees_boolean hgiven (Reads.exists_of_rel h.termination),
    Schema.exists_visit_lookup rfl Reads.agrees_boolean hgiven (Reads.exists_of_rel h.nineBit),
    Schema.exists_visit_lookup rfl Reads.agrees_word hgiven (Reads.exists_of_rel h.txTrigger),
    Schema.exists_visit_lookup rfl Reads.agrees_word hgiven (Reads.exists_of_rel h.rxTrigger),
    Schema.exists_visit_lookup rfl Reads.agrees_mode hgiven (Reads.exists_of_rel h.fixedBaudRate),
    Schema.exists_visit_lookup rfl Reads.agrees_mode hgiven (Reads.exists_of_rel h.isochronous),
    Schema.exists_visit_lookup rfl Reads.agrees_mode hgiven
      (Reads.exists_of_rel h.externalTransmit),
    Schema.exists_visit_lookup rfl Reads.agrees_word hgiven (Reads.exists_of_rel h.frameLength),
    fun _ hkey => absurd hkey List.not_mem_nil⟩

/-- Entries describe one profile at most. -/
theorem Describes.unique {p' : Profile} (h : Describes given p) (h' : Describes given p')
    (hgiven : (Value.table given).Distinct) : p = p' := by
  cases p
  cases p'
  rw [Profile.mk.injEq]
  exact ⟨Reads.orElse_unique Reads.agrees_boolean hgiven h.skipUnsupported h'.skipUnsupported,
    Reads.rel_unique Reads.agrees_word hgiven h.clockRate h'.clockRate,
    Reads.rel_unique Reads.agrees_word hgiven h.sampleRate h'.sampleRate,
    Reads.rel_unique Reads.agrees_boolean hgiven h.rs485 h'.rs485,
    Reads.rel_unique Reads.agrees_boolean hgiven h.echoCancel h'.echoCancel,
    Reads.rel_unique Reads.agrees_boolean hgiven h.termination h'.termination,
    Reads.rel_unique Reads.agrees_boolean hgiven h.nineBit h'.nineBit,
    Reads.rel_unique Reads.agrees_word hgiven h.txTrigger h'.txTrigger,
    Reads.rel_unique Reads.agrees_word hgiven h.rxTrigger h'.rxTrigger,
    Reads.rel_unique Reads.agrees_mode hgiven h.fixedBaudRate h'.fixedBaudRate,
    Reads.rel_unique Reads.agrees_mode hgiven h.isochronous h'.isochronous,
    Reads.rel_unique Reads.agrees_mode hgiven h.externalTransmit h'.externalTransmit,
    Reads.rel_unique Reads.agrees_word hgiven h.frameLength h'.frameLength⟩

theorem ofEntries_eq_ok_iff (hgiven : (Value.table given).Distinct) :
    schema.ofEntries given = .ok p ↔ Describes given p :=
  Schema.ofEntries_eq_ok_iff rfl (describes_draft hgiven) (fun h => h.exists_visit hgiven)
    fun h h' => h.unique h' hgiven

end Profile

theorem Reads.agrees_profile : Agrees Profile.schema.ofValue profile :=
  agrees_struct rfl (by decide) fun _ _ => Profile.ofEntries_eq_ok_iff

namespace LoggingConfig

variable {given : Entries} {l : LoggingConfig}

/-- What was read about the log is what its entries say. -/
theorem describes_draft (hgiven : (Value.table given).Distinct)
    (hfold : given.foldlM schema.visit {} = .ok l) : Describes given l := by
  have henable : schema.Sets "enable" Decode.boolean enable id :=
    .of rfl (fun _ _ => rfl) (by simp [schema])
  have hfile : schema.Sets "file" Decode.text file some :=
    .of rfl (fun _ _ => rfl) (by simp [schema])
  have hlevel : schema.Sets "level" Decode.text level id :=
    .of rfl (fun _ _ => rfl) (by simp [schema])
  exact ⟨henable.orElse Reads.agrees_boolean hgiven hfold,
    hfile.rel Reads.agrees_text hgiven hfold rfl, hlevel.orElse Reads.agrees_text hgiven hfold⟩

/-- Each entry about the log can be visited; one that is not declared changes nothing. -/
theorem Describes.exists_visit (h : Describes given l) (hgiven : (Value.table given).Distinct) :
    ∀ e ∈ given, ∀ draft, ∃ draft', schema.visit draft e = .ok draft' := by
  rintro ⟨key, v⟩ he draft
  have hlookup : given.lookup key = some v := (Toml.lookup_eq_some_iff hgiven.keys).mpr he
  by_cases hkey : key = "enable" ∨ key = "file" ∨ key = "level"
  · rcases hkey with rfl | rfl | rfl
    · exact Schema.exists_visit_lookup rfl Reads.agrees_boolean hgiven
        (Reads.exists_of_orElse h.enable) hlookup draft
    · exact Schema.exists_visit_lookup rfl Reads.agrees_text hgiven
        (Reads.exists_of_rel h.file) hlookup draft
    · exact Schema.exists_visit_lookup rfl Reads.agrees_text hgiven
        (Reads.exists_of_orElse h.level) hlookup draft
  · have hfield : schema.field? key = none := by
      refine List.find?_eq_none.mpr fun f hf hname => hkey ?_
      have hdeclared : f.name ∈ schema.fields.map Field.name := List.mem_map_of_mem hf
      rw [beq_iff_eq.mp hname] at hdeclared
      simpa only [schema, List.map_cons, List.map_nil, Field.of_name, List.mem_cons,
        List.not_mem_nil, or_false] using hdeclared
    exact ⟨draft, by simp only [Schema.visit, hfield]; rfl⟩

theorem ofEntries_eq_ok_iff (hgiven : (Value.table given).Distinct) :
    schema.ofEntries given = .ok l ↔ Describes given l := by
  refine Schema.ofEntries_eq_ok_iff rfl (describes_draft hgiven) (fun h => h.exists_visit hgiven)
    fun {l l'} h h' => ?_
  cases l
  cases l'
  rw [LoggingConfig.mk.injEq]
  exact ⟨Reads.orElse_unique Reads.agrees_boolean hgiven h.enable h'.enable,
    Reads.rel_unique Reads.agrees_text hgiven h.file h'.file,
    Reads.orElse_unique Reads.agrees_text hgiven h.level h'.level⟩

end LoggingConfig

theorem Reads.agrees_logging : Agrees LoggingConfig.schema.ofValue logging :=
  agrees_struct rfl (by decide) fun _ _ => LoggingConfig.ofEntries_eq_ok_iff

namespace PortConfig

variable {given : Entries} {p : PortConfig}

/-- What was read about the port is what its entries say. -/
theorem describes_draft (hgiven : (Value.table given).Distinct)
    (hfold : given.foldlM schema.visit {} = .ok p) : Describes given p := by
  have hnumber : schema.Sets "number" Decode.word number some :=
    .of rfl (fun _ _ => rfl) (by simp [schema])
  have hpath : schema.Sets "path" Decode.text path some :=
    .of rfl (fun _ _ => rfl) (by simp [schema])
  exact ⟨Schema.mem_declared_of_foldlM rfl hfold,
    hnumber.rel Reads.agrees_word hgiven hfold rfl, hpath.rel Reads.agrees_text hgiven hfold rfl⟩

/-- Each entry about the port can be visited. -/
theorem Describes.exists_visit (h : Describes given p) (hgiven : (Value.table given).Distinct) :
    ∀ e ∈ given, ∀ draft, ∃ draft', schema.visit draft e = .ok draft' := by
  refine Schema.forall_exists_visit hgiven h.keys ?_
  simp only [declared, List.map_cons, List.map_nil, List.forall_mem_cons]
  exact ⟨Schema.exists_visit_lookup rfl Reads.agrees_word hgiven (Reads.exists_of_rel h.number),
    Schema.exists_visit_lookup rfl Reads.agrees_text hgiven (Reads.exists_of_rel h.path),
    fun _ hkey => absurd hkey List.not_mem_nil⟩

theorem ofEntries_eq_ok_iff (hgiven : (Value.table given).Distinct) :
    schema.ofEntries given = .ok p ↔ Describes given p := by
  refine Schema.ofEntries_eq_ok_iff rfl (describes_draft hgiven) (fun h => h.exists_visit hgiven)
    fun {p p'} h h' => ?_
  cases p
  cases p'
  rw [PortConfig.mk.injEq]
  exact ⟨Reads.rel_unique Reads.agrees_word hgiven h.number h'.number,
    Reads.rel_unique Reads.agrees_text hgiven h.path h'.path⟩

end PortConfig

theorem Reads.agrees_port : Agrees PortConfig.schema.ofValue port :=
  agrees_struct rfl (by decide) fun _ _ => PortConfig.ofEntries_eq_ok_iff

/-! ### Configurations -/

namespace Config

variable {entries : Entries} {c : Config}

theorem sets_port : schema.Sets "port" PortConfig.schema.ofValue Draft.port some :=
  .of rfl (fun _ _ => rfl) (by simp [schema])

/-- What was read of a document is what its entries say. -/
theorem describes_draft (hentries : (Value.table entries).Distinct) {draft : Draft}
    (hfold : entries.foldlM schema.visit {} = .ok draft) :
    (∀ key ∈ entries.map Prod.fst, key ∈ ["logging", "port", "profile"]) ∧
      Reads.orElse Reads.logging {} (entries.lookup "logging") draft.logging ∧
      Option.Rel Reads.port (entries.lookup "port") draft.port ∧
      Reads.orElse Reads.profile {} (entries.lookup "profile") draft.profile := by
  have hlogging : schema.Sets "logging" LoggingConfig.schema.ofValue Draft.logging id :=
    .of rfl (fun _ _ => rfl) (by simp [schema])
  have hprofile : schema.Sets "profile" Profile.schema.ofValue Draft.profile id :=
    .of rfl (fun _ _ => rfl) (by simp [schema])
  exact ⟨Schema.mem_declared_of_foldlM rfl hfold,
    hlogging.orElse Reads.agrees_logging hentries hfold,
    sets_port.rel Reads.agrees_port hentries hfold rfl,
    hprofile.orElse Reads.agrees_profile hentries hfold⟩

/-- The configuration of a draft. -/
theorem ofDraft_eq_ok_iff {draft : Draft} :
    ofDraft draft = .ok c ↔
      draft.logging = c.logging ∧ draft.port = some c.port ∧ draft.profile = c.profile := by
  obtain ⟨logging, port, profile⟩ := draft
  obtain ⟨logging', port', profile'⟩ := c
  cases port <;> simp [ofDraft]

/-- Each entry of a document can be visited. -/
theorem Describes.exists_visit (h : Describes entries c)
    (hentries : (Value.table entries).Distinct) :
    ∀ e ∈ entries, ∀ draft, ∃ draft', schema.visit draft e = .ok draft' := by
  obtain ⟨v, hv, hport⟩ := h.port
  refine Schema.forall_exists_visit hentries h.keys ?_
  simp only [List.forall_mem_cons]
  exact ⟨Schema.exists_visit_lookup rfl Reads.agrees_logging hentries
      (Reads.exists_of_orElse h.logging),
    Schema.exists_visit_lookup rfl Reads.agrees_port hentries
      fun v' hv' => ⟨c.port, Option.some.inj (hv.symm.trans hv') ▸ hport⟩,
    Schema.exists_visit_lookup rfl Reads.agrees_profile hentries
      (Reads.exists_of_orElse h.profile),
    fun _ hkey => absurd hkey List.not_mem_nil⟩

/-- What is read of a document is what its entries describe. -/
theorem schema_ofEntries_eq_ok_iff (hentries : (Value.table entries).Distinct) :
    schema.ofEntries entries = .ok c ↔ Describes entries c := by
  rw [Schema.ofEntries, bind_eq_ok_iff]
  constructor
  · rintro ⟨draft, hfold, hfinish⟩
    obtain ⟨hkeys, hlogging, hport, hprofile⟩ := describes_draft hentries hfold
    obtain ⟨hl, hp, hr⟩ := ofDraft_eq_ok_iff.mp hfinish
    rw [hl] at hlogging
    rw [hp] at hport
    rw [hr] at hprofile
    exact ⟨hkeys, hlogging, Reads.exists_of_rel_some hport, hprofile⟩
  · intro h
    obtain ⟨draft, hfold⟩ := Schema.exists_foldlM_visit (h.exists_visit hentries) {}
    obtain ⟨-, hlogging, hport, hprofile⟩ := describes_draft hentries hfold
    refine ⟨draft, hfold, ofDraft_eq_ok_iff.mpr ⟨?_, ?_, ?_⟩⟩
    · exact Reads.orElse_unique Reads.agrees_logging hentries hlogging h.logging
    · obtain ⟨v, hv, hread⟩ := h.port
      have hsome : Option.Rel Reads.port (entries.lookup "port") (some c.port) :=
        hv ▸ .some hread
      exact Reads.rel_unique Reads.agrees_port hentries hport hsome
    · exact Reads.orElse_unique Reads.agrees_profile hentries hprofile h.profile

/-- Entries describe one configuration at most. -/
theorem Describes.unique {c' : Config} (h : Describes entries c) (h' : Describes entries c')
    (hentries : (Value.table entries).Distinct) : c = c' :=
  Except.ok.inj (((schema_ofEntries_eq_ok_iff hentries).mpr h).symm.trans
    ((schema_ofEntries_eq_ok_iff hentries).mpr h'))

/-- A document that is accepted describes its configuration. -/
theorem describes_of_ofEntries (hentries : (Value.table entries).Distinct)
    (h : ofEntries entries = .ok c) : Describes entries c := by
  obtain ⟨config, hread, hvalid⟩ := bind_eq_ok_iff.mp h
  obtain ⟨-, -, hconfig⟩ := bind_eq_ok_iff.mp hvalid
  obtain rfl := Except.ok.inj hconfig
  exact (schema_ofEntries_eq_ok_iff hentries).mp (mapError_eq_ok_iff.mp hread)

/-- A text that is accepted is a document, and the document describes its configuration. -/
theorem exists_describes_of_parse {text : String} (h : parse text = .ok c) :
    ∃ entries, Toml.Document.read? text = some entries ∧ Describes entries c := by
  rw [parse] at h
  split at h
  · cases h
  · next entries hread =>
    exact ⟨entries, hread, describes_of_ofEntries (Toml.Document.read?_distinct hread) h⟩

end Config

/-- **The documents that are configurations.** Take any document in which no table has a key twice.
It is read exactly if its entries describe a configuration, and it is read as that configuration,
which is the only one they describe. -/
theorem config_accepts_described (entries : Entries) (h : (Value.table entries).Distinct) :
    ((Config.schema.ofEntries entries).isOk = true ↔ ∃ config, Config.Describes entries config) ∧
    (∀ config, Config.schema.ofEntries entries = .ok config → Config.Describes entries config) ∧
    ∀ config config', Config.Describes entries config → Config.Describes entries config' →
      config = config' := by
  refine ⟨⟨fun hok => ?_, fun ⟨config, hconfig⟩ => ?_⟩, fun config hread => ?_,
    fun config config' hconfig hconfig' => hconfig.unique hconfig' h⟩
  · cases hread : Config.schema.ofEntries entries with
    | error e =>
      rw [hread] at hok
      cases hok
    | ok config => exact ⟨config, (Config.schema_ofEntries_eq_ok_iff h).mp hread⟩
  · rw [(Config.schema_ofEntries_eq_ok_iff h).mpr hconfig]
    rfl
  · exact (Config.schema_ofEntries_eq_ok_iff h).mp hread

/-- A document whose parts are given as a table, a moment and an array. -/
theorem config_accepts_described_forms :
    let entries : Entries :=
      [("profile", .table [("isochronous", .array [.boolean true, .integer (-2)]),
          ("fixed_baud_rate", .table [("enabled", .boolean false)]), ("rs485", .boolean true)]),
        ("logging", .moment "1979-05-27"), ("port", .array [.integer 3])]
    (Value.table entries).Distinct ∧
      Config.Describes entries
        { logging := {}, port := { number := some 3 },
          profile := { isochronous := some ⟨true, -2⟩, fixedBaudRate := some ⟨false, 0⟩,
                       rs485 := some true } } := by
  intro entries
  have h : (Value.table entries).Distinct := by simp [entries]
  exact ⟨h, (config_accepts_described entries h).2.1 _ rfl⟩

end SerialCard
