import SerialCard.Proofs.Config.Accepts
import SerialCard.Proofs.Config.Load
import SerialCard.Proofs.Config.Rules

/-!
# The first problem of a document

A configuration has five parts that are structures: the whole, its part about the log, its part
about the port, the profile, and each mode of the profile. The rules of each are written down here,
from the mode outwards, so that the rules of a part are there when those around it need them:
`Rules.profile` looks through its modes by the check of `Rules.mode`, and `Rules.config` looks
through the profile in turn. Nothing in them refers to how a part is read.

The problem that is reported is the first one in the order of the document, however deep it lies,
and a table is found incomplete only if no entry of it has a problem (`first_problem_reported`). A
configuration that could be read is validated after that, the level of the log before the port.
-/

namespace SerialCard

open Toml (Value Entries)

/-! ### The rules of the parts -/

namespace Rules

/-- A mode has to say whether it is enabled, and needs a value if it is. -/
def mode : Rules where
  title := "RawModeConfig"
  fields := [⟨"enabled", Check.boolean, false⟩, ⟨"value", Check.signed, true⟩]
  closed := true
  required := ["enabled"]
  violation? entries :=
    match entries.latest? "enabled", entries.latest? "value" with
    | some (.boolean true), none => some .valueRequired
    | _, _ => none

/-- A profile need not have any field, but an array has to reach the last. -/
def profile : Rules where
  title := "PortProfile"
  fields :=
    [⟨"skip_unsupported", Check.boolean, true⟩, ⟨"clock_rate", Check.word, false⟩,
      ⟨"sample_rate", Check.word, false⟩, ⟨"rs485", Check.boolean, false⟩,
      ⟨"echo_cancel", Check.boolean, false⟩, ⟨"termination", Check.boolean, false⟩,
      ⟨"nine_bit", Check.boolean, false⟩, ⟨"tx_trigger", Check.word, false⟩,
      ⟨"rx_trigger", Check.word, false⟩, ⟨"fixed_baud_rate", mode.check, false⟩,
      ⟨"isochronous", mode.check, false⟩, ⟨"external_transmit", mode.check, false⟩,
      ⟨"frame_length", Check.word, false⟩]
  closed := true
  required := []

/-- The part about the log need not have any field, and it alone lets unknown keys pass. -/
def logging : Rules where
  title := "LoggingConfig"
  fields := [⟨"enable", Check.boolean, true⟩, ⟨"file", Check.text, true⟩,
    ⟨"level", Check.text, true⟩]
  closed := false
  required := []

/-- The part about the port need not have any field; that one of them is given is not a matter of
reading. -/
def port : Rules where
  title := "PortConfig"
  fields := [⟨"number", Check.word, true⟩, ⟨"path", Check.text, true⟩]
  closed := true
  required := []

/-- A configuration has to have the part about the port. -/
def config : Rules where
  title := "Config"
  fields := [⟨"logging", logging.check, true⟩, ⟨"port", port.check, false⟩,
    ⟨"profile", profile.check, true⟩]
  closed := true
  required := ["port"]

end Rules

/-! ### The parts are read by their rules -/

/-- Only truth values are read as truth values. -/
theorem Decode.eq_boolean {v : Value} {b : Bool} (h : Decode.boolean v = .ok b) :
    v = .boolean b := by
  cases v with
  | boolean b' => exact congrArg Value.boolean (Except.ok.inj h)
  | _ => cases h

/-- A mode is incomplete if it does not say whether it is enabled, or if it is and has no value. -/
theorem ModeConfig.error?_ofDraft {entries : Entries} {draft : ModeConfig.Draft}
    (h : entries.foldlM schema.visit {} = .ok draft) :
    error? (ofDraft draft) = Rules.mode.incomplete? entries := by
  have henabled := sets_enabled.latest_foldlM h
  have hvalue := sets_value.latest_foldlM h
  simp only [Rules.incomplete?, Rules.mode, List.find?_singleton, ← Entries.isNone_latest?]
  cases hlookup : entries.latest? "enabled" with
  | none =>
    rw [hlookup] at henabled
    have hnone : draft.enabled = none := henabled
    rw [ofDraft, hnone]
    rfl
  | some v =>
    rw [hlookup] at henabled
    obtain ⟨on, hdecode, hsome⟩ := henabled
    obtain rfl := Decode.eq_boolean hdecode
    cases hlookup' : entries.latest? "value" with
    | none =>
      rw [hlookup'] at hvalue
      have hnone : draft.value = none := hvalue
      rw [ofDraft, hsome, hnone]
      cases on <;> rfl
    | some v' =>
      rw [hlookup'] at hvalue
      obtain ⟨n, -, hsome'⟩ := hvalue
      rw [ofDraft, hsome, hsome']
      cases on <;> rfl

/-- Of the entries of a document, the only one that has to be there is that of the port. -/
theorem Config.error?_ofDraft {entries : Entries} {draft : Config.Draft}
    (h : entries.foldlM schema.visit {} = .ok draft) :
    error? (ofDraft draft) = Rules.config.incomplete? entries := by
  have hport := sets_port.latest_foldlM h
  simp only [Rules.incomplete?, Rules.config, List.find?_singleton, ← Entries.isNone_latest?]
  cases hlookup : entries.latest? "port" with
  | none =>
    rw [hlookup] at hport
    have hnone : draft.port = none := hport
    rw [ofDraft, hnone]
    rfl
  | some v =>
    rw [hlookup] at hport
    obtain ⟨port, -, hsome⟩ := hport
    rw [ofDraft, hsome]
    rfl

section Keeps

open Decode (error?_boolean error?_text error?_word error?_signed)

theorem ModeConfig.keeps_mode : ModeConfig.schema.Keeps Rules.mode where
  title := rfl
  closed := rfl
  fields := .cons (.of error?_boolean _ _ _) (.cons (.of error?_signed _ _ _) .nil)
  finish := ModeConfig.error?_ofDraft

theorem Profile.keeps_profile : Profile.schema.Keeps Rules.profile where
  title := rfl
  closed := rfl
  fields := by
    have hmode := ModeConfig.keeps_mode.error?_ofValue
    simp only [schema, Rules.profile, List.forall₂_cons, Field.Follows.of error?_boolean,
      Field.Follows.of error?_word, Field.Follows.of hmode, List.Forall₂.nil, and_self]
  finish _ := rfl

theorem LoggingConfig.keeps_logging : LoggingConfig.schema.Keeps Rules.logging where
  title := rfl
  closed := rfl
  fields := .cons (.of error?_boolean _ _ _) <| .cons (.of error?_text _ _ _) <|
    .cons (.of error?_text _ _ _) .nil
  finish _ := rfl

theorem PortConfig.keeps_port : PortConfig.schema.Keeps Rules.port where
  title := rfl
  closed := rfl
  fields := .cons (.of error?_word _ _ _) (.cons (.of error?_text _ _ _) .nil)
  finish _ := rfl

theorem Config.keeps_config : Config.schema.Keeps Rules.config where
  title := rfl
  closed := rfl
  fields := .cons (.of LoggingConfig.keeps_logging.error?_ofValue _ _ _) <|
    .cons (.of PortConfig.keeps_port.error?_ofValue _ _ _) <|
    .cons (.of Profile.keeps_profile.error?_ofValue _ _ _) .nil
  finish := Config.error?_ofDraft

end Keeps

/-! ### The parts of a configuration -/

/-- The parts of a configuration that are structures. -/
inductive Part where
  | config
  | logging
  | port
  | profile
  | mode
  deriving DecidableEq, Repr

namespace Part

/-- What a part is read into. -/
abbrev Draft : Part → Type
  | config => Config.Draft
  | logging => LoggingConfig
  | port => PortConfig
  | profile => Profile
  | mode => ModeConfig.Draft

/-- What a part is. -/
abbrev Result : Part → Type
  | config => Config
  | logging => LoggingConfig
  | port => PortConfig
  | profile => Profile
  | mode => ModeConfig

/-- How a part is read. -/
def schema : (part : Part) → Schema part.Draft part.Result
  | config => Config.schema
  | logging => LoggingConfig.schema
  | port => PortConfig.schema
  | profile => Profile.schema
  | mode => ModeConfig.schema

/-- What is asked of a part. -/
def rules : Part → Rules
  | config => Rules.config
  | logging => Rules.logging
  | port => Rules.port
  | profile => Rules.profile
  | mode => Rules.mode

variable (part : Part)

/-- Reads the entries of a table one after the other, without asking whether any is missing. -/
def visitAll (entries : Entries) : Except DecodeError part.Draft :=
  entries.foldlM part.schema.visit part.schema.blank

/-- Every part is read by its rules. -/
theorem keeps : part.schema.Keeps part.rules := by
  cases part with
  | config => exact Config.keeps_config
  | logging => exact LoggingConfig.keeps_logging
  | port => exact PortConfig.keeps_port
  | profile => exact Profile.keeps_profile
  | mode => exact ModeConfig.keeps_mode

/-- Once a problem was found, the entries after it are not looked at. -/
theorem ofEntries_of_visitAll {before : Entries} {e : DecodeError}
    (h : part.visitAll before = .error e) (after : Entries) :
    part.schema.ofEntries (before ++ after) = .error e := by
  have hvisits : before.foldlM part.schema.visit part.schema.blank = .error e := h
  rw [Schema.ofEntries, List.foldlM_append, hvisits]
  rfl

/-- The rule of a mode is not about a missing field. -/
theorem violation?_ne_missingField (entries : Entries) (name : String) :
    part.rules.violation? entries ≠ some (.missingField name) := by
  cases part with
  | mode =>
    intro h
    have h : (match entries.latest? "enabled", entries.latest? "value" with
      | some (.boolean true), none => some DecodeError.valueRequired
      | _, _ => none) = some (.missingField name) := h
    split at h <;> cases h
  | config | logging | port | profile => exact nofun

end Part

/-! ### What is reported -/

/-- **The first problem is the one that is reported.** Take any table, as any of the five parts of a
configuration. Reading its entries fails with the problem of the first entry that has one, and
reading the whole table does so too, or else fails if the table is incomplete. Reading any value
fails with what the rules of the part find wrong with it, so the problem of an entry whose value is
a part itself is the first problem inside it. Once the entries up to some place cannot be read, it
does not matter what comes after them. That a field is missing is reported only if a value has this
problem, or if all entries could be read, and then for the first field that has to be there and is
not. A level that is not accepted is reported only if the document could be read, and a missing port
only if the level is accepted as well. -/
theorem first_problem_reported (part : Part) (entries : Entries) :
    error? (part.visitAll entries) = entries.findSome? part.rules.problem? ∧
    error? (part.schema.ofEntries entries) =
      (entries.findSome? part.rules.problem?).or (part.rules.incomplete? entries) ∧
    (∀ v, error? (part.schema.ofValue v) = part.rules.check v) ∧
    (∀ before entry after e, part.visitAll (before ++ [entry]) = .error e →
      part.schema.ofEntries (before ++ entry :: after) = .error e) ∧
    (∀ name, part.schema.ofEntries entries = .error (.missingField name) →
      (∃ entry ∈ entries, part.rules.problem? entry = some (.missingField name)) ∨
        (∃ draft, part.visitAll entries = .ok draft) ∧
          part.rules.required.find? (fun field => (entries.lookup field).isNone) = some name) ∧
    (∀ text level, Config.parse text = .error (.invalid (.level level)) ↔
      ∃ entries config, Toml.Document.read? text = some entries ∧
        Config.schema.ofEntries entries = .ok config ∧
        config.logging.filter = .error (.level level)) ∧
    ∀ text, Config.parse text = .error (.invalid .noPort) ↔
      ∃ entries config filter, Toml.Document.read? text = some entries ∧
        Config.schema.ofEntries entries = .ok config ∧ config.logging.filter = .ok filter ∧
        config.port.target = .error .noPort := by
  have hvisits : error? (part.visitAll entries) = entries.findSome? part.rules.problem? :=
    part.keeps.error?_visits entries _
  have hread : error? (part.schema.ofEntries entries) =
      (entries.findSome? part.rules.problem?).or (part.rules.incomplete? entries) :=
    part.keeps.error?_ofEntries entries
  refine ⟨hvisits, hread, part.keeps.error?_ofValue, ?_, ?_, ?_, ?_⟩
  · intro before entry after e h
    rw [List.append_cons]
    exact part.ofEntries_of_visitAll h after
  · intro name h
    rw [h] at hread
    rcases Option.or_eq_some_iff.mp hread.symm with hproblem | ⟨hnone, hincomplete⟩
    · exact .inl (List.exists_of_findSome?_eq_some hproblem)
    · rw [hnone] at hvisits
      exact .inr ⟨error?_eq_none_iff.mp hvisits,
        part.rules.find?_of_incomplete? (part.violation?_ne_missingField entries name) hincomplete⟩
  · intro text level
    have hlevel (config : Config) : config.validate = .error (.level level) ↔
        config.logging.filter = .error (.level level) := by
      rw [Config.validate_eq_error_iff, Config.target_eq_error_iff]
      simp only [reduceCtorEq, false_and, and_false, or_false]
    simp only [Config.parse_eq_invalid_iff, hlevel]
  · intro text
    have hport (config : Config) : config.validate = .error .noPort ↔
        (∃ filter, config.logging.filter = .ok filter) ∧ config.port.target = .error .noPort := by
      have hfilter : config.logging.filter ≠ .error .noPort := fun h => by
        cases Config.filter_eq_error h
      rw [Config.validate_eq_error_iff, or_iff_right hfilter]
    simp only [Config.parse_eq_invalid_iff, hport]
    constructor
    · rintro ⟨entries, config, hread, hdecode, ⟨filter, hfilter⟩, htarget⟩
      exact ⟨entries, config, filter, hread, hdecode, hfilter, htarget⟩
    · rintro ⟨entries, config, filter, hread, hdecode, hfilter, htarget⟩
      exact ⟨entries, config, hread, hdecode, ⟨filter, hfilter⟩, htarget⟩

/-- A document with problems at three depths. Whatever is wrong with the mode comes first, and
within the mode the first entry that has a problem, before a field that is missing or the value of a
mode that is enabled. Only if nothing is wrong with the mode is the number after it reported, and
never the port after that. -/
theorem first_problem_reported_modes :
    let document (mode : Entries) : Entries :=
      [("profile", .table [("isochronous", .table mode), ("tx_trigger", .integer (-1))]),
        ("port", .integer 3)]
    let reported (mode : Entries) := error? (Part.config.schema.ofEntries (document mode))
    reported [("value", .text "x"), ("level", .integer 1)] =
        some (.wrongType (.text "x") .signed) ∧
      reported [("level", .integer 1), ("value", .text "x")] =
        some (.unknownField "level" ["enabled", "value"]) ∧
      reported [("value", .integer 3)] = some (.missingField "enabled") ∧
      reported [("enabled", .boolean true)] = some .valueRequired ∧
      reported [("enabled", .boolean false)] = some (.outOfRange (-1) .word) ∧
      ∀ after, Part.mode.schema.ofEntries
        ([("enabled", .boolean true)] ++ ("value", .text "x") :: after) =
          .error (.wrongType (.text "x") .signed) := by
  intro document reported
  have hreported (mode : Entries) : reported mode =
      ((document mode).findSome? Rules.config.problem?).or
        (Rules.config.incomplete? (document mode)) :=
    (first_problem_reported .config (document mode)).2.1
  obtain ⟨-, -, -, hafter, -⟩ := first_problem_reported .mode []
  exact ⟨hreported _, hreported _, hreported _, hreported _, hreported _,
    fun after => hafter _ _ after _ rfl⟩

end SerialCard
