import SerialCard.Config.Load
import SerialCard.Proofs.Config.Fields

/-!
# Configurations that were loaded

Loading is reading the text of a file and parsing it. What is parsed is a document that could be
read as a configuration and was then validated, the level of the log before the port
(`parse_eq_ok_iff`, `parse_eq_invalid_iff`). So a configuration that was loaded can be used: its
level is accepted, and it names a port (`exists_usable_of_parse`).
-/

namespace SerialCard.Config

/-! ### Validity -/

/-- No level is named but the one of the configuration. -/
theorem filter_eq_error {logging : LoggingConfig} {cause : InvalidConfig}
    (h : logging.filter = .error cause) : cause = .level logging.level := by
  rw [LoggingConfig.filter] at h
  split at h
  · cases h
  · exact (Except.error.inj h).symm

/-- A port is missing if it has neither a path nor a number. -/
theorem target_eq_error_iff {port : PortConfig} {cause : InvalidConfig} :
    port.target = .error cause ↔ cause = .noPort ∧ port.path = none ∧ port.number = none := by
  obtain ⟨number, path⟩ := port
  cases path <;> cases number <;> simp [PortConfig.target, eq_comm]

variable {config : Config}

theorem validate_eq_ok_iff :
    config.validate = .ok () ↔
      (∃ filter, config.logging.filter = .ok filter) ∧
        ∃ target, config.port.target = .ok target := by
  rw [validate, bind_eq_ok_iff]
  constructor
  · rintro ⟨filter, hfilter, hrest⟩
    obtain ⟨target, htarget, -⟩ := bind_eq_ok_iff.mp hrest
    exact ⟨⟨filter, hfilter⟩, target, htarget⟩
  · rintro ⟨⟨filter, hfilter⟩, target, htarget⟩
    exact ⟨filter, hfilter, bind_eq_ok_iff.mpr ⟨target, htarget, rfl⟩⟩

/-- The port is looked at only if the level is accepted. -/
theorem validate_eq_error_iff {cause : InvalidConfig} :
    config.validate = .error cause ↔
      config.logging.filter = .error cause ∨
        (∃ filter, config.logging.filter = .ok filter) ∧ config.port.target = .error cause := by
  rw [validate]
  cases config.logging.filter with
  | error cause' => simp [bind, Except.bind]
  | ok filter =>
    cases config.port.target with
    | error cause' => simp [bind, Except.bind]
    | ok target => simp [bind, Except.bind, pure, Except.pure]

/-- A configuration can be used: its level is accepted, and it names a port, by the path as it is
given, whatever the number is, or else by the number. -/
structure Usable (config : Config) (filter : Filter) (target : String) : Prop where
  level : config.logging.filter = .ok filter
  port : config.port.target = .ok target
  named : config.port.path = some target ∨
    config.port.path = none ∧ ∃ number, config.port.number = some number ∧
      target = devicePath number

/-- What is valid can be used. -/
theorem validate_eq_ok_iff_usable :
    config.validate = .ok () ↔ ∃ filter target, config.Usable filter target := by
  rw [validate_eq_ok_iff]
  constructor
  · rintro ⟨⟨filter, hfilter⟩, target, htarget⟩
    refine ⟨filter, target, hfilter, htarget, ?_⟩
    rw [PortConfig.target] at htarget
    cases hpath : config.port.path with
    | some path =>
      rw [hpath] at htarget
      exact .inl (congrArg some (Except.ok.inj htarget))
    | none =>
      rw [hpath] at htarget
      cases hnumber : config.port.number with
      | some number =>
        rw [hnumber] at htarget
        exact .inr ⟨rfl, number, rfl, (Except.ok.inj htarget).symm⟩
      | none =>
        rw [hnumber] at htarget
        cases htarget
  · rintro ⟨filter, target, husable⟩
    exact ⟨⟨filter, husable.level⟩, target, husable.port⟩

/-- A configuration is not valid if its level is not accepted, or if it has neither a path nor a
number. -/
theorem exists_validate_eq_error_iff :
    (∃ cause, config.validate = .error cause) ↔
      (¬ ∃ filter, config.logging.filter = .ok filter) ∨
        config.port.path = none ∧ config.port.number = none := by
  constructor
  · rintro ⟨cause, hcause⟩
    rcases validate_eq_error_iff.mp hcause with hfilter | ⟨-, htarget⟩
    · exact .inl fun ⟨filter, hok⟩ => nomatch hfilter.symm.trans hok
    · exact .inr (target_eq_error_iff.mp htarget).2
  · intro h
    cases hfilter : config.logging.filter with
    | error cause => exact ⟨cause, validate_eq_error_iff.mpr (.inl hfilter)⟩
    | ok filter =>
      have hport := h.resolve_left fun hno => hno ⟨filter, hfilter⟩
      exact ⟨.noPort, validate_eq_error_iff.mpr
        (.inr ⟨⟨filter, hfilter⟩, target_eq_error_iff.mpr ⟨rfl, hport⟩⟩)⟩

/-! ### Parsing -/

section Parse

variable {text : String}

/-- What is parsed is a document, read and then validated. -/
theorem parse_eq_ok_iff :
    parse text = .ok config ↔
      ∃ entries, Toml.Document.read? text = some entries ∧ schema.ofEntries entries = .ok config ∧
        config.validate = .ok () := by
  rw [parse]
  cases Toml.Document.read? text with
  | none => simp only [reduceCtorEq, false_and, exists_false]
  | some entries =>
    simp only [Option.some.injEq, exists_eq_left', ofEntries]
    constructor
    · intro h
      obtain ⟨read, hread, hrest⟩ := bind_eq_ok_iff.mp h
      obtain ⟨u, hvalid, hconfig⟩ := bind_eq_ok_iff.mp hrest
      obtain rfl := Except.ok.inj hconfig
      exact ⟨mapError_eq_ok_iff.mp hread, mapError_eq_ok_iff.mp hvalid⟩
    · rintro ⟨hread, hvalid⟩
      rw [hread]
      exact bind_eq_ok_iff.mpr
        ⟨config, rfl, bind_eq_ok_iff.mpr ⟨(), mapError_eq_ok_iff.mpr hvalid, rfl⟩⟩

/-- A configuration is refused as invalid only if it could be read. -/
theorem parse_eq_invalid_iff {cause : InvalidConfig} :
    parse text = .error (.invalid cause) ↔
      ∃ entries config, Toml.Document.read? text = some entries ∧
        schema.ofEntries entries = .ok config ∧ config.validate = .error cause := by
  rw [parse]
  cases Toml.Document.read? text with
  | none => simp
  | some entries =>
    simp only [Option.some.injEq, ofEntries]
    cases hread : schema.ofEntries entries with
    | error e => simp [hread, Except.mapError, bind, Except.bind]
    | ok read =>
      cases hvalid : read.validate <;>
        simp [hread, hvalid, Except.mapError, bind, Except.bind, pure, Except.pure]

/-- What is parsed is a document, read as a configuration that can be used. -/
theorem parse_eq_ok_iff_usable :
    parse text = .ok config ↔
      ∃ entries filter target, Toml.Document.read? text = some entries ∧
        schema.ofEntries entries = .ok config ∧ config.Usable filter target := by
  rw [parse_eq_ok_iff]
  constructor
  · rintro ⟨entries, hread, hdecode, hvalid⟩
    obtain ⟨filter, target, husable⟩ := validate_eq_ok_iff_usable.mp hvalid
    exact ⟨entries, filter, target, hread, hdecode, husable⟩
  · rintro ⟨entries, filter, target, hread, hdecode, husable⟩
    exact ⟨entries, hread, hdecode, validate_eq_ok_iff_usable.mpr ⟨filter, target, husable⟩⟩

/-- What is refused as invalid is a document whose configuration cannot be used. -/
theorem exists_parse_eq_invalid_iff :
    (∃ cause, parse text = .error (.invalid cause)) ↔
      ∃ entries config, Toml.Document.read? text = some entries ∧
        schema.ofEntries entries = .ok config ∧
        ((¬ ∃ filter, config.logging.filter = .ok filter) ∨
          config.port.path = none ∧ config.port.number = none) := by
  simp only [parse_eq_invalid_iff, ← exists_validate_eq_error_iff]
  constructor
  · rintro ⟨cause, entries, config, hread, hdecode, hcause⟩
    exact ⟨entries, config, hread, hdecode, cause, hcause⟩
  · rintro ⟨entries, config, hread, hdecode, cause, hcause⟩
    exact ⟨cause, entries, config, hread, hdecode, hcause⟩

/-- A configuration that was parsed can be used. -/
theorem exists_usable_of_parse (h : parse text = .ok config) :
    ∃ filter target, config.Usable filter target := by
  obtain ⟨-, filter, target, -, -, husable⟩ := parse_eq_ok_iff_usable.mp h
  exact ⟨filter, target, husable⟩

end Parse

/-! ### Loading -/

/-- A file has the text it was written from. -/
theorem textOf_toUTF8 (text : String) : textOf (.ok text.toUTF8) = .ok text := by
  have hvalid : String.fromUTF8? text.toUTF8 = some text := dif_pos text.isValidUTF8
  simp only [textOf, bind, Except.bind, hvalid]

variable {σ : Type} {path : String} {file : Except OsError ByteArray} {s : σ}

/-- What is loaded is the text of the file, parsed. -/
theorem load_result :
    (load path file s).result =
      match textOf file with
      | .error e => .error (.io e)
      | .ok text => parse text := by
  rw [load, Work.result_bind]
  cases textOf file with
  | error e => rfl
  | ok text =>
    dsimp only
    cases parse text <;> rfl

theorem load_eq_ok_iff :
    (load path file s).result = .ok config ↔
      ∃ text, textOf file = .ok text ∧ parse text = .ok config := by
  rw [load_result]
  cases textOf file with
  | error e => simp only [reduceCtorEq, false_and, exists_false]
  | ok text => simp only [Except.ok.injEq, exists_eq_left']

end SerialCard.Config
