import SerialCard.Proofs.Program.Report

/-!
# Configurations that were loaded are valid

The level of the log and the port are looked at three times in a run: when the configuration is
loaded, when the log is set up, and when the port is opened. Only the first time can anything be
wrong with them. A text that is parsed is a configuration that can be used (`Config.Usable`), and
one that cannot be used is refused; so setting up the log can only fail to open its file, and a run
that got so far on a system with the driver asks it to open the path that is named, by the name of
its device (`loaded_config_usable`).
-/

namespace SerialCard

open Win32

namespace Program

variable {σ : Type}

/-- A run that has set up its log does not find fault with its configuration. -/
theorem not_mem_records_of_prepares {env : Environment} {config : Config} (h : env.Prepares config)
    (platform : Platform σ) (s : σ) (cause : InvalidConfig) :
    Record.failed (.config cause) ∉ (run env platform.recorded (s, [])).records := by
  intro hmem
  obtain ⟨filter, -, hrun⟩ := run_eq_of_prepares h platform.recorded (s, [])
  obtain ⟨hquiet, -, hreason⟩ := work_ends h platform s
  rw [hrun] at hmem
  dsimp only at hmem
  rw [logged_records, List.mem_append, List.mem_cons, List.mem_singleton] at hmem
  rcases hmem with (hstarted | hworked) | hlast
  · cases hstarted
  · exact hquiet _ hworked rfl
  · cases hresult : (work platform.recorded config (s, [])).result with
    | ok u =>
      rw [hresult] at hlast
      cases hlast
    | error failure =>
      rw [hresult] at hlast
      obtain rfl := Record.failed.inj hlast
      -- none of the reasons there may be is of this kind
      cases hreason _ hresult

/-- A run that has set up its log on a system with the driver starts with opening the port. -/
theorem head?_run_of_prepares {env : Environment} {config : Config} (h : env.Prepares config)
    {target : String} (htarget : config.port.target = .ok target) (sys : System σ) (s : σ) :
    (run env (.windows sys.recorded) (s, [])).state.2.head? =
      some (.createFile (ComPort.openCall target)
        (sys.createFile (ComPort.openCall target) s).1) := by
  rw [(run_of_prepares h htarget sys.recorded (s, [])).1,
    (drive_recorded sys target config.profile s).1, System.head?_session]

/-- **What was loaded is valid.** A text is parsed exactly if it is a document that is read as a
configuration that can be used, and one that cannot be used is refused. So whatever the files hold,
whatever the arguments are and whatever the system answers, a run ends in one of three ways: there
is no configuration; there is one that can be used, but the log file cannot be opened; or there is
one that can be used, nothing that is logged finds fault with it, and if there is a driver, the
first call opens the path that the configuration names, by the name of its device. -/
theorem loaded_config_usable (env : Environment) (platform : Platform σ) (s : σ) :
    let start : σ × List SystemCall := (s, [])
    let outcome := run env platform.recorded start
    let loaded := (Config.load env.configPath (env.files.read env.configPath) start).result
    (∀ text config, Config.parse text = .ok config ↔
      ∃ entries filter target, Toml.Document.read? text = some entries ∧
        Config.schema.ofEntries entries = .ok config ∧ config.Usable filter target) ∧
    (∀ text, (∃ cause, Config.parse text = .error (.invalid cause)) ↔
      ∃ entries config, Toml.Document.read? text = some entries ∧
        Config.schema.ofEntries entries = .ok config ∧
        ((¬ ∃ filter, config.logging.filter = .ok filter) ∨
          config.port.path = none ∧ config.port.number = none)) ∧
    ((∃ e, loaded = .error e ∧
        outcome = .reported "config" (env.configPath ++ ": " ++ e.message) start) ∨
      ∃ config filter target, loaded = .ok config ∧ config.Usable filter target ∧
        ((∃ file e, env.logPath config.logging = some file ∧ env.files.append file = .error e ∧
            outcome = .reported "logging" ("opening " ++ file ++ ": " ++ e.text) start) ∨
          outcome.stderr = none ∧ (∀ cause, Record.failed (.config cause) ∉ outcome.records) ∧
            match platform with
            | .other => outcome.state = start
            | .windows sys =>
              outcome.state.2.head? = some (.createFile (ComPort.openCall target)
                  (sys.createFile (ComPort.openCall target) s).1) ∧
                Text.Utf16.name? (ComPort.openCall target).name = some (deviceName target))) := by
  intro start outcome loaded
  refine ⟨fun _ _ => Config.parse_eq_ok_iff_usable, fun _ => Config.exists_parse_eq_invalid_iff, ?_⟩
  by_cases h : ∃ config, env.Prepares config
  · obtain ⟨config, h⟩ := h
    obtain ⟨filter, target, husable⟩ := h.exists_usable
    right
    refine ⟨config, filter, target, Config.load_eq_ok_iff.mpr h.1, husable, .inr ⟨?_, ?_, ?_⟩⟩
    · obtain ⟨_, -, hrun⟩ := run_eq_of_prepares h platform.recorded start
      exact congrArg Outcome.stderr hrun
    · exact not_mem_records_of_prepares h platform s
    · cases platform with
      | other =>
        obtain ⟨_, -, hrun⟩ := run_eq_of_prepares h (Platform.other : Platform σ).recorded start
        exact congrArg Outcome.state hrun
      | windows sys => exact ⟨head?_run_of_prepares h husable.port sys s, name?_openCall target⟩
  · rcases run_eq_of_not_prepares h platform.recorded start with
      ⟨e, hload, hrun⟩ | ⟨config, message, hload, hlog, hrun⟩
    · exact .inl ⟨e, hload, hrun⟩
    · obtain ⟨_, -, hparse⟩ := Config.load_eq_ok_iff.mp hload
      obtain ⟨filter, target, husable⟩ := Config.exists_usable_of_parse hparse
      obtain ⟨file, e, hfile, hopened, rfl⟩ := setUp_eq_error husable.level hlog
      exact .inr ⟨config, filter, target, hload, husable, .inl ⟨file, e, hfile, hopened, hrun⟩⟩

end Program

end SerialCard
