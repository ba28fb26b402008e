import SerialCard.Proofs.Program.Records
import SerialCard.Win32.Machine

/-!
# The settings of the log

The settings of the log say which records are written and where they go. They have no say in what a
run does: runs whose configurations differ in nothing else ask the same of the system, log the same
records and exit in the same way (`logging_noninterference`). What is written at a level is what is
written at the finest level, less what does not pass, and a log file gets what the standard output
gets. What is logged before there is a log is written nowhere.
-/

namespace SerialCard

open Win32

variable {σ : Type}

/-- Whether a record is of the loading of a configuration. -/
def Record.isOfLoading : Record → Bool
  | reading _ | loaded _ => true
  | _ => false

/-- Every record passes the filter of the finest level. -/
theorem Filter.passes_trace (level : Level) : (upTo .trace).passes level = true := by
  cases level <;> rfl

namespace Program

/-! ### Records of a run and of loading -/

/-- What is logged depends on the port and the profile of a configuration only. -/
theorem logged_congr {config₁ config₂ : Config} (hport : config₁.port = config₂.port)
    (hprofile : config₁.profile = config₂.profile) (platform : Platform σ) (configPath : String) :
    logged platform configPath config₁ = logged platform configPath config₂ := by
  have hwork : work platform config₁ = work platform config₂ := by
    cases platform with
    | other => rfl
    | windows sys => rw [work, work, hport, hprofile]
  rw [logged, logged, hwork]

/-- Loading a configuration logs records of loading only. -/
theorem isOfLoading_of_mem_load {path : String} {file : Except OsError ByteArray} {s : σ}
    {r : Record} (h : r ∈ (Config.load path file s).records) : r.isOfLoading = true := by
  have hload : Config.load path file s = (Work.log (.reading path) >>= fun _ => _) s := rfl
  rw [hload, Work.records_bind] at h
  rcases List.mem_append.mp h with h | h
  · exact List.mem_singleton.mp h ▸ rfl
  · cases htext : Config.textOf file with
    | error e =>
      rw [htext] at h
      cases h
    | ok text =>
      rw [htext] at h
      dsimp only at h
      cases hparse : Config.parse text with
      | error e =>
        rw [hparse] at h
        cases h
      | ok config =>
        rw [hparse] at h
        exact List.mem_singleton.mp h ▸ rfl

/-- Once the log is set up, a run logs no record of loading. -/
theorem not_isOfLoading_of_mem_logged {config : Config} {target : String}
    (htarget : config.port.target = .ok target) {sys : System σ} {s : σ} {configPath : String}
    {r : Record}
    (h : r ∈ (logged (.windows sys.recorded) configPath config (s, [])).records) :
    r.isOfLoading = false := by
  rw [logged_records, work_windows htarget, List.cons_append, List.mem_cons, List.mem_append,
    List.mem_singleton] at h
  rcases h with rfl | hdriven | hlast
  · rfl
  · rcases mem_drive_records _ hdriven with hport | ⟨_, _, rfl⟩
    · cases r <;> first | rfl | cases hport
    · rfl
  · rw [hlast]
    cases (drive sys.recorded target config.profile (s, [])).result <;> rfl

/-! ### Two runs -/

/-- **The settings of the log do not interfere.** Take two runs that get as far as the port, with
configurations of the same path that agree on the port and the profile. On any system they make the
same calls, log the same records and exit in the same way. A run writes those of its records that
pass its filter, in order; these are also those records that pass among the ones a run writes that
writes everything. A log file, if it is asked for, gets the same records. What was logged while the
configuration was loaded is not among them. -/
theorem logging_noninterference {env₁ env₂ : Environment} {config₁ config₂ : Config}
    (h₁ : env₁.Prepares config₁) (h₂ : env₂.Prepares config₂)
    (hpath : env₁.configPath = env₂.configPath) (hport : config₁.port = config₂.port)
    (hprofile : config₁.profile = config₂.profile) (sys : System σ) (s : σ) :
    let one := run env₁ (.windows sys.recorded) (s, [])
    let two := run env₂ (.windows sys.recorded) (s, [])
    (one.state = two.state ∧ one.records = two.records ∧ one.exitCode = two.exitCode) ∧
    (∃ filter, config₁.logging.filter = .ok filter ∧
      (one.stdout = one.records.filter fun r => filter.passes r.level) ∧
      (config₂.logging.filter = .ok (.upTo .trace) → two.stdout = two.records ∧
        one.stdout = two.stdout.filter fun r => filter.passes r.level)) ∧
    (one.logFile = if config₁.logging.enable then
        some (env₁.files.join env₁.directory (config₁.logging.file.getD "serialfc.log"), one.stdout)
      else none) ∧
    (Config.load env₁.configPath (env₁.files.read env₁.configPath) s).records.Disjoint
      one.records := by
  intro one two
  obtain ⟨filter₁, hfilter₁, hone⟩ := run_eq_of_prepares h₁ (.windows sys.recorded) (s, [])
  obtain ⟨filter₂, hfilter₂, htwo⟩ := run_eq_of_prepares h₂ (.windows sys.recorded) (s, [])
  rw [← hpath, ← logged_congr hport hprofile] at htwo
  have hone : one = _ := hone
  have htwo : two = _ := htwo
  refine ⟨?_, ⟨filter₁, hfilter₁, ?_, fun htrace => ?_⟩, ?_, ?_⟩
  · rw [hone, htwo]
    exact ⟨rfl, rfl, rfl⟩
  · rw [hone]
  · obtain rfl : filter₂ = .upTo .trace := Except.ok.inj (hfilter₂.symm.trans htrace)
    have hall : two.stdout = two.records := by
      rw [htwo]
      exact List.filter_eq_self.mpr fun r _ => Filter.passes_trace r.level
    refine ⟨hall, ?_⟩
    rw [hall, hone, htwo]
  · rw [hone]
    dsimp only
    rw [Environment.logPath]
    split <;> rfl
  · obtain ⟨target, htarget⟩ := h₁.exists_target
    rw [hone]
    intro r hload hlogged
    cases (isOfLoading_of_mem_load hload).symm.trans (not_isOfLoading_of_mem_logged htarget hlogged)

/-- A run that writes errors only, to a file as well, beside one that writes everything. Neither can
close its port. -/
theorem logging_noninterference_failing :
    let env (text : String) : Environment :=
      ⟨"C:\\card", ["card.toml"],
        ⟨fun _ => .ok text.toUTF8, fun _ => .ok (), fun dir file => dir ++ "\\" ++ file⟩⟩
    let quiet := env "[port]\nnumber = 1\n[logging]\nlevel = \"Error\"\nenable = true\n"
    let loud := env "[port]\nnumber = 1\n[logging]\nlevel = \"trace\"\ncolour = 1\n"
    let platform := Platform.windows (Machine.system fun _ => "").recorded
    let m : Machine := { closeFailure := some 6 }
    let one := run quiet platform (m, [])
    let two := run loud platform (m, [])
    one.state.2 = two.state.2 ∧ one.records = two.records ∧
      one.stdout = two.stdout.filter (fun r => (Filter.upTo .error).passes r.level) ∧
      one.logFile = some ("C:\\card\\serialfc.log", one.stdout) := by
  intro env quiet loud platform m one two
  have hquiet : quiet.Prepares ⟨⟨true, none, "Error"⟩, ⟨some 1, none⟩, {}⟩ :=
    ⟨⟨_, Config.textOf_toUTF8 _, by decide +kernel⟩, _, rfl⟩
  have hloud : loud.Prepares ⟨⟨false, none, "trace"⟩, ⟨some 1, none⟩, {}⟩ :=
    ⟨⟨_, Config.textOf_toUTF8 _, by decide +kernel⟩, _, rfl⟩
  have hpath (text : String) : (env text).configPath = "card.toml" := rfl
  obtain ⟨⟨hstate, hrecords, -⟩, ⟨filter, hfilter, -, hwritten⟩, hfile, -⟩ :=
    logging_noninterference hquiet hloud ((hpath _).trans (hpath _).symm) rfl rfl
      (Machine.system fun _ => "") m
  obtain rfl : Filter.upTo .error = filter := Except.ok.inj hfilter
  exact ⟨congrArg Prod.snd hstate, hrecords, (hwritten rfl).2, hfile⟩

end Program

end SerialCard
