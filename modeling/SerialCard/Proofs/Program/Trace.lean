import SerialCard.Proofs.Config.Load
import SerialCard.Proofs.Program.Drive
import SerialCard.Proofs.Win32.Naming
import SerialCard.Proofs.Win32.Replay

/-!
# The system calls of a run

The trace of a run is the list of all system calls it makes. It has one of four forms, which are
`Unprepared`, `Unopened`, `Aborted` and `Completed`, and only a run that is completed and whose
handle could be closed exits with zero (`run_trace`). What the calls say is settled apart from their
order: the one that opens the port names the device of the path, and each of the others carries its
request (`forall₂_carries`). How the calls of the snapshot are answered is of no account: a system
that answers them differently sees the same calls (`System.answering`).
-/

namespace SerialCard

open Win32

variable {σ : Type}

namespace Program

/-! ### Getting as far as the port -/

/-- The configuration of a run can be loaded, and its log can be set up. -/
def Environment.Prepares (env : Environment) (config : Config) : Prop :=
  (∃ text, Config.textOf (env.files.read env.configPath) = .ok text ∧
    Config.parse text = .ok config) ∧
  ∃ logging, setUp env config.logging = .ok logging

/-- The configuration of a run that gets as far as the port can be used. -/
theorem Environment.Prepares.exists_usable {env : Environment} {config : Config}
    (h : env.Prepares config) : ∃ filter target, config.Usable filter target := by
  obtain ⟨⟨text, -, hparse⟩, -⟩ := h
  exact Config.exists_usable_of_parse hparse

/-- The configuration of a run that gets as far as the port names one. -/
theorem Environment.Prepares.exists_target {env : Environment} {config : Config}
    (h : env.Prepares config) : ∃ path, config.port.target = .ok path := by
  obtain ⟨_, target, husable⟩ := h.exists_usable
  exact ⟨target, husable.port⟩

/-- There is one configuration at most. -/
theorem Environment.Prepares.eq {env : Environment} {config config' : Config}
    (h : env.Prepares config) (h' : env.Prepares config') : config = config' := by
  obtain ⟨⟨text, htext, hparse⟩, -⟩ := h
  obtain ⟨⟨text', htext', hparse'⟩, -⟩ := h'
  obtain rfl : text = text' := Except.ok.inj (htext.symm.trans htext')
  exact Except.ok.inj (hparse.symm.trans hparse')

/-- On a system with the driver, work is done on the port that is named. -/
theorem work_windows {config : Config} {path : String} (hpath : config.port.target = .ok path)
    (sys : System σ) : work (.windows sys) config = drive sys path config.profile := by
  rw [work, hpath]

/-- The record a run ends with. -/
def lastRecord : Except Failure Unit → Record
  | .ok () => .done
  | .error failure => .failed failure

/-- What is logged beside the work changes neither what it does nor how it ends: it is a record at
the start, and one at the end. -/
theorem logged_apply (platform : Platform σ) (configPath : String) (config : Config) (s : σ) :
    let worked := work platform config s
    logged platform configPath config s =
      ⟨worked.result.isOk, worked.state, .logged (.started configPath) ::
        (worked.events ++ [.logged (lastRecord worked.result)])⟩ := by
  simp only [logged, Work.bind_apply, Work.log_apply]
  cases (work platform config s).result with
  | ok u => rfl
  | error failure => rfl

/-- A run that does not get as far as the port only reports why, whatever the platform. -/
theorem run_eq_of_not_prepares {env : Environment} (h : ¬ ∃ config, env.Prepares config)
    (platform : Platform σ) (s : σ) :
    let loaded := (Config.load env.configPath (env.files.read env.configPath) s).result
    (∃ e, loaded = .error e ∧
      run env platform s = .reported "config" (env.configPath ++ ": " ++ e.message) s) ∨
    ∃ config message, loaded = .ok config ∧ setUp env config.logging = .error message ∧
      run env platform s = .reported "logging" message s := by
  intro loaded
  cases hload : loaded with
  | error e =>
    refine .inl ⟨e, rfl, ?_⟩
    rw [run, show Run.result _ = .error e from hload]
  | ok config =>
    cases hlog : setUp env config.logging with
    | error message =>
      refine .inr ⟨config, message, rfl, hlog, ?_⟩
      rw [run, show Run.result _ = .ok config from hload]
      dsimp only
      rw [hlog]
    | ok logging => exact absurd ⟨config, Config.load_eq_ok_iff.mp hload, logging, hlog⟩ h

/-- Nothing is asked of the system if the run does not get as far as the port. -/
theorem run_of_not_prepares {env : Environment} (h : ¬ ∃ config, env.Prepares config)
    (sys : System σ) (s : σ) :
    (run env (.windows sys) s).state = s ∧ (run env (.windows sys) s).exitCode = 1 := by
  rcases run_eq_of_not_prepares h (.windows sys) s with ⟨e, -, hrun⟩ | ⟨_, message, -, -, hrun⟩
  · rw [hrun]
    exact ⟨rfl, rfl⟩
  · rw [hrun]
    exact ⟨rfl, rfl⟩

/-- Once the level is accepted, setting up the log is opening its file, if one is asked for. -/
theorem setUp_of_filter {settings : LoggingConfig} {filter : Filter}
    (h : settings.filter = .ok filter) (env : Environment) :
    setUp env settings =
      match env.logPath settings with
      | none => .ok ⟨filter, none⟩
      | some path =>
        match env.files.append path with
        | .error e => .error ("opening " ++ path ++ ": " ++ e.text)
        | .ok () => .ok ⟨filter, some path⟩ := by
  rw [setUp, h]
  cases env.logPath settings with
  | none => rfl
  | some path =>
    dsimp only
    cases env.files.append path <;> rfl

/-- A log that is set up has the filter of the configuration, and the file that is asked for. -/
theorem setUp_eq_ok {env : Environment} {settings : LoggingConfig} {logging : Logging}
    (h : setUp env settings = .ok logging) :
    settings.filter = .ok logging.filter ∧ env.logPath settings = logging.file := by
  cases hfilter : settings.filter with
  | error cause =>
    rw [setUp, hfilter] at h
    cases h
  | ok filter =>
    rw [setUp_of_filter hfilter] at h
    split at h
    · next hpath =>
      obtain rfl := Except.ok.inj h
      exact ⟨rfl, hpath⟩
    · next path hpath =>
      split at h
      · cases h
      · obtain rfl := Except.ok.inj h
        exact ⟨rfl, hpath⟩

/-- Once the level is accepted, the log can only fail to be set up since its file cannot be
opened. -/
theorem setUp_eq_error {env : Environment} {settings : LoggingConfig} {filter : Filter}
    (hfilter : settings.filter = .ok filter) {message : String}
    (h : setUp env settings = .error message) :
    ∃ path e, env.logPath settings = some path ∧ env.files.append path = .error e ∧
      message = "opening " ++ path ++ ": " ++ e.text := by
  rw [setUp_of_filter hfilter] at h
  split at h
  · cases h
  · next path hpath =>
    split at h
    · next e hopened => exact ⟨path, e, hpath, hopened, (Except.error.inj h).symm⟩
    · cases h

/-- What a run leaves behind once its log is set up. The filter decides which records are written,
to the standard output and to the log file alike. -/
theorem run_eq_of_prepares {env : Environment} {config : Config} (h : env.Prepares config)
    (platform : Platform σ) (s : σ) :
    let done := logged platform env.configPath config s
    ∃ filter, config.logging.filter = .ok filter ∧
      let written := done.records.filter fun r => filter.passes r.level
      run env platform s =
        { exitCode := if done.result then 0 else 1
          records := done.records
          stdout := written
          logFile := (env.logPath config.logging).map fun file => (file, written)
          stderr := none
          state := done.state } := by
  intro done
  obtain ⟨hconfig, logging, hlog⟩ := h
  obtain ⟨hfilter, hfile⟩ := setUp_eq_ok hlog
  have hload : (Config.load env.configPath (env.files.read env.configPath) s).result =
      .ok config := Config.load_eq_ok_iff.mpr hconfig
  refine ⟨logging.filter, hfilter, ?_⟩
  rw [run, hload]
  dsimp only
  rw [hlog, hfile]

/-- A run that gets as far as the port works on it. -/
theorem run_of_prepares {env : Environment} {config : Config} {path : String}
    (h : env.Prepares config) (hpath : config.port.target = .ok path) (sys : System σ) (s : σ) :
    let driven := drive sys path config.profile s
    (run env (.windows sys) s).state = driven.state ∧
      (run env (.windows sys) s).exitCode = if driven.result.isOk then 0 else 1 := by
  intro driven
  obtain ⟨_, -, hrun⟩ := run_eq_of_prepares h (.windows sys) s
  rw [hrun, logged_apply, work_windows hpath]
  exact ⟨rfl, rfl⟩

/-! ### The forms of a trace -/

section Forms

variable (env : Environment) (sys : System σ) (s : σ) (trace : List SystemCall)

/-- Nothing is asked of the system, since there is no configuration or the log cannot be set up. -/
def Unprepared : Prop :=
  (¬ ∃ config, env.Prepares config) ∧ trace = []

/-- The path of the port cannot be opened, and that is all. -/
def Unopened : Prop :=
  ∃ config path, env.Prepares config ∧ config.port.target = .ok path ∧
    (sys.createFile (ComPort.openCall path) s).1 = Handle.invalid ∧
    trace = [.createFile (ComPort.openCall path) Handle.invalid]

/-- The port is opened, the calls of the plan are made up to the first that is not to be tolerated,
and the port is closed. -/
def Aborted : Prop :=
  ∃ config port s', env.Prepares config ∧ config.port.target = .ok port.path ∧
    sys.Opens s port s' ∧
    ∃ done failed rest closed,
      sys.attempts (port.planCalls config.profile) s' = done ++ failed :: rest ∧
      (∀ a ∈ done, a.isTolerated config.profile.skipUnsupported = true) ∧
      failed.isTolerated config.profile.skipUnsupported = false ∧
      trace = .createFile (ComPort.openCall port.path) port.handle ::
        (done ++ [failed]).map Attempt.entry ++ [.closeHandle port.handle closed]

/-- The port is opened, all calls of the plan are made and tolerated, the calls of the snapshot are
made, and the port is closed, which may work or not. -/
def Completed (closed : Bool) : Prop :=
  ∃ config port s', env.Prepares config ∧ config.port.target = .ok port.path ∧
    sys.Opens s port s' ∧
    (∀ a ∈ sys.attempts (port.planCalls config.profile) s',
      a.isTolerated config.profile.skipUnsupported = true) ∧
    trace = .createFile (ComPort.openCall port.path) port.handle ::
      (sys.attempts (port.planCalls config.profile ++ port.snapshotCalls) s').map Attempt.entry
        ++ [.closeHandle port.handle closed]

end Forms

section Session

variable {env : Environment} {config : Config} {path : String}

/-- A path that cannot be opened leaves a trace of the second form. -/
theorem unopened_session (h : env.Prepares config) (hpath : config.port.target = .ok path)
    {sys : System σ} {s : σ}
    (hinvalid : (sys.createFile (ComPort.openCall path) s).1 = Handle.invalid) :
    Unopened env sys s (sys.session path config.profile s).1 := by
  rw [System.session_of_invalid hinvalid]
  exact ⟨config, path, h, hpath, hinvalid, rfl⟩

section Opened

variable {port : ComPort} {sys : System σ} {s s' : σ} (h : env.Prepares config)
  (hpath : config.port.target = .ok port.path) (hopens : sys.Opens s port s')

include h hpath hopens

/-- A profile that is not applied leaves a trace of the third form. -/
theorem aborted_session (happlied : port.isApplied sys config.profile s' = false) :
    Aborted env sys s (sys.session port.path config.profile s).1 := by
  obtain ⟨done, failed, rest, hattempts, hdone, hfailed, hmade⟩ :=
    port.exists_failed sys config.profile happlied
  rw [System.session_of_opens hopens, port.work_of_not_isApplied sys config.profile happlied, hmade]
  dsimp only
  exact ⟨config, port, s', h, hpath, hopens, done, failed, rest, _, hattempts, hdone, hfailed, rfl⟩

/-- A profile that is applied leaves a trace of the last form. -/
theorem completed_session (happlied : port.isApplied sys config.profile s' = true) :
    Completed env sys s (sys.session port.path config.profile s).1
      (port.closes sys (port.planCalls config.profile ++ port.snapshotCalls) s') := by
  rw [System.session_of_opens hopens, port.work_of_isApplied sys config.profile happlied]
  dsimp only
  exact ⟨config, port, s', h, hpath, hopens, List.all_eq_true.mp happlied, rfl⟩

end Opened

/-- A session has one of the last three forms. -/
theorem form_of_session (h : env.Prepares config) (hpath : config.port.target = .ok path)
    (sys : System σ) (s : σ) :
    let trace := (sys.session path config.profile s).1
    Unopened env sys s trace ∨ Aborted env sys s trace ∨
      ∃ closed, Completed env sys s trace closed := by
  rcases sys.exists_opens path s with hinvalid | ⟨port, s', rfl, hopens⟩
  · exact .inl (unopened_session h hpath hinvalid)
  · right
    cases happlied : port.isApplied sys config.profile s' with
    | false => exact .inl (aborted_session h hpath hopens happlied)
    | true => exact .inr ⟨_, completed_session h hpath hopens happlied⟩

/-- A session succeeds if it is completed and the port could be closed. -/
theorem session_succeeds_iff (h : env.Prepares config) (hpath : config.port.target = .ok path)
    (sys : System σ) (s : σ) :
    (sys.session path config.profile s).2 = true ↔
      Completed env sys s (sys.session path config.profile s).1 true := by
  constructor
  · intro hsucceeds
    rcases sys.exists_opens path s with hinvalid | ⟨port, s', rfl, hopens⟩
    · rw [System.session_of_invalid hinvalid] at hsucceeds
      cases hsucceeds
    · rw [System.session_of_opens hopens] at hsucceeds
      cases happlied : port.isApplied sys config.profile s' with
      | false =>
        rw [port.work_of_not_isApplied sys config.profile happlied] at hsucceeds
        cases hsucceeds
      | true =>
        rw [port.work_of_isApplied sys config.profile happlied] at hsucceeds
        have hcompleted := completed_session h hpath hopens happlied
        rwa [show port.closes sys _ s' = true from hsucceeds] at hcompleted
  · rintro ⟨config', port, s', h', hpath', hopens, htolerated, htrace⟩
    obtain rfl := h.eq h'
    obtain rfl : path = port.path := Except.ok.inj (hpath.symm.trans hpath')
    have happlied : port.isApplied sys config.profile s' = true := List.all_eq_true.mpr htolerated
    rw [System.session_of_opens hopens, port.work_of_isApplied sys config.profile happlied]
      at htrace ⊢
    dsimp only at htrace ⊢
    -- the two traces agree up to the last call
    have hlast := List.append_cancel_left (List.cons.inj htrace).2
    exact (SystemCall.closeHandle.inj (List.singleton_inj.mp hlast)).2

end Session

end Program

/-! ### What the calls say -/

namespace Win32

/-- The calls of a plan and of the snapshot carry their requests, in order. -/
theorem ComPort.forall₂_carries (port : ComPort) (profile : Profile) :
    List.Forall₂ (fun call q => call.Carries port.handle q)
      (port.planCalls profile ++ port.snapshotCalls)
      (profile.plan.map PlanStep.request ++ snapshotRequests) := by
  have hcalls : port.planCalls profile ++ port.snapshotCalls =
      (profile.plan.map PlanStep.request ++ snapshotRequests).map port.controlCall := by
    rw [List.map_append, List.map_map]
    rfl
  rw [hcalls, List.forall₂_map_left_iff, List.forall₂_same]
  intro q hq
  refine port.carries_controlCall ?_
  rcases List.mem_append.mp hq with hq | hq
  · exact Call.size_of_mem_requests (c := .apply profile) hq
  · exact Call.size_of_mem_requests (c := .snapshot) hq

/-! ### Other answers to the snapshot -/

/-- A system that answers the calls with an output buffer in another way, and is otherwise the same:
what is written and what becomes of its state does not change. -/
def System.answering (sys : System σ) (reply : ControlCall → σ → ControlResult) : System σ :=
  { sys with
    deviceIoControl := fun call s =>
      let r := sys.deviceIoControl call s
      (if call.output then reply call s else r.1, r.2) }

/-- A call that was made, without what came back in its output buffer. -/
def SystemCall.withoutOutput : SystemCall → SystemCall
  | deviceIoControl call result =>
    if call.output then deviceIoControl call ⟨false, [], 0⟩ else deviceIoControl call result
  | createFile call handle => createFile call handle
  | closeHandle handle succeeded => closeHandle handle succeeded

section Answering

variable (sys : System σ) (reply : ControlCall → σ → ControlResult)

theorem afterCalls_answering (calls : List ControlCall) (s : σ) :
    (sys.answering reply).afterCalls calls s = sys.afterCalls calls s := by
  induction calls generalizing s with
  | nil => rfl
  | cons call rest ih => exact ih _

theorem attempts_answering {calls : List ControlCall} (h : ∀ call ∈ calls, call.output = false)
    (s : σ) : (sys.answering reply).attempts calls s = sys.attempts calls s := by
  induction calls generalizing s with
  | nil => rfl
  | cons call rest ih =>
    have hfirst : ((sys.answering reply).deviceIoControl call s) = sys.deviceIoControl call s := by
      simp only [System.answering, h call List.mem_cons_self, Bool.false_eq_true, if_false]
    rw [System.attempts, hfirst, ih fun call' hcall' => h call' (List.mem_cons_of_mem _ hcall')]
    rfl

theorem withoutOutput_attempts_answering (calls : List ControlCall) (s : σ) :
    ((sys.answering reply).attempts calls s).map (SystemCall.withoutOutput ∘ Attempt.entry) =
      (sys.attempts calls s).map (SystemCall.withoutOutput ∘ Attempt.entry) := by
  induction calls generalizing s with
  | nil => rfl
  | cons call rest ih =>
    have hfirst : SystemCall.withoutOutput
          (.deviceIoControl call ((sys.answering reply).deviceIoControl call s).1) =
        SystemCall.withoutOutput (.deviceIoControl call (sys.deviceIoControl call s).1) := by
      cases houtput : call.output with
      | true => simp only [SystemCall.withoutOutput, houtput, if_true]
      | false => simp only [System.answering, houtput, Bool.false_eq_true, if_false]
    exact List.cons_eq_cons.mpr ⟨hfirst, ih _⟩

/-- The calls of a plan have no output buffer. -/
theorem output_planCalls (port : ComPort) (profile : Profile) :
    ∀ call ∈ port.planCalls profile, call.output = false := by
  intro call hcall
  obtain ⟨step, hstep, rfl⟩ := List.mem_map.mp hcall
  simp only [ComPort.controlCall, profile.plan_outputSize step hstep, bne_self_eq_false]

/-- Work on a port is the same whatever is answered to a snapshot, but for these answers. -/
theorem work_answering (port : ComPort) (profile : Profile) (s : σ) :
    (port.work (sys.answering reply) profile s).2 = (port.work sys profile s).2 ∧
      (port.work (sys.answering reply) profile s).1.map SystemCall.withoutOutput =
        (port.work sys profile s).1.map SystemCall.withoutOutput := by
  -- the plan is seen through its calls only, and these have no output buffer
  have hplan := attempts_answering sys reply (output_planCalls port profile) s
  have happlied : port.isApplied (sys.answering reply) profile s =
      port.isApplied sys profile s := by
    rw [ComPort.isApplied, hplan]
    rfl
  have hcalls : port.calls (sys.answering reply) profile s = port.calls sys profile s := by
    rw [ComPort.calls, happlied, ComPort.appliedCalls, hplan]
    rfl
  have hcloses (calls : List ControlCall) :
      port.closes (sys.answering reply) calls s = port.closes sys calls s := by
    rw [ComPort.closes, afterCalls_answering]
    rfl
  have hattempts := withoutOutput_attempts_answering sys reply (port.calls sys profile s) s
  simp only [ComPort.work, happlied, hcalls, hcloses, List.map_append, List.map_map, hattempts,
    and_self]

/-- A session is the same whatever is answered to a snapshot, but for these answers. -/
theorem session_answering (path : String) (profile : Profile) (s : σ) :
    ((sys.answering reply).session path profile s).2 = (sys.session path profile s).2 ∧
      ((sys.answering reply).session path profile s).1.map SystemCall.withoutOutput =
        (sys.session path profile s).1.map SystemCall.withoutOutput := by
  rcases sys.exists_opens path s with hinvalid | ⟨port, s', rfl, hopens⟩
  · have hinvalid' : ((sys.answering reply).createFile (ComPort.openCall path) s).1 =
        Handle.invalid := hinvalid
    rw [System.session_of_invalid hinvalid, System.session_of_invalid hinvalid']
    exact ⟨rfl, rfl⟩
  · have hopens' : (sys.answering reply).Opens s port s' := hopens
    obtain ⟨hsucceeds, hcalls⟩ := work_answering sys reply port profile s'
    rw [System.session_of_opens hopens, System.session_of_opens hopens']
    dsimp only
    rw [List.map_cons, List.map_cons, hcalls]
    exact ⟨hsucceeds, rfl⟩

end Answering

end Win32

/-! ### Whole runs -/

/-- A run that gets as far as the port makes the calls of its session. -/
theorem run_recorded {env : Program.Environment} {config : Config} {path : String}
    (h : env.Prepares config) (hpath : config.port.target = .ok path) (sys : System σ) (s : σ) :
    let outcome := Program.run env (.windows sys.recorded) (s, [])
    let session := sys.session path config.profile s
    outcome.state.2 = session.1 ∧ outcome.exitCode = if session.2 then 0 else 1 := by
  intro outcome session
  obtain ⟨hstate, hexit⟩ := Program.run_of_prepares h hpath sys.recorded (s, [])
  obtain ⟨htrace, hok⟩ := Program.drive_recorded sys path config.profile s
  refine ⟨(congrArg Prod.snd hstate).trans htrace, ?_⟩
  rw [← hok]
  exact hexit

/-- **The trace of a run.** Whatever the files hold, whatever the arguments are and whatever the
system answers, the calls of a run have one of four forms, the run exits with zero or one, and it
exits with zero exactly if it is completed and the port could be closed. The call that opens a path
names its device, and the calls of a plan and of the snapshot carry their requests. A system that
answers the calls of the snapshot in another way leads to the same calls and to the same exit. -/
theorem run_trace (env : Program.Environment) (sys : System σ) (s : σ) :
    let outcome := Program.run env (.windows sys.recorded) (s, [])
    let trace := outcome.state.2
    (Program.Unprepared env trace ∨ Program.Unopened env sys s trace ∨
      Program.Aborted env sys s trace ∨ ∃ closed, Program.Completed env sys s trace closed) ∧
    (outcome.exitCode = 0 ∨ outcome.exitCode = 1) ∧
    (outcome.exitCode = 0 ↔ Program.Completed env sys s trace true) ∧
    (∀ path, Text.Utf16.name? (ComPort.openCall path).name = some (deviceName path)) ∧
    (∀ (port : ComPort) (profile : Profile),
      List.Forall₂ (fun call q => call.Carries port.handle q)
        (port.planCalls profile ++ port.snapshotCalls)
        (profile.plan.map PlanStep.request ++ snapshotRequests)) ∧
    ∀ reply,
      let other := Program.run env (.windows (sys.answering reply).recorded) (s, [])
      other.exitCode = outcome.exitCode ∧
        other.state.2.map SystemCall.withoutOutput = trace.map SystemCall.withoutOutput := by
  intro outcome trace
  by_cases h : ∃ config, env.Prepares config
  · obtain ⟨config, hprepares⟩ := h
    obtain ⟨path, hpath⟩ := hprepares.exists_target
    obtain ⟨htrace, hexit⟩ := run_recorded hprepares hpath sys s
    have htrace : trace = (sys.session path config.profile s).1 := htrace
    have hsucceeds := Program.session_succeeds_iff hprepares hpath sys s
    refine ⟨.inr ?_, ?_, ?_, name?_openCall, ComPort.forall₂_carries, fun reply => ?_⟩
    · rw [htrace]
      exact Program.form_of_session hprepares hpath sys s
    · rw [hexit]
      cases (sys.session path config.profile s).2 with
      | true => exact .inl rfl
      | false => exact .inr rfl
    · rw [htrace, ← hsucceeds, hexit]
      cases (sys.session path config.profile s).2 <;> decide
    · obtain ⟨htrace', hexit'⟩ := run_recorded hprepares hpath (sys.answering reply) s
      obtain ⟨hok, hrequests⟩ := session_answering sys reply path config.profile s
      intro other
      rw [htrace, htrace', hexit, hexit', hok]
      exact ⟨rfl, hrequests⟩
  · have hnone (sys : System σ) :=
      Program.run_of_not_prepares h sys.recorded ((s, []) : σ × List SystemCall)
    obtain ⟨hstate, hexit⟩ := hnone sys
    have htrace : trace = [] := congrArg Prod.snd hstate
    refine ⟨.inl ⟨h, htrace⟩, .inr hexit, ?_, name?_openCall, ComPort.forall₂_carries,
      fun reply => ?_⟩
    · rw [hexit]
      constructor
      · intro hzero
        exact absurd hzero (by decide)
      · rintro ⟨config, port, s', hprepares, -⟩
        exact absurd ⟨config, hprepares⟩ h
    · obtain ⟨hstate', hexit'⟩ := hnone (sys.answering reply)
      intro other
      rw [htrace, hexit, hexit', hstate']
      exact ⟨rfl, rfl⟩

end SerialCard
