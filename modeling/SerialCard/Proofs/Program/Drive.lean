import SerialCard.Program
import SerialCard.Proofs.Win32.Calls

/-!
# Working on a port

`System.session` is all that working on a port asks of a system, written down as a list of calls:
the path is opened; the calls of the plan go out up to the first that is not to be tolerated; if all
are tolerated, the calls of the snapshot follow; the handle is closed. `drive_recorded` says that
the program does this and nothing else, and that it succeeds exactly if the snapshot was reached and
the handle could be closed.
-/

namespace SerialCard

open Win32

variable {σ : Type}

namespace Win32

/-! ### The calls of a session -/

/-- The requests of a snapshot, in the order of the table of settings. -/
def snapshotRequests : List Request :=
  [⟨Operation.getRs485.code, none, 1⟩, ⟨Operation.getEchoCancel.code, none, 1⟩,
    ⟨Operation.getTermination.code, none, 1⟩, ⟨Operation.getNineBit.code, none, 1⟩,
    ⟨Operation.getSampleRate.code, none, 4⟩, ⟨Operation.getTxTrigger.code, none, 4⟩,
    ⟨Operation.getRxTrigger.code, none, 4⟩, ⟨Operation.getFrameLength.code, none, 4⟩,
    ⟨Operation.getIsochronous.code, none, 4⟩, ⟨Operation.getExternalTransmit.code, none, 4⟩,
    ⟨Operation.getFixedBaudRate.code, none, 4⟩, ⟨Operation.getCardType.code, none, 4⟩]

namespace ComPort

variable (sys : System σ) (port : ComPort) (profile : Profile)

/-- The calls of the plan of a profile. -/
def planCalls : List ControlCall :=
  profile.plan.map fun step => port.controlCall step.request

/-- The calls of a snapshot. -/
def snapshotCalls : List ControlCall :=
  snapshotRequests.map port.controlCall

/-- Whether all calls of the plan of a profile are tolerated. -/
def isApplied (s : σ) : Bool :=
  (sys.attempts (port.planCalls profile) s).all (Attempt.isTolerated profile.skipUnsupported)

/-- The calls of the plan of a profile up to the first that is not to be tolerated. -/
def appliedCalls (s : σ) : List ControlCall :=
  (port.planCalls profile).take ((sys.attempts (port.planCalls profile) s).findIdx
    (fun a => !a.isTolerated profile.skipUnsupported) + 1)

/-- All calls that are made between opening and closing. -/
def calls (s : σ) : List ControlCall :=
  if port.isApplied sys profile s then port.planCalls profile ++ port.snapshotCalls
  else port.appliedCalls sys profile s

end ComPort

/-- Whether the handle of a port can be closed after some calls. -/
def ComPort.closes (sys : System σ) (port : ComPort) (calls : List ControlCall) (s : σ) : Bool :=
  (sys.closeHandle port.handle (sys.afterCalls calls s)).1

/-- The calls made on an open port to write a profile to it, and whether that succeeds. -/
def ComPort.work (sys : System σ) (port : ComPort) (profile : Profile) (s : σ) :
    List SystemCall × Bool :=
  let calls := port.calls sys profile s
  ((sys.attempts calls s).map Attempt.entry ++ [.closeHandle port.handle (port.closes sys calls s)],
    port.isApplied sys profile s && port.closes sys calls s)

/-- The calls made to write a profile to the port of a path, and whether that succeeds. -/
def System.session (sys : System σ) (path : String) (profile : Profile) (s : σ) :
    List SystemCall × Bool :=
  let opened := sys.createFile (ComPort.openCall path) s
  if opened.1 = Handle.invalid then
    ([.createFile (ComPort.openCall path) opened.1], false)
  else
    let work := ComPort.work sys ⟨opened.1, path⟩ profile opened.2
    (.createFile (ComPort.openCall path) opened.1 :: work.1, work.2)

namespace System

variable {sys : System σ} {profile : Profile} {s : σ}

theorem session_of_invalid {path : String}
    (h : (sys.createFile (ComPort.openCall path) s).1 = Handle.invalid) :
    sys.session path profile s = ([.createFile (ComPort.openCall path) Handle.invalid], false) := by
  simp only [session, if_pos h]
  rw [h]

/-- Whatever comes of it, a session starts with opening the path. -/
theorem head?_session (path : String) :
    (sys.session path profile s).1.head? =
      some (.createFile (ComPort.openCall path) (sys.createFile (ComPort.openCall path) s).1) := by
  simp only [session]
  split <;> rfl

theorem session_of_opens {port : ComPort} {s' : σ} (h : sys.Opens s port s') :
    sys.session port.path profile s =
      (.createFile (ComPort.openCall port.path) port.handle :: (port.work sys profile s').1,
        (port.work sys profile s').2) := by
  simp only [session, h.1, if_neg h.2]

end System

namespace ComPort

variable (sys : System σ) (port : ComPort) (profile : Profile)

theorem work_of_isApplied {s : σ} (h : port.isApplied sys profile s = true) :
    port.work sys profile s =
      ((sys.attempts (port.planCalls profile ++ port.snapshotCalls) s).map Attempt.entry
          ++ [.closeHandle port.handle
            (port.closes sys (port.planCalls profile ++ port.snapshotCalls) s)],
        port.closes sys (port.planCalls profile ++ port.snapshotCalls) s) := by
  simp only [work, calls, h, if_true, Bool.true_and]

theorem work_of_not_isApplied {s : σ} (h : port.isApplied sys profile s = false) :
    port.work sys profile s =
      ((sys.attempts (port.appliedCalls sys profile s) s).map Attempt.entry
          ++ [.closeHandle port.handle (port.closes sys (port.appliedCalls sys profile s) s)],
        false) := by
  simp only [work, calls, h, Bool.false_eq_true, if_false, Bool.false_and]

end ComPort

/-! ### Applying a profile and taking a snapshot -/

namespace ComPort

variable (sys : System σ) (port : ComPort) (profile : Profile)

/-- If all calls are tolerated, none is left out. -/
theorem appliedCalls_of_isApplied {s : σ} (h : port.isApplied sys profile s = true) :
    port.appliedCalls sys profile s = port.planCalls profile := by
  have hnone : ∀ a ∈ sys.attempts (port.planCalls profile) s,
      (!a.isTolerated profile.skipUnsupported) = false := fun a ha => by
    rw [List.all_eq_true.mp h a ha]
    rfl
  rw [appliedCalls, List.findIdx_eq_length_of_false hnone, sys.length_attempts]
  exact List.take_of_length_le (Nat.le_succ _)

/-- If not all calls of the plan are tolerated, those made are the ones up to the first such. -/
theorem exists_failed {s : σ} (h : port.isApplied sys profile s = false) :
    ∃ done failed rest, sys.attempts (port.planCalls profile) s = done ++ failed :: rest ∧
      (∀ a ∈ done, a.isTolerated profile.skipUnsupported = true) ∧
      failed.isTolerated profile.skipUnsupported = false ∧
      sys.attempts (port.appliedCalls sys profile s) s = done ++ [failed] := by
  obtain ⟨a, ha, hbad⟩ := List.all_eq_false.mp h
  have hsome : ((sys.attempts (port.planCalls profile) s).find?
      fun a => !a.isTolerated profile.skipUnsupported).isSome :=
    List.find?_isSome.mpr ⟨a, ha, by simpa using hbad⟩
  obtain ⟨failed, hfailed⟩ := Option.isSome_iff_exists.mp hsome
  obtain ⟨hfailed, done, rest, hattempts, hdone⟩ := List.find?_eq_some_iff_append.mp hfailed
  have hdone : ∀ a ∈ done, (!a.isTolerated profile.skipUnsupported) = false := by
    simpa using hdone
  refine ⟨done, failed, rest, hattempts, by simpa using hdone, by simpa using hfailed, ?_⟩
  -- the first that is not tolerated comes right after those that are done
  have hindex : (done ++ failed :: rest).findIdx
      (fun a => !a.isTolerated profile.skipUnsupported) = done.length := by
    rw [List.findIdx_append, List.findIdx_eq_length_of_false hdone, if_neg (Nat.lt_irrefl _),
      List.findIdx_cons, hfailed]
    exact Nat.zero_add _
  rw [appliedCalls, sys.attempts_take, hattempts, hindex, List.take_length_add_append]
  rfl

/-- The first fatal answer is the one to the first call that is not tolerated. -/
private theorem findIdx_answered (s : σ) (made : List SystemCall) :
    ((port.channel sys.recorded).answered profile.plan (s, made)).findIdx
        (Answered.isFatal profile.skipUnsupported) =
      (sys.attempts (port.planCalls profile) s).findIdx
        fun a => !a.isTolerated profile.skipUnsupported := by
  have hfatal := congrArg (List.findIdx id) (port.isFatal_recorded sys profile.skipUnsupported
    profile.plan profile.plan_outputSize s made)
  rw [List.findIdx_map, List.findIdx_map] at hfatal
  exact hfatal

/-- Applying a profile makes the calls of its plan up to the first that is not tolerated. -/
theorem state_apply_recorded (s : σ) (made : List SystemCall) :
    (((port.toPort sys.recorded).apply profile).run (s, made)).state =
      (sys.afterCalls (port.appliedCalls sys profile s) s,
        made ++ (sys.attempts (port.appliedCalls sys profile s) s).map Attempt.entry) := by
  have hsteps (answered : List Answered) (n : Nat) :
      (answered.take n).map (·.step.request) =
        ((answered.map Answered.step).map PlanStep.request).take n := by
    rw [List.map_map, List.map_take]
    rfl
  rw [Port.apply_state, toPort, upToFatal_eq_take, hsteps, Channel.map_step_answered,
    findIdx_answered, after_recorded, List.map_take, List.map_map]
  rfl

/-- Applying a profile succeeds if all calls of its plan are tolerated. -/
theorem isOk_apply_recorded (s : σ) (made : List SystemCall) :
    (((port.toPort sys.recorded).apply profile).run (s, made)).result.isOk =
      port.isApplied sys profile s := by
  have hfatal := congrArg (List.any · id) (port.isFatal_recorded sys profile.skipUnsupported
    profile.plan profile.plan_outputSize s made)
  rw [List.any_map, List.any_map] at hfatal
  rw [Port.apply_result, ApplyReport.isOk_conclude, isApplied, List.all_eq_not_any_not]
  exact congrArg not hfatal

/-- A snapshot makes its calls, whatever the answers are. -/
theorem state_snapshot_recorded (s : σ) (made : List SystemCall) :
    ((port.toPort sys.recorded).snapshot (s, made)).state =
      (sys.afterCalls port.snapshotCalls s,
        made ++ (sys.attempts port.snapshotCalls s).map Attempt.entry) := by
  have hrequests : (Setting.all.filter Setting.isReadable).filterMap
      (fun t => t.getCode.map t.request) = snapshotRequests := rfl
  rw [Port.snapshot, Port.readAll_state, hrequests]
  exact port.after_recorded sys snapshotRequests s made

end ComPort

end Win32

namespace Program

variable (sys : System σ)

theorem logValues_state (values : List (String × Except PortError SettingValue)) (s : σ) :
    (logValues values s).state = s := by
  induction values generalizing s with
  | nil => rfl
  | cons entry rest ih =>
    obtain ⟨name, e | v⟩ := entry
    · exact ih s
    · exact ih s

/-! ### How work on a port goes -/

section

variable {sys} {path : String} (profile : Profile) {s : σ}

/-- A port that cannot be opened is left alone. -/
theorem drive_of_refused {e : TransportError}
    (h : (ComPort.acquire sys path s).result = .error e) :
    drive sys path profile s =
      ⟨.error (.port (.opening path) (.transport e)), (ComPort.acquire sys path s).state,
        (ComPort.acquire sys path s).events⟩ := by
  rw [drive, Work.bind_of_result _ h]
  simp only [Work.pure_apply, List.append_nil]

variable {com : ComPort} (hcom : (ComPort.acquire sys path s).result = .ok com)

include hcom

/-- A port whose profile is not applied is given up. -/
theorem drive_of_not_applied {e : PortError}
    (h : (((com.toPort sys).apply profile).run (ComPort.acquire sys path s).state).result =
      .error e) :
    let opened := ComPort.acquire sys path s
    let applied := ((com.toPort sys).apply profile).run opened.state
    let dropped := com.drop sys applied.state
    drive sys path profile s =
      ⟨.error (.port .applying e), dropped.state,
        opened.events ++ (applied.events ++ dropped.events)⟩ := by
  intro opened applied dropped
  rw [drive, Work.bind_of_result _ hcom]
  dsimp only
  rw [Work.bind_of_result _ h]
  dsimp only
  rw [Work.bind_apply]
  simp only [Work.pure_apply, List.append_nil]
  rfl

/-- A port whose profile is applied is read and closed. -/
theorem drive_of_applied {report : ApplyReport}
    (h : (((com.toPort sys).apply profile).run (ComPort.acquire sys path s).state).result =
      .ok report) :
    let opened := ComPort.acquire sys path s
    let applied := ((com.toPort sys).apply profile).run opened.state
    let read := (com.toPort sys).snapshot applied.state
    let closed := com.close sys read.state
    drive sys path profile s =
      ⟨closed.result.mapError fun e => .port (.closing path) (.transport e), closed.state,
        opened.events ++ (applied.events ++ (read.events ++
          ((logValues read.result read.state).events ++ closed.events)))⟩ := by
  intro opened applied read closed
  rw [drive, Work.bind_of_result _ hcom]
  dsimp only
  rw [Work.bind_of_result _ h]
  dsimp only
  rw [Work.bind_apply]
  -- logging the values leaves the system alone; only closing is left
  rw [Work.bind_apply, logValues_state]
  have hclose : (com.toPort sys).close.run read.state =
    ⟨closed.result.mapError .transport, closed.state, closed.events⟩ :=
      (com.toPort sys).close_run read.state
  cases hclosed : closed.result with
  | error e =>
    rw [hclosed] at hclose
    rw [Work.bind_of_result _ (congrArg Run.result hclose), hclose]
    simp only [Except.mapError, Work.pure_apply, List.append_nil]
    rfl
  | ok u =>
    rw [hclosed] at hclose
    rw [Work.bind_of_result _ (congrArg Run.result hclose), hclose]
    simp only [Except.mapError, Work.pure_apply, List.append_nil]
    rfl

end

private theorem isOk_mapError {ε ε' α : Type} (f : ε → ε') (result : Except ε α) :
    (result.mapError f).isOk = result.isOk := by
  cases result <;> rfl

/-- Once its path is opened, a port makes the calls of the plan up to the first that is not to be
tolerated. -/
theorem apply_of_opens {sys : System σ} {port : ComPort} {s s' : σ} (h : sys.Opens s port s')
    (profile : Profile) :
    let opened := ComPort.acquire sys.recorded port.path (s, [])
    let applied := ((port.toPort sys.recorded).apply profile).run opened.state
    opened.result = .ok port ∧
      applied.state = (sys.afterCalls (port.appliedCalls sys profile s') s',
        [.createFile (ComPort.openCall port.path) port.handle] ++
          (sys.attempts (port.appliedCalls sys profile s') s').map Attempt.entry) ∧
      applied.result.isOk = port.isApplied sys profile s' := by
  intro opened applied
  have hopened := ComPort.state_acquire_recorded sys s [] port.path
  rw [h.1, List.nil_append] at hopened
  have happly := port.state_apply_recorded sys profile s'
    [.createFile (ComPort.openCall port.path) port.handle]
  have hok := port.isOk_apply_recorded sys profile s'
    [.createFile (ComPort.openCall port.path) port.handle]
  rw [← hopened] at happly hok
  exact ⟨port.acquire_recorded_of_opens sys s [] h, happly, hok⟩

/-- A port whose profile is applied has made the calls of the plan and those of the snapshot before
it is closed. -/
theorem read_of_opens {sys : System σ} {port : ComPort} {s s' : σ} (h : sys.Opens s port s')
    {profile : Profile} (happlied : port.isApplied sys profile s' = true) :
    let opened := ComPort.acquire sys.recorded port.path (s, [])
    let applied := ((port.toPort sys.recorded).apply profile).run opened.state
    let calls := port.planCalls profile ++ port.snapshotCalls
    ((port.toPort sys.recorded).snapshot applied.state).state =
      (sys.afterCalls calls s', [.createFile (ComPort.openCall port.path) port.handle] ++
        (sys.attempts calls s').map Attempt.entry) := by
  intro opened applied calls
  have happly : applied.state = _ := (apply_of_opens h profile).2.1
  -- the calls of the plan and those of the snapshot are one list
  rw [happly, port.appliedCalls_of_isApplied sys profile happlied, port.state_snapshot_recorded,
    List.append_assoc, ← List.map_append, ← sys.attempts_append, ← sys.afterCalls_append]

/-- What is done with an open port is the work on it. -/
private theorem drive_of_opens {sys : System σ} {port : ComPort} {s s' : σ}
    (h : sys.Opens s port s') (profile : Profile) :
    let run := drive sys.recorded port.path profile (s, [])
    run.state.2 = .createFile (ComPort.openCall port.path) port.handle ::
        (port.work sys profile s').1 ∧
      run.result.isOk = (port.work sys profile s').2 := by
  intro run
  obtain ⟨hcom, happly, hok⟩ := apply_of_opens h profile
  cases hresult : (((port.toPort sys.recorded).apply profile).run
      (ComPort.acquire sys.recorded port.path (s, [])).state).result with
  | error e =>
    have happlied : port.isApplied sys profile s' = false := by
      rw [← hok, hresult]
      rfl
    have hrun := drive_of_not_applied profile hcom hresult
    dsimp only at hrun
    rw [happly, port.state_drop_recorded sys _ _ h.2, List.append_assoc] at hrun
    rw [port.work_of_not_isApplied sys profile happlied]
    exact ⟨congrArg (fun run => run.state.2) hrun, congrArg (fun run => run.result.isOk) hrun⟩
  | ok report =>
    have happlied : port.isApplied sys profile s' = true := by
      rw [← hok, hresult]
      rfl
    have hrun := drive_of_applied profile hcom hresult
    dsimp only at hrun
    rw [read_of_opens h happlied] at hrun
    have hstate := congrArg (fun run => run.state.2) hrun
    have hended := congrArg (fun run => run.result.isOk) hrun
    dsimp only at hstate hended
    rw [port.state_close_recorded, List.append_assoc] at hstate
    rw [isOk_mapError, port.isOk_close_recorded] at hended
    rw [port.work_of_isApplied sys profile happlied]
    exact ⟨hstate, hended⟩

/-- **Working on a port is a session.** The program makes the calls of the session, and succeeds if
it does. -/
theorem drive_recorded (sys : System σ) (path : String) (profile : Profile) (s : σ) :
    let run := drive sys.recorded path profile (s, [])
    run.state.2 = (sys.session path profile s).1 ∧
      run.result.isOk = (sys.session path profile s).2 := by
  intro run
  rcases sys.exists_opens path s with hinvalid | ⟨port, s', rfl, hopens⟩
  · obtain ⟨e, he⟩ := ComPort.acquire_recorded_of_invalid sys s [] hinvalid
    have hrun := drive_of_refused profile he
    rw [ComPort.state_acquire_recorded, hinvalid] at hrun
    rw [System.session_of_invalid hinvalid]
    exact ⟨congrArg (fun run => run.state.2) hrun, congrArg (fun run => run.result.isOk) hrun⟩
  · have hdriven := drive_of_opens hopens profile
    rw [System.session_of_opens hopens]
    dsimp only at hdriven ⊢
    exact hdriven

end Program

end SerialCard
