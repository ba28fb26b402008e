import SerialCard.Proofs.Port.Congruence
import SerialCard.Proofs.Program.Trace

/-!
# The records of a run

What a run logs is put together from what each part of the program logs. While a port is worked on,
only records of that work appear (`Record.isOfPort`), and none of them is an error. The one other
record is the warning that a port which was given up could not be closed.
-/

namespace SerialCard

open Win32

variable {σ : Type}

/-! ### What work logs -/

/-- Whether a record is of the work on a port as long as it goes on. -/
def Record.isOfPort : Record → Bool
  | sent _ | rejected .. | wrongLength .. | skipped .. | applied .. | opened _ | closed _
  | value .. | unreadable .. => true
  | closeFailed .. | reading _ | loaded _ | started _ | failed _ | done => false

theorem Record.level_ne_error_of_isOfPort {r : Record} (h : r.isOfPort = true) :
    r.level ≠ .error := by
  cases r <;> first | exact Level.noConfusion | cases h

/-- Work logs only records of a kind. -/
def Work.Logs {α : Type} (kind : Record → Bool) (work : Work σ α) : Prop :=
  ∀ s, ∀ r ∈ (work s).records, kind r = true

namespace Work

variable {α β : Type} {kind : Record → Bool}

theorem logs_pure (a : α) : (pure a : Work σ α).Logs kind :=
  fun _ _ hr => absurd hr List.not_mem_nil

theorem logs_log {record : Record} (h : kind record = true) :
    (log record : Work σ Unit).Logs kind :=
  fun _ _ hr => List.mem_singleton.mp hr ▸ h

theorem logs_step (f : σ → α × σ) : (step f).Logs kind :=
  fun _ _ hr => absurd hr List.not_mem_nil

theorem Logs.bind {first : Work σ α} {next : α → Work σ β} (hfirst : first.Logs kind)
    (hnext : ∀ a, (next a).Logs kind) : (first >>= next).Logs kind := by
  intro s r hr
  rw [records_bind] at hr
  exact (List.mem_append.mp hr).elim (hfirst s r) (hnext _ _ r)

end Work

namespace Port

variable (p : Port σ)

/-- A request is noted, and then what came of it. -/
private theorem once_records {α : Type} (q : Request) (f : Reply → α) (s : σ) :
    (p.once q f s).records = .sent q :: q.notes (p.channel.control q s).1 :=
  q.filterMap_trail _

private theorem logs_once {α : Type} (q : Request) (f : Reply → α) :
    (p.once q f).Logs Record.isOfPort := by
  intro s r hr
  rw [once_records] at hr
  rcases List.mem_cons.mp hr with rfl | hr
  · rfl
  · cases hreply : (p.channel.control q s).1 with
    | error fault =>
      rw [hreply, Request.notes] at hr
      exact List.mem_singleton.mp hr ▸ rfl
    | ok bytes =>
      rw [hreply, Request.notes] at hr
      split at hr
      · cases hr
      · exact List.mem_singleton.mp hr ▸ rfl

/-- Calls on a port log records of the work on it. -/
theorem congruence_logs : p.Congruence p fun _ work _ => work.Logs Record.isOfPort where
  result a := Work.logs_pure a
  andThen := Work.Logs.bind
  request := p.logs_once
  skipped _ _ := Work.logs_log rfl
  applied _ _ := Work.logs_log rfl

end Port

namespace Win32.ComPort

variable (sys : System σ)

theorem logs_acquire (path : String) : (acquire sys path).Logs Record.isOfPort := by
  refine (Work.logs_step _).bind fun handle => ?_
  split
  · exact (Work.logs_step _).bind fun number => Work.logs_pure _
  · exact (Work.logs_log rfl).bind fun _ => Work.logs_pure _

variable (port : ComPort)

/-- What has no handle is given up in silence. -/
private theorem drop_of_invalid (h : port.handle = Handle.invalid) : port.drop sys = pure () := by
  rw [drop, if_pos h]

theorem logs_close : (port.close sys).Logs Record.isOfPort := by
  refine (Work.logs_step _).bind fun succeeded => ?_
  rw [drop_of_invalid sys _ rfl]
  split
  · exact (Work.logs_log rfl).bind fun _ => (Work.logs_pure _).bind fun _ => Work.logs_pure _
  · exact (Work.logs_step _).bind fun _ => (Work.logs_pure _).bind fun _ => Work.logs_pure _

/-- Giving a port up logs a warning if its handle cannot be closed, and nothing else. -/
theorem records_drop_recorded (h : port.handle ≠ Handle.invalid) (s : σ) (made : List SystemCall) :
    ∃ e, (port.drop sys.recorded (s, made)).records =
      if (sys.closeHandle port.handle s).1 then [] else [.closeFailed port.path e] := by
  rw [drop_apply]
  dsimp only
  rw [if_neg h, sys.closeHandle_recorded]
  split
  · exact ⟨⟨none, ""⟩, rfl⟩
  · exact ⟨_, rfl⟩

end Win32.ComPort

namespace Program

theorem logs_logValues (values : List (String × Except PortError SettingValue)) :
    (logValues values : Work σ Unit).Logs Record.isOfPort := by
  induction values with
  | nil => exact Work.logs_pure ()
  | cons entry rest ih =>
    obtain ⟨name, e | v⟩ := entry
    · exact (Work.logs_log rfl).bind fun _ => ih
    · exact (Work.logs_log rfl).bind fun _ => ih

/-! ### How work on a port ends -/

section Drive

variable {sys : System σ} {s : σ} (profile : Profile)

/-- If the path of a port cannot be opened, that is the failure. -/
theorem drive_ends_opening {path : String}
    (h : (sys.createFile (ComPort.openCall path) s).1 = Handle.invalid) :
    let run := drive sys.recorded path profile (s, [])
    (∃ e, run.result = .error (.port (.opening path) e)) ∧
      ∀ r ∈ run.records, r.isOfPort = true := by
  intro run
  obtain ⟨e, he⟩ := ComPort.acquire_recorded_of_invalid sys s [] h
  have hrun : run = _ := drive_of_refused profile he
  rw [hrun]
  exact ⟨⟨.transport e, rfl⟩, ComPort.logs_acquire sys.recorded path (s, [])⟩

section Opened

variable {port : ComPort} {s' : σ} (hopens : sys.Opens s port s')

include hopens

/-- If the profile is not applied, that is the failure. The port is given up, and if it cannot be
closed, a warning says so last. -/
theorem drive_ends_applying (happlied : port.isApplied sys profile s' = false) :
    let run := drive sys.recorded port.path profile (s, [])
    (∃ e, run.result = .error (.port .applying e)) ∧
      ∃ noted e, (∀ r ∈ noted, r.isOfPort = true) ∧
        run.records = noted ++
          if port.closes sys (port.appliedCalls sys profile s') s' then []
          else [.closeFailed port.path e] := by
  intro run
  let opened := ComPort.acquire sys.recorded port.path (s, [])
  let applied := ((port.toPort sys.recorded).apply profile).run opened.state
  obtain ⟨hcom, happly, hok⟩ := apply_of_opens hopens profile
  have hok : applied.result.isOk = false := hok.trans happlied
  cases hresult : applied.result with
  | ok report =>
    rw [hresult] at hok
    cases hok
  | error e =>
    have hrun : run = _ := drive_of_not_applied profile hcom hresult
    obtain ⟨e', hdropped⟩ := port.records_drop_recorded sys hopens.2
      (sys.afterCalls (port.appliedCalls sys profile s') s') _
    rw [← happly] at hdropped
    have hnoted : ∀ r ∈ opened.records ++ applied.records, r.isOfPort = true :=
      List.forall_mem_append.mpr ⟨ComPort.logs_acquire sys.recorded port.path _,
        (port.toPort sys.recorded).congruence_logs.apply profile _⟩
    refine ⟨⟨e, congrArg Run.result hrun⟩, _, e', hnoted, ?_⟩
    rw [hrun, Run.records, List.filterMap_append, List.filterMap_append, ← List.append_assoc]
    exact congrArg _ hdropped

/-- If the profile is applied, the only failure there may be is that of closing the port. -/
theorem drive_ends_closing (happlied : port.isApplied sys profile s' = true) :
    let run := drive sys.recorded port.path profile (s, [])
    (∀ r ∈ run.records, r.isOfPort = true) ∧
      if port.closes sys (port.planCalls profile ++ port.snapshotCalls) s' then run.result = .ok ()
      else ∃ e, run.result = .error (.port (.closing port.path) e) := by
  intro run
  let opened := ComPort.acquire sys.recorded port.path (s, [])
  let applied := ((port.toPort sys.recorded).apply profile).run opened.state
  let read := (port.toPort sys.recorded).snapshot applied.state
  let closed := port.close sys.recorded read.state
  obtain ⟨hcom, -, hok⟩ := apply_of_opens hopens profile
  have hok : applied.result.isOk = true := hok.trans happlied
  cases hresult : applied.result with
  | error e =>
    rw [hresult] at hok
    cases hok
  | ok report =>
    have hrun : run = _ := drive_of_applied profile hcom hresult
    have hcloses : closed.result.isOk =
        port.closes sys (port.planCalls profile ++ port.snapshotCalls) s' := by
      have hclosed : closed = _ :=
        congrArg (port.close sys.recorded) (read_of_opens hopens happlied)
      rw [hclosed]
      exact port.isOk_close_recorded sys _ _
    refine ⟨?_, ?_⟩
    · have hrecords : run.records = opened.records ++ (applied.records ++ (read.records ++
          ((logValues read.result read.state).records ++ closed.records))) := by
        rw [hrun]
        simp only [Run.records, List.filterMap_append]
        rfl
      rw [hrecords]
      simp only [List.forall_mem_append]
      exact ⟨ComPort.logs_acquire _ _ _, (Port.congruence_logs _).apply _ _,
        (Port.congruence_logs _).snapshot _, logs_logValues _ _, ComPort.logs_close _ _ _⟩
    · rw [← hcloses, hrun]
      cases hclosed : closed.result with
      | ok u => rfl
      | error e => exact ⟨.transport e, rfl⟩

end Opened

/-- Apart from the warning that a port could not be closed, all that is logged is of the work
on it. -/
theorem mem_drive_records {path : String} {r : Record}
    (hr : r ∈ (drive sys.recorded path profile (s, [])).records) :
    r.isOfPort = true ∨ ∃ path e, r = .closeFailed path e := by
  rcases sys.exists_opens path s with hinvalid | ⟨port, s', rfl, hopens⟩
  · exact .inl ((drive_ends_opening profile hinvalid).2 r hr)
  · cases happlied : port.isApplied sys profile s' with
    | true => exact .inl ((drive_ends_closing profile hopens happlied).1 r hr)
    | false =>
      obtain ⟨-, noted, e, hnoted, hrecords⟩ := drive_ends_applying profile hopens happlied
      rw [hrecords] at hr
      rcases List.mem_append.mp hr with hr | hr
      · exact .inl (hnoted r hr)
      · split at hr
        · cases hr
        · exact .inr ⟨_, _, List.mem_singleton.mp hr⟩

end Drive

/-! ### The first record and the last -/

/-- The log of a run is that of its work between the record of its start and that of its end. -/
theorem logged_records (platform : Platform σ) (configPath : String) (config : Config) (s : σ) :
    (logged platform configPath config s).records =
      .started configPath :: (work platform config s).records ++
        [lastRecord (work platform config s).result] := by
  rw [logged_apply]
  exact congrArg (List.cons (Record.started configPath)) List.filterMap_append

end Program

end SerialCard
