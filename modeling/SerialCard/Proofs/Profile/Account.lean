import SerialCard.Proofs.Profile.Skipping
import SerialCard.Proofs.Profile.Slots

/-!
# What the log says of a profile

Applying a profile leaves an account in the log. `Answered.entries` is what is to stand there about
a step of the plan: that its request went out, with the number of bytes sent and of those expected;
that it was rejected, or answered with the wrong number of bytes; and that its setting is left out.
After the last step the settings are counted, if there is a report.

Warnings are few. A step gives rise to one at most (`Answered.warning?`), for a setting that is left
out or for an answer of the wrong length, and the latter ends the run. As no two steps of a plan are
about the same setting, no setting is warned about twice (`apply_accounted`).
-/

namespace SerialCard

variable {σ : Type}

/-! ### Records as they are read -/

/-- What a line of the log says of a record. -/
structure Entry where
  level : Level
  /-- The part of the program it comes from. -/
  target : String
  text : String
  deriving DecidableEq, Repr

namespace Record

/-- A record as it stands in the log. -/
def entry (r : Record) : Entry :=
  ⟨r.level, r.target, r.message⟩

/-- The setting a warning of a run is about: the one that is named, or the one whose code is. -/
def setting? : Record → Option Setting
  | skipped name _ => Setting.all.find? fun t => t.name == name
  | wrongLength code _ _ => Setting.all.find? fun t => t.codes.contains code
  | _ => none

end Record

namespace Setting

/-- Settings of the table differ by name. -/
theorem find?_name {t : Setting} (h : t ∈ all) :
    all.find? (fun t' => t'.name == t.name) = some t := by
  revert t
  decide

/-- Settings of the table differ by each of their codes. -/
theorem find?_codes {t : Setting} (h : t ∈ all) {code : ControlCode} (hcode : code ∈ t.codes) :
    all.find? (fun t' => t'.codes.contains code) = some t := by
  revert t code
  decide

end Setting

/-- The code of a write is one of its setting. -/
theorem Write.code_mem_codes (w : Write) : w.request.code ∈ w.setting.codes := by
  cases w with
  | flag s on => cases on <;> simp [request, setting, Setting.codes]
  | register _ _ | writeOnly _ _ | enable _ _ | disable _ => simp [request, setting, Setting.codes]

/-! ### Steps and their records -/

namespace Answered

/-- The answer has the wrong number of bytes. -/
def isWrongLength (a : Answered) : Bool :=
  match a.reply with
  | .ok bytes => bytes.length != a.step.request.outputSize
  | .error _ => false

theorem isWrongLength_iff {a : Answered} :
    a.isWrongLength = true ↔
      ∃ bytes, a.reply = .ok bytes ∧ bytes.length ≠ a.step.request.outputSize := by
  obtain ⟨step, fault | bytes⟩ := a
  · simp [isWrongLength]
  · simp [isWrongLength]

/-- What is to stand in the log about a step. -/
def entries (skip : Bool) (a : Answered) : List Entry :=
  let q := a.step.request
  ⟨.debug, "serialfc::port", q.code.text ++ ": " ++ toString q.inputSize ++ " byte(s) in, "
      ++ toString q.outputSize ++ " expected"⟩ ::
    match a.reply with
    | .ok bytes =>
      if bytes.length = q.outputSize then []
      else
        [⟨.warn, "serialfc::port", q.code.text ++ " returned " ++ toString bytes.length
          ++ " byte(s), expected " ++ toString q.outputSize⟩]
    | .error fault =>
      ⟨.debug, "serialfc::port", q.code.text ++ " rejected: " ++ fault.message⟩ ::
        if a.isSkipped skip then
          [⟨.warn, "serialfc::port::profile", "Skipping " ++ a.step.name ++ ": "
            ++ ("control request " ++ q.code.text ++ " failed: "
              ++ "operation not supported by this card")⟩]
        else []

/-- The records of a step. -/
def records (skip : Bool) (a : Answered) : List Record :=
  .sent a.step.request :: a.step.request.notes a.reply ++
    if a.isSkipped skip then [.skipped a.step.name a.error] else []

theorem filterMap_trail (skip : Bool) (a : Answered) :
    (a.trail skip).filterMap Event.record? = a.records skip := by
  rw [trail, List.filterMap_append, Request.filterMap_trail, records]
  split <;> rfl

/-- A setting that is left out was answered with the complaint that the card lacks the feature. -/
theorem fault_of_isSkipped {skip : Bool} {a : Answered} (h : a.isSkipped skip = true) :
    a.reply = .error .unsupported := by
  obtain ⟨step, fault | bytes⟩ := a
  · cases fault <;> first | rfl | cases h
  · cases h

/-- The records of a step say what is to stand in the log. -/
theorem map_entry_records (skip : Bool) (a : Answered) :
    (a.records skip).map Record.entry = a.entries skip := by
  cases hskip : a.isSkipped skip with
  | true =>
    have hreply := fault_of_isSkipped hskip
    simp only [records, entries, Request.notes, error, fault, hreply, hskip, if_true]
    rfl
  | false =>
    obtain ⟨step, fault | bytes⟩ := a
    · simp only [records, entries, Request.notes, hskip]
      rfl
    · simp only [records, entries, Request.notes, hskip]
      split <;> rfl

/-! ### Warnings -/

/-- The warning a step gives rise to, if it does. -/
def warning? (skip : Bool) (a : Answered) : Option Record :=
  if a.isSkipped skip then some (.skipped a.step.name a.error)
  else
    match a.reply with
    | .ok bytes =>
      if bytes.length = a.step.request.outputSize then none
      else some (.wrongLength a.step.request.code bytes.length a.step.request.outputSize)
    | .error _ => none

/-- One warning is all there is among the records of a step. -/
theorem filter_warn_records (skip : Bool) (a : Answered) :
    ((a.records skip).filter fun r => r.level = .warn) = (a.warning? skip).toList := by
  cases hskip : a.isSkipped skip with
  | true =>
    have hreply := fault_of_isSkipped hskip
    simp only [records, warning?, Request.notes, hreply, hskip, if_true]
    rfl
  | false =>
    obtain ⟨step, fault | bytes⟩ := a
    · simp only [records, warning?, Request.notes, hskip]
      rfl
    · simp only [records, warning?, Request.notes, hskip]
      split <;> rfl

theorem isSome_warning? (skip : Bool) (a : Answered) :
    (a.warning? skip).isSome = (a.isSkipped skip || a.isWrongLength) := by
  cases hskip : a.isSkipped skip with
  | true => simp [warning?, hskip]
  | false =>
    obtain ⟨step, fault | bytes⟩ := a
    · simp [warning?, isWrongLength, hskip]
    · by_cases hlen : bytes.length = step.request.outputSize <;>
        simp [warning?, isWrongLength, hskip, hlen]

/-- The warning of a step is about the setting it writes. -/
theorem setting?_of_warning? {skip : Bool} {a : Answered} {w : Write}
    (hw : w.setting ∈ Setting.all) (hstep : a.step = w.planStep) {r : Record}
    (h : a.warning? skip = some r) : r.setting? = some w.setting := by
  rw [warning?] at h
  split at h
  · obtain rfl := Option.some.inj h
    rw [Record.setting?, hstep, Write.planStep_name, ← w.setting_name]
    exact Setting.find?_name hw
  · split at h
    · split at h
      · cases h
      · obtain rfl := Option.some.inj h
        rw [Record.setting?, hstep, Write.planStep_request]
        exact Setting.find?_codes hw w.code_mem_codes
    · cases h

/-- Of answers that have the right number of bytes, only those by which a setting is left out give
rise to a warning. -/
theorem length_warnings {skip : Bool} {answers : List Answered}
    (h : ∀ a ∈ answers, a.isWrongLength = false) :
    (answers.filterMap (warning? skip)).length = (answers.filter (isSkipped skip)).length := by
  induction answers with
  | nil => rfl
  | cons a rest ih =>
    obtain ⟨ha, hrest⟩ := List.forall_mem_cons.mp h
    have hsome := a.isSome_warning? skip
    rw [ha, Bool.or_false] at hsome
    rw [List.filterMap_cons, List.filter_cons, ← hsome]
    cases a.warning? skip with
    | none => exact ih hrest
    | some r => exact congrArg Nat.succ (ih hrest)

/-- One more answer that leaves no setting out gives rise to a warning if it has the wrong number of
bytes. -/
theorem length_warnings_concat {skip : Bool} {before : List Answered} {a : Answered}
    (hbefore : ∀ b ∈ before, b.isWrongLength = false) (ha : a.isSkipped skip = false) :
    ((before ++ [a]).filterMap (warning? skip)).length =
      ((before ++ [a]).filter (isSkipped skip)).length + if a.isWrongLength then 1 else 0 := by
  have hsome := a.isSome_warning? skip
  rw [ha, Bool.false_or] at hsome
  simp only [List.filterMap_append, List.filter_append, List.length_append,
    length_warnings hbefore, List.filter_singleton, ha, List.filterMap_cons, List.filterMap_nil,
    ← hsome]
  cases a.warning? skip <;> rfl

/-- An answer of the wrong length is fatal where nothing is expected back. -/
theorem isFatal_of_isWrongLength {a : Answered} (hsize : a.step.request.outputSize = 0)
    (h : a.isWrongLength = true) (skip : Bool) : a.isFatal skip = true := by
  obtain ⟨bytes, hreply, hlen⟩ := isWrongLength_iff.mp h
  have hempty : bytes ≠ [] := by
    rintro rfl
    exact hlen hsize.symm
  simp [isFatal, isAccepted, isSkipped, hreply, hempty]

end Answered

/-- The warnings of writes to settings of the table are about some of these settings, in order. -/
theorem exists_settings_of_warnings (c : Channel σ) (skip : Bool) {ws : List Write}
    (h : ∀ w ∈ ws, w.setting ∈ Setting.all) (s : σ) :
    ∃ settings : List Setting, settings.Sublist (ws.map Write.setting) ∧
      ((upToFatal skip (c.answered (ws.map Write.planStep) s)).filterMap
        (Answered.warning? skip)).map Record.setting? = settings.map some := by
  induction ws generalizing s with
  | nil => exact ⟨[], List.Sublist.slnil, rfl⟩
  | cons w rest ih =>
    obtain ⟨hw, hrest⟩ := List.forall_mem_cons.mp h
    let a : Answered := ⟨w.planStep, (c.control w.planStep.request s).1⟩
    -- the steps after a fatal answer are not made, and so there are no warnings about them
    have hafter : ∃ settings : List Setting, settings.Sublist (rest.map Write.setting) ∧
        ((if a.isFatal skip then [] else upToFatal skip (c.answered (rest.map Write.planStep)
          (c.control w.planStep.request s).2)).filterMap (Answered.warning? skip)).map
            Record.setting? = settings.map some := by
      split
      · exact ⟨[], List.nil_sublist _, rfl⟩
      · exact ih hrest _
    obtain ⟨settings, hsub, hsettings⟩ := hafter
    rw [List.map_cons, List.map_cons, Channel.answered, upToFatal, List.filterMap_cons]
    cases hwarning : a.warning? skip with
    | none => exact ⟨settings, hsub.cons _, hsettings⟩
    | some r =>
      refine ⟨w.setting :: settings, hsub.cons_cons _, ?_⟩
      rw [List.map_cons, List.map_cons, Answered.setting?_of_warning? hw rfl hwarning]
      exact congrArg _ hsettings

/-! ### How a run ends -/

/-- Either no answer is fatal, or there is a first that is. -/
theorem exists_first_fatal_or (skip : Bool) (answered : List Answered) :
    (∀ a ∈ answered, ¬ a.isFatal skip = true) ∨
      ∃ before a rest, answered = before ++ a :: rest ∧ (∀ b ∈ before, ¬ b.isFatal skip = true) ∧
        a.isFatal skip = true := by
  cases hfind : answered.find? (Answered.isFatal skip) with
  | none => exact .inl (List.find?_eq_none.mp hfind)
  | some a =>
    obtain ⟨ha, before, rest, rfl, hbefore⟩ := List.find?_eq_some_iff_append.mp hfind
    exact .inr ⟨before, a, rest, rfl, fun b hb => by simpa using hbefore b hb, ha⟩

/-- The run was ended by an answer of the wrong length. -/
def Run.EndsInWrongLength {α : Type} (r : Run σ (Except PortError α)) : Prop :=
  ∃ q bytes, r.exchanges.getLast? = some (q, .ok bytes) ∧ bytes.length ≠ q.outputSize ∧
    r.result = .error (.device q.code (.lengthMismatch q.outputSize bytes.length))

namespace Port

variable (p : Port σ) (profile : Profile) (s : σ)

/-- The records of applying a profile are those of the steps that were made, and a last one that
counts the settings if there is a report. -/
theorem records_apply :
    let skip := profile.skipUnsupported
    let answered := p.channel.answered profile.plan s
    ((p.apply profile).run s).records =
      (upToFatal skip answered).flatMap (Answered.records skip) ++
        (ApplyReport.conclude skip answered).toOption.toList.map fun report =>
          .applied report.applied.length report.skipped.length := by
  intro skip answered
  have hcount (outcome : Except PortError ApplyReport) :
      (outcome.toOption.toList.map fun report =>
        Event.logged (.applied report.applied.length report.skipped.length)).filterMap
          Event.record? =
        outcome.toOption.toList.map fun report =>
          .applied report.applied.length report.skipped.length := by
    cases outcome <;> rfl
  rw [p.apply_run, Run.records, List.filterMap_append, hcount, List.filterMap_flatMap]
  simp only [Answered.filterMap_trail]
  rfl

/-- The warnings of applying a profile are those of the steps that were made. -/
theorem warnings_apply :
    let skip := profile.skipUnsupported
    (((p.apply profile).run s).records.filter fun r => r.level = .warn) =
      (upToFatal skip (p.channel.answered profile.plan s)).filterMap (Answered.warning? skip) := by
  intro skip
  have hcount (outcome : Except PortError ApplyReport) :
      ((outcome.toOption.toList.map fun report =>
        Record.applied report.applied.length report.skipped.length).filter
          fun r => r.level = .warn) = [] := by
    cases outcome <;> rfl
  rw [p.records_apply, List.filter_append, hcount, List.append_nil, List.filter_flatMap,
    List.filterMap_eq_flatMap_toList]
  simp only [Answered.filter_warn_records]
  rfl

/-- Nothing is expected back from the steps of a plan. -/
theorem outputSize_of_mem_answered {a : Answered} (ha : a ∈ p.channel.answered profile.plan s) :
    a.step.request.outputSize = 0 := by
  refine profile.plan_outputSize a.step ?_
  rw [← p.channel.map_step_answered profile.plan s]
  exact List.mem_map_of_mem ha

/-- An answer to a step of a plan that is not fatal has the right number of bytes. -/
theorem isWrongLength_of_not_isFatal {a : Answered} (ha : a ∈ p.channel.answered profile.plan s)
    {skip : Bool} (h : ¬ a.isFatal skip = true) : a.isWrongLength = false := by
  refine Bool.eq_false_iff.mpr fun hwrong => h ?_
  exact Answered.isFatal_of_isWrongLength (outputSize_of_mem_answered p profile s ha) hwrong skip

/-- There is a warning for each setting that is left out, and one more if the run is ended by an
answer of the wrong length. -/
theorem length_warnings_apply :
    let run := (p.apply profile).run s
    let made := upToFatal profile.skipUnsupported (p.channel.answered profile.plan s)
    let warnings := made.filterMap (Answered.warning? profile.skipUnsupported)
    let skipped := made.filter (Answered.isSkipped profile.skipUnsupported)
    (run.EndsInWrongLength ∧ warnings.length = skipped.length + 1) ∨
      (¬ run.EndsInWrongLength ∧ warnings.length = skipped.length) := by
  intro run made warnings skipped
  have hresult : run.result = ApplyReport.conclude profile.skipUnsupported _ :=
    p.apply_result profile s
  rcases exists_first_fatal_or profile.skipUnsupported (p.channel.answered profile.plan s) with
    hgoes | ⟨before, a, rest, hsplit, hgoes, hfatal⟩
  · -- without a fatal answer there is a report, and so no error
    obtain ⟨report, hreport⟩ := ApplyReport.exists_conclude_eq_ok_iff.mpr hgoes
    have hmade : made = p.channel.answered profile.plan s := upToFatal_eq_self hgoes
    refine .inr ⟨?_, Answered.length_warnings fun a ha => ?_⟩
    · rintro ⟨q, bytes, -, -, herror⟩
      cases herror.symm.trans (hresult.trans hreport)
    · rw [hmade] at ha
      exact isWrongLength_of_not_isFatal p profile s ha (hgoes a ha)
  · -- the fatal answer is the last, and the only one that may have the wrong length
    have ha : a ∈ p.channel.answered profile.plan s :=
      hsplit ▸ List.mem_append_right _ List.mem_cons_self
    have hbefore : ∀ b ∈ before, b.isWrongLength = false := fun b hb =>
      isWrongLength_of_not_isFatal p profile s (hsplit ▸ List.mem_append_left _ hb) (hgoes b hb)
    have hmade : made = before ++ [a] := by
      simp only [made, hsplit, upToFatal_append hgoes, upToFatal, if_pos hfatal]
    have hlast : run.exchanges.getLast? = some (a.step.request, a.reply) := by
      have hexchanges : run.exchanges = made.map fun a => (a.step.request, a.reply) :=
        exchanges_apply p profile s
      rw [hexchanges, hmade, List.map_append, List.map_singleton, List.getLast?_concat]
    have hskipped : a.isSkipped profile.skipUnsupported = false := by
      simpa using (Bool.and_eq_true_iff.mp hfatal).2
    have hcount : warnings.length = skipped.length + if a.isWrongLength then 1 else 0 := by
      simp only [warnings, skipped, hmade, Answered.length_warnings_concat hbefore hskipped]
    cases hwrong : a.isWrongLength with
    | true =>
      obtain ⟨bytes, hreply, hlen⟩ := Answered.isWrongLength_iff.mp hwrong
      refine .inl ⟨⟨a.step.request, bytes, hreply ▸ hlast, hlen, ?_⟩, ?_⟩
      · rw [hresult, hsplit, ApplyReport.conclude_append_of_fatal hgoes hfatal, Answered.error,
          Answered.fault, hreply, outputSize_of_mem_answered p profile s ha]
      · rw [hcount, hwrong, if_pos rfl]
    | false =>
      refine .inr ⟨?_, ?_⟩
      · rintro ⟨q, bytes, hends, hlen, -⟩
        obtain ⟨rfl, hreply⟩ := Prod.mk.inj (Option.some.inj (hlast.symm.trans hends))
        exact Bool.eq_false_iff.mp hwrong (Answered.isWrongLength_iff.mpr ⟨bytes, hreply, hlen⟩)
      · rw [hcount, hwrong, if_neg Bool.false_ne_true, Nat.add_zero]

end Port

/-- **The log accounts for the run.** Whatever a channel answers, the log of applying a profile says
of each request that was made that it was sent, with its numbers of bytes, then that it was rejected
or answered with the wrong length, if it was, and then that its setting is left out, if it is; and
there is a last entry, with the lengths of the report, exactly if there is a report. There are as
many warnings as settings that are left out, and one more if the run was ended by an answer of the
wrong length. Each warning is about a setting of the table, and no two are about the same. -/
theorem apply_accounted (c : Channel σ) (profile : Profile) (s : σ) :
    let skip := profile.skipUnsupported
    let run := (Port.apply ⟨c⟩ profile).run s
    let made := upToFatal skip (c.answered profile.plan s)
    let skipped := (made.filter (Answered.isSkipped skip)).map (·.step.name)
    let warnings := run.records.filter fun r => r.level = .warn
    run.exchanges = made.map (fun a => (a.step.request, a.reply)) ∧
    run.records.map Record.entry = made.flatMap (Answered.entries skip) ++
      (match run.result with
      | .ok report =>
        [⟨.info, "serialfc::port::profile", "Profile applied: " ++ toString report.applied.length
          ++ " setting(s) written, " ++ toString report.skipped.length ++ " skipped"⟩]
      | .error _ => []) ∧
    (match run.result with
      | .ok report => report.skipped = skipped
      | .error _ => True) ∧
    ((run.EndsInWrongLength ∧ warnings.length = skipped.length + 1) ∨
      (¬ run.EndsInWrongLength ∧ warnings.length = skipped.length)) ∧
    ∃ settings : List Setting, warnings.map Record.setting? = settings.map some ∧
      settings.Nodup := by
  intro skip run made skipped warnings
  have hwarnings : warnings = made.filterMap (Answered.warning? skip) :=
    Port.warnings_apply ⟨c⟩ profile s
  refine ⟨exchanges_apply ⟨c⟩ profile s, ?_, ?_, ?_, ?_⟩
  · have hrecords : run.records = _ := Port.records_apply ⟨c⟩ profile s
    have hresult : run.result = _ := Port.apply_result ⟨c⟩ profile s
    rw [hrecords, hresult, List.map_append, List.map_flatMap]
    simp only [Answered.map_entry_records]
    cases ApplyReport.conclude skip (c.answered profile.plan s) <;> rfl
  · have hresult : run.result = ApplyReport.conclude skip _ := Port.apply_result ⟨c⟩ profile s
    cases hreport : run.result with
    | error e => trivial
    | ok report =>
      have hok := hresult.symm.trans hreport
      have hgoes := ApplyReport.exists_conclude_eq_ok_iff.mp ⟨report, hok⟩
      have hmade : made = c.answered profile.plan s := upToFatal_eq_self hgoes
      simp only [skipped, hmade, ApplyReport.eq_ofAnswered_of_conclude hok, ApplyReport.ofAnswered]
  · simp only [hwarnings, skipped, List.length_map]
    exact Port.length_warnings_apply ⟨c⟩ profile s
  · obtain ⟨settings, hsub, hsettings⟩ := exists_settings_of_warnings c skip
      (fun w => profile.setting_mem_all) s
    rw [profile.map_planStep_writes, ← hwarnings] at hsettings
    exact ⟨settings, hsettings, hsub.nodup profile.nodup_setting_writes⟩

end SerialCard
