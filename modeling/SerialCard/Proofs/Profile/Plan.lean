import SerialCard.Proofs.Port.Exchange

/-!
# The plan of a profile

`Profile.plan` is what a profile asks of a card: one step for each value it gives, with the name of
the setting and the request that writes it, in a fixed order. The steps are written down from the
operations and the bytes alone, so that the table of settings, the encodings and the request layout
of each shape are all part of what is proved.

`Port.apply` carries a plan out: the requests of the plan go out one after the other, until all are
made or one fails in a way that must not be skipped (`apply_follows_plan`). A channel may answer as
it likes. `Channel.answered` are the answers it would give if the whole plan went out; what happens
depends only on those up to the first fatal one, which are `upToFatal`.
-/

namespace SerialCard

variable {σ : Type}

/-! ### Plans -/

/-- A step of a plan: a request that writes a setting. -/
structure PlanStep where
  /-- The name of the setting. -/
  name : String
  request : Request
  deriving DecidableEq, Repr

namespace PlanStep

/-- The code says which way a flag is switched; nothing is sent along. -/
def flag (name : String) (enable disable : Operation) (on : Bool) : PlanStep :=
  ⟨name, if on then enable.code else disable.code, none, 0⟩

/-- A number is sent along with its code. -/
def word (name : String) (set : Operation) (value : UInt32) : PlanStep :=
  ⟨name, set.code, some (littleEndian value.toNat), 0⟩

/-- A mode is turned on with its number, and off without one. -/
def mode (name : String) (enable disable : Operation) (wanted : ModeConfig) : PlanStep :=
  if wanted.enabled then ⟨name, enable.code, some (littleEndian wanted.value.toUInt32.toNat), 0⟩
  else ⟨name, disable.code, none, 0⟩

end PlanStep

/-- The plan of a profile. -/
def Profile.plan (profile : Profile) : List PlanStep :=
  (profile.clockRate.map (.word "clock_rate" .setClockRate)).toList
    ++ (profile.sampleRate.map (.word "sample_rate" .setSampleRate)).toList
    ++ (profile.rs485.map (.flag "rs485" .enableRs485 .disableRs485)).toList
    ++ (profile.echoCancel.map (.flag "echo_cancel" .enableEchoCancel .disableEchoCancel)).toList
    ++ (profile.termination.map (.flag "termination" .enableTermination .disableTermination)).toList
    ++ (profile.nineBit.map (.flag "nine_bit" .enableNineBit .disableNineBit)).toList
    ++ (profile.txTrigger.map (.word "tx_trigger" .setTxTrigger)).toList
    ++ (profile.rxTrigger.map (.word "rx_trigger" .setRxTrigger)).toList
    ++ (profile.fixedBaudRate.map
        (.mode "fixed_baud_rate" .enableFixedBaudRate .disableFixedBaudRate)).toList
    ++ (profile.isochronous.map
        (.mode "isochronous" .enableIsochronous .disableIsochronous)).toList
    ++ (profile.externalTransmit.map
        (.mode "external_transmit" .enableExternalTransmit .disableExternalTransmit)).toList
    ++ (profile.frameLength.map (.word "frame_length" .setFrameLength)).toList

/-- The step that makes a write. -/
def Write.planStep (w : Write) : PlanStep :=
  ⟨w.name, w.request⟩

@[simp] theorem Write.planStep_name (w : Write) : w.planStep.name = w.name := rfl

@[simp] theorem Write.planStep_request (w : Write) : w.planStep.request = w.request := rfl

private theorem map_planStep_flag (s : Flag) (wanted : Option Bool) :
    (wanted.map (Write.flag s)).toList.map Write.planStep =
      (wanted.map fun on => ⟨s.name, if on then s.enable else s.disable, none, 0⟩).toList := by
  cases wanted <;> rfl

private theorem map_planStep_register (s : Register) (wanted : Option UInt32) :
    (wanted.map (Write.register s)).toList.map Write.planStep =
      (wanted.map fun value => ⟨s.name, s.set, some (littleEndian value.toNat), 0⟩).toList := by
  cases wanted with
  | none => rfl
  | some value => simp [Write.planStep, Write.request, Write.name, Wire.encode_word]

private theorem map_planStep_writeOnly (s : WriteOnly) (wanted : Option UInt32) :
    (wanted.map (Write.writeOnly s)).toList.map Write.planStep =
      (wanted.map fun value => ⟨s.name, s.set, some (littleEndian value.toNat), 0⟩).toList := by
  cases wanted with
  | none => rfl
  | some value => simp [Write.planStep, Write.request, Write.name, Wire.encode_word]

private theorem map_planStep_ofMode (s : Mode) (wanted : Option ModeConfig) :
    (wanted.map (Write.ofMode s)).toList.map Write.planStep =
      (wanted.map fun w =>
        if w.enabled then ⟨s.name, s.enable, some (littleEndian w.value.toUInt32.toNat), 0⟩
        else ⟨s.name, s.disable, none, 0⟩).toList := by
  rcases wanted with _ | ⟨_ | _, value⟩
  · rfl
  · rfl
  · simp [Write.ofMode, Write.planStep, Write.request, Write.name, Wire.encode_int]

/-- The writes of a profile are the steps of its plan. -/
theorem Profile.map_planStep_writes (profile : Profile) :
    profile.writes.map Write.planStep = profile.plan := by
  simp only [Profile.writes, List.map_append, map_planStep_flag, map_planStep_register,
    map_planStep_writeOnly, map_planStep_ofMode]
  rfl

/-- Nothing is expected back from the steps of a plan. -/
theorem Profile.plan_outputSize (profile : Profile) :
    ∀ step ∈ profile.plan, step.request.outputSize = 0 := by
  intro step hstep
  rw [← profile.map_planStep_writes] at hstep
  obtain ⟨w, -, rfl⟩ := List.mem_map.mp hstep
  exact w.request_outputSize

/-! ### Answers to a plan -/

/-- A step of a plan and the answer to its request. -/
structure Answered where
  step : PlanStep
  reply : Reply

namespace Answered

/-- The setting was written: nothing came back, as it should. -/
def isAccepted (a : Answered) : Bool :=
  match a.reply with
  | .ok bytes => bytes.isEmpty
  | .error _ => false

/-- The setting is left out: the channel answered that the card lacks the feature, and such
settings are to be skipped. -/
def isSkipped (skip : Bool) (a : Answered) : Bool :=
  match a.reply with
  | .error .unsupported => skip
  | _ => false

/-- The setting was not written and must not be skipped. -/
def isFatal (skip : Bool) (a : Answered) : Bool :=
  !a.isAccepted && !a.isSkipped skip

/-- The fault of an answer that is not accepted: the channel's own, or the length of an answer that
should be empty. -/
def fault (a : Answered) : DeviceFault :=
  match a.reply with
  | .error fault => fault
  | .ok bytes => .lengthMismatch 0 bytes.length

/-- The error of an answer that is not accepted. -/
def error (a : Answered) : PortError :=
  .device a.step.request.code a.fault

/-- What happens at a step: its request is made, and a setting that is left out is noted. -/
def trail (skip : Bool) (a : Answered) : List Event :=
  a.step.request.trail a.reply ++
    if a.isSkipped skip then [.logged (.skipped a.step.name a.error)] else []

end Answered

/-- The answers up to the first fatal one, which is the last. -/
def upToFatal (skip : Bool) : List Answered → List Answered
  | [] => []
  | a :: rest => a :: if a.isFatal skip then [] else upToFatal skip rest

namespace ApplyReport

/-- The report of a list of answers. -/
def ofAnswered (skip : Bool) (answered : List Answered) : ApplyReport where
  applied := (answered.filter Answered.isAccepted).map (·.step.name)
  skipped := (answered.filter (Answered.isSkipped skip)).map (·.step.name)

/-- One report after another. -/
def append (first second : ApplyReport) : ApplyReport where
  applied := first.applied ++ second.applied
  skipped := first.skipped ++ second.skipped

theorem nil_append (report : ApplyReport) : append {} report = report := rfl

theorem append_nil (report : ApplyReport) : report.append {} = report := by
  simp only [append, List.append_nil]

theorem append_assoc (first second third : ApplyReport) :
    (first.append second).append third = first.append (second.append third) := by
  simp only [append, List.append_assoc]

theorem map_append_map (first second : ApplyReport) (outcome : Except PortError ApplyReport) :
    (outcome.map second.append).map first.append = outcome.map (first.append second).append := by
  cases outcome with
  | error e => rfl
  | ok report => simp only [Except.map, append_assoc]

/-- Answers can be reported one at a time. -/
theorem ofAnswered_cons (skip : Bool) (a : Answered) (rest : List Answered) :
    ofAnswered skip (a :: rest) = (ofAnswered skip [a]).append (ofAnswered skip rest) := by
  simp only [append, ofAnswered, ← List.map_append, ← List.filter_append, List.singleton_append]

/-- What a list of answers comes to: their report, or the error of the first fatal one. -/
def conclude (skip : Bool) (answered : List Answered) : Except PortError ApplyReport :=
  match answered.find? (Answered.isFatal skip) with
  | some a => .error a.error
  | none => .ok (ofAnswered skip answered)

theorem conclude_cons_of_fatal {skip : Bool} {a : Answered} (h : a.isFatal skip = true)
    (rest : List Answered) : conclude skip (a :: rest) = .error a.error := by
  rw [conclude, List.find?_cons, h]

theorem eq_ofAnswered_of_conclude {skip : Bool} {answered : List Answered} {report : ApplyReport}
    (h : conclude skip answered = .ok report) : report = ofAnswered skip answered := by
  unfold conclude at h
  split at h
  · cases h
  · exact (Except.ok.inj h).symm

theorem find?_of_conclude {skip : Bool} {answered : List Answered} {e : PortError}
    (h : conclude skip answered = .error e) :
    ∃ a, answered.find? (Answered.isFatal skip) = some a ∧ e = a.error := by
  unfold conclude at h
  split at h
  · next a ha => exact ⟨a, ha, (Except.error.inj h).symm⟩
  · cases h

theorem conclude_cons {skip : Bool} {a : Answered} (h : ¬ a.isFatal skip = true)
    (rest : List Answered) :
    conclude skip (a :: rest) = (conclude skip rest).map (ofAnswered skip [a]).append := by
  simp only [conclude, List.find?_cons, h]
  cases rest.find? (Answered.isFatal skip) with
  | some b => rfl
  | none => rw [ofAnswered_cons]; rfl

theorem isOk_conclude (skip : Bool) (answered : List Answered) :
    (conclude skip answered).isOk = !answered.any (Answered.isFatal skip) := by
  rw [conclude]
  cases hfatal : answered.find? (Answered.isFatal skip) with
  | none =>
    rw [List.any_eq_false.mpr (List.find?_eq_none.mp hfatal)]
    rfl
  | some a =>
    rw [List.any_eq_true.mpr ⟨a, List.mem_of_find?_eq_some hfatal, List.find?_some hfatal⟩]
    rfl

/-- There is a report exactly if no answer is fatal. -/
theorem exists_conclude_eq_ok_iff {skip : Bool} {answered : List Answered} :
    (∃ report, conclude skip answered = .ok report) ↔ ∀ a ∈ answered, ¬ a.isFatal skip := by
  rw [← List.find?_eq_none, conclude]
  cases answered.find? (Answered.isFatal skip) <;> simp

end ApplyReport

namespace Channel

variable (c : Channel σ)

/-- The answers to a whole plan. -/
def answered : List PlanStep → σ → List Answered
  | [], _ => []
  | step :: rest, s =>
    ⟨step, (c.control step.request s).1⟩ :: answered rest (c.control step.request s).2

theorem map_step_answered (plan : List PlanStep) (s : σ) :
    (c.answered plan s).map Answered.step = plan := by
  induction plan generalizing s with
  | nil => rfl
  | cons step rest ih => rw [answered, List.map_cons, ih]

end Channel

/-- The answers up to the first fatal one are as many as come before it, and one more. -/
theorem upToFatal_eq_take (skip : Bool) (answered : List Answered) :
    upToFatal skip answered = answered.take (answered.findIdx (Answered.isFatal skip) + 1) := by
  induction answered with
  | nil => rfl
  | cons a rest ih =>
    rw [upToFatal, List.findIdx_cons, List.take_succ_cons]
    cases a.isFatal skip with
    | true => rfl
    | false => exact congrArg _ ih

/-- Answers that are not fatal are all gone through. -/
theorem upToFatal_append {skip : Bool} {before : List Answered}
    (h : ∀ a ∈ before, ¬ a.isFatal skip = true) (rest : List Answered) :
    upToFatal skip (before ++ rest) = before ++ upToFatal skip rest := by
  induction before with
  | nil => rfl
  | cons a others ih =>
    have hrest := ih fun b hb => h b (List.mem_cons_of_mem a hb)
    rw [List.cons_append, upToFatal, if_neg (h a List.mem_cons_self), hrest, List.cons_append]

theorem upToFatal_eq_self {skip : Bool} {answered : List Answered}
    (h : ∀ a ∈ answered, ¬ a.isFatal skip = true) : upToFatal skip answered = answered := by
  have hall := upToFatal_append h []
  rwa [upToFatal, List.append_nil] at hall

/-! ### Carrying out a plan -/

/-- A request that expects nothing back succeeds if it is accepted. -/
private theorem confirm_eq (a : Answered) (h : a.step.request.outputSize = 0) :
    a.step.request.confirm a.reply = if a.isAccepted then .ok () else .error a.error := by
  obtain ⟨⟨name, q⟩, fault | bytes⟩ := a
  · rfl
  · have hq : q.outputSize = 0 := h
    simp only [Request.confirm, Request.judge, hq, List.length_eq_zero_iff, Answered.isAccepted,
      List.isEmpty_iff]
    by_cases hempty : bytes = []
    · rw [if_pos hempty, if_pos hempty]; rfl
    · rw [if_neg hempty, if_neg hempty]; rfl

/-- A setting is left out if its answer is an error by which the card lacks the feature. -/
private theorem isSkipped_eq (skip : Bool) (a : Answered) :
    a.isSkipped skip = (!a.isAccepted && (skip && a.error.isUnsupported)) := by
  obtain ⟨step, fault | bytes⟩ := a
  · cases fault <;> simp [Answered.isSkipped, Answered.isAccepted, Answered.error, Answered.fault,
      PortError.isUnsupported, PortError.fault?]
  · simp [Answered.isSkipped, Answered.error, Answered.fault, PortError.isUnsupported,
      PortError.fault?]

namespace Port

variable (p : Port σ)

/-- An attempt at a write is the step of it, and its answer decides how the report goes on. -/
theorem attempt_run (skip : Bool) (report : ApplyReport) (w : Write) (s : σ) :
    (p.attempt skip report w).run s =
      let a : Answered := ⟨w.planStep, (p.channel.control w.request s).1⟩
      ⟨if a.isFatal skip then .error a.error else .ok (report.append (.ofAnswered skip [a])),
        (p.channel.control w.request s).2, a.trail skip⟩ := by
  rw [attempt, ExceptT.run_mk, Work.bind_apply, write_run]
  simp only [once]
  obtain ⟨reply, after⟩ := p.channel.control w.request s
  -- from here on only the step and its answer matter, not which write it is
  generalize ha : (⟨w.planStep, reply⟩ : Answered) = a
  have hname : w.name = a.step.name := ha ▸ rfl
  have hrequest : w.request = a.step.request := ha ▸ rfl
  have hreply : reply = a.reply := ha ▸ rfl
  have hsize : a.step.request.outputSize = 0 := hrequest ▸ w.request_outputSize
  have hskip := isSkipped_eq skip a
  simp only [hname, hrequest, hreply, confirm_eq a hsize, Answered.trail, Answered.isFatal]
  -- an answer is accepted, or left out, or fatal
  by_cases hacc : a.isAccepted = true
  · have hskip : a.isSkipped skip = false := by simp [hskip, hacc]
    simp [hacc, hskip, Work.pure_apply, ApplyReport.append, ApplyReport.ofAnswered]
  · have hskip : a.isSkipped skip = (skip && a.error.isUnsupported) := by simp [hskip, hacc]
    by_cases hlack : (skip && a.error.isUnsupported) = true
    · simp [hacc, hskip, hlack, Work.bind_apply, Work.log_apply, Work.pure_apply,
        ApplyReport.append, ApplyReport.ofAnswered]
    · simp [hacc, hskip, hlack, Work.pure_apply]

/-- **Writes are steps.** Writes made one after the other are the steps of them up to the first
fatal answer. -/
theorem attemptAll_run (skip : Bool) (report : ApplyReport) (ws : List Write) (s : σ) :
    (p.attemptAll skip report ws).run s =
      let answered := p.channel.answered (ws.map Write.planStep) s
      let made := upToFatal skip answered
      ⟨(ApplyReport.conclude skip answered).map report.append,
        p.channel.after (made.map (·.step.request)) s, made.flatMap (Answered.trail skip)⟩ := by
  induction ws generalizing report s with
  | nil =>
    change _ = (⟨.ok (report.append {}), s, []⟩ : Run σ (Except PortError ApplyReport))
    rw [report.append_nil]
    rfl
  | cons w rest ih =>
    have hstep := p.attempt_run skip report w s
    have hresult := congrArg Run.result hstep
    rw [attemptAll]
    simp only [List.map_cons, Channel.answered, upToFatal, Write.planStep_request]
    -- either the first step ends everything, or its report comes before that of the rest
    by_cases hfatal : Answered.isFatal skip ⟨w.planStep, (p.channel.control w.request s).1⟩ = true
    · rw [ApplyReport.conclude_cons_of_fatal hfatal]
      simp only [hfatal, if_true] at hresult ⊢
      rw [Task.run_bind_of_error hresult, hstep]
      simp [Channel.after, Except.map]
    · rw [ApplyReport.conclude_cons hfatal]
      simp only [hfatal, Bool.false_eq_true, if_false] at hresult ⊢
      rw [Task.run_bind_of_ok hresult, hstep]
      simp only [ih, ApplyReport.map_append_map]
      rfl

private theorem run_log_pure {α : Type} (record : Record) (a : α) (s : σ) :
    (do Task.log record; return a : Task σ α).run s = ⟨.ok a, s, [.logged record]⟩ := rfl

/-- **Applying a profile.** The steps of its plan are made up to the first fatal answer; if there is
none, a last record counts the settings of the report. -/
theorem apply_run (profile : Profile) (s : σ) :
    (p.apply profile).run s =
      let skip := profile.skipUnsupported
      let answered := p.channel.answered profile.plan s
      let made := upToFatal skip answered
      let outcome := ApplyReport.conclude skip answered
      ⟨outcome, p.channel.after (made.map (·.step.request)) s,
        made.flatMap (Answered.trail skip) ++ outcome.toOption.toList.map fun report =>
          .logged (.applied report.applied.length report.skipped.length)⟩ := by
  have hall := p.attemptAll_run profile.skipUnsupported {} profile.writes s
  rw [profile.map_planStep_writes] at hall
  have hresult := congrArg Run.result hall
  rw [apply]
  cases houtcome : ApplyReport.conclude profile.skipUnsupported
      (p.channel.answered profile.plan s) with
  | error e =>
    simp only [houtcome] at hall hresult ⊢
    rw [Task.run_bind_of_error hresult, hall]
    simp only [Except.toOption, Option.toList_none, List.map_nil, List.append_nil]
  | ok report =>
    simp only [houtcome] at hall hresult ⊢
    rw [Task.run_bind_of_ok hresult, hall]
    simp only [ApplyReport.nil_append, run_log_pure]
    rfl

theorem apply_result (profile : Profile) (s : σ) :
    ((p.apply profile).run s).result =
      ApplyReport.conclude profile.skipUnsupported (p.channel.answered profile.plan s) := by
  rw [p.apply_run]

theorem apply_state (profile : Profile) (s : σ) :
    ((p.apply profile).run s).state =
      p.channel.after ((upToFatal profile.skipUnsupported
        (p.channel.answered profile.plan s)).map (·.step.request)) s := by
  rw [p.apply_run]

/-- Where the plan is answered the same, the runs differ at most in the states they end in. -/
theorem apply_run_congr {profile : Profile} {s s' : σ}
    (hanswered : p.channel.answered profile.plan s = p.channel.answered profile.plan s')
    (hstate : ((p.apply profile).run s).state = ((p.apply profile).run s').state) :
    (p.apply profile).run s = (p.apply profile).run s' := by
  rw [p.apply_state, p.apply_state] at hstate
  rw [p.apply_run, p.apply_run]
  simp only [hanswered] at hstate ⊢
  rw [hstate]

end Port

/-! ### What is seen of a plan -/

/-- The request and the answer of an event, if it is an exchange. -/
def Event.exchange? : Event → Option (Request × Reply)
  | .exchanged request reply => some (request, reply)
  | .logged _ => none

/-- The requests of a run with their answers, in order. -/
def Run.exchanges {α : Type} (r : Run σ α) : List (Request × Reply) :=
  r.events.filterMap Event.exchange?

theorem Run.map_fst_exchanges {α : Type} (r : Run σ α) : r.exchanges.map Prod.fst = r.requests := by
  rw [exchanges, requests, List.map_filterMap]
  congr 1
  funext event
  cases event <;> rfl

/-- The exchange of a step is the one of its request. -/
private theorem exchanges_trail (skip : Bool) (a : Answered) :
    (a.trail skip).filterMap Event.exchange? = [(a.step.request, a.reply)] := by
  have hlogged (records : List Record) :
      (records.map Event.logged).filterMap Event.exchange? = [] := by
    rw [List.filterMap_map]
    exact List.filterMap_eq_nil_iff.mpr fun _ _ => rfl
  have hrequest :
      (a.step.request.trail a.reply).filterMap Event.exchange? = [(a.step.request, a.reply)] :=
    congrArg _ (hlogged _)
  rw [Answered.trail, List.filterMap_append, hrequest]
  split <;> rfl

/-- The exchanges of applying a profile are those of the steps up to the first fatal answer. -/
theorem exchanges_apply (p : Port σ) (profile : Profile) (s : σ) :
    ((p.apply profile).run s).exchanges =
      (upToFatal profile.skipUnsupported (p.channel.answered profile.plan s)).map
        fun a => (a.step.request, a.reply) := by
  have hcount (outcome : Except PortError ApplyReport) :
      (outcome.toOption.toList.map fun report =>
        Event.logged (.applied report.applied.length report.skipped.length)).filterMap
          Event.exchange? = [] := by
    cases outcome <;> rfl
  rw [p.apply_run, Run.exchanges, List.filterMap_append, hcount, List.append_nil,
    List.filterMap_flatMap]
  simp only [exchanges_trail]
  exact List.map_eq_flatMap.symm

/-- **A profile is its plan.** On any channel, the requests made are those of the plan up to and
including the first whose answer is fatal: neither a success nor, where that is to be skipped, the
complaint that the card lacks the feature. The channel is left in the state these requests lead to.
There is a report exactly if no answer is fatal, and then it names the settings that were written
and those that were left out, in the order of the plan; otherwise the error is the one of the first
fatal answer. -/
theorem apply_follows_plan (c : Channel σ) (profile : Profile) (s : σ) :
    let run := (Port.apply ⟨c⟩ profile).run s
    let answered := c.answered profile.plan s
    let isFatal := Answered.isFatal profile.skipUnsupported
    let made := answered.take (answered.findIdx isFatal + 1)
    run.requests = (profile.plan.map PlanStep.request).take (answered.findIdx isFatal + 1) ∧
    run.exchanges = made.map (fun a => (a.step.request, a.reply)) ∧
    run.state = c.after run.requests s ∧
    ((∃ report, run.result = .ok report) ↔ ∀ a ∈ answered, ¬ isFatal a) ∧
    (∀ report, run.result = .ok report →
      report.applied = (answered.filter Answered.isAccepted).map (·.step.name) ∧
      report.skipped =
        (answered.filter (Answered.isSkipped profile.skipUnsupported)).map (·.step.name)) ∧
    ∀ e, run.result = .error e → ∃ a, answered.find? isFatal = some a ∧ e = a.error := by
  intro run answered isFatal made
  have hmade : upToFatal profile.skipUnsupported answered = made := upToFatal_eq_take _ _
  have hexchanges : run.exchanges = made.map fun a => (a.step.request, a.reply) :=
    hmade ▸ exchanges_apply ⟨c⟩ profile s
  have hrequests : run.requests = made.map (·.step.request) := by
    rw [← run.map_fst_exchanges, hexchanges, List.map_map]
    rfl
  have hstate : run.state = c.after (made.map (·.step.request)) s :=
    hmade ▸ (Port.mk c).apply_state profile s
  have hresult : run.result = ApplyReport.conclude profile.skipUnsupported answered :=
    (Port.mk c).apply_result profile s
  refine ⟨?_, hexchanges, ?_, ?_, ?_, ?_⟩
  -- the steps of the answers are the plan, whatever the answers are
  · have hsteps : made.map (·.step.request) = (made.map Answered.step).map PlanStep.request :=
      List.map_map.symm
    rw [hrequests, hsteps, List.map_take, c.map_step_answered, List.map_take]
  · rw [hrequests]
    exact hstate
  · rw [hresult]
    exact ApplyReport.exists_conclude_eq_ok_iff
  · intro report hreport
    have hreport : report = .ofAnswered profile.skipUnsupported answered :=
      ApplyReport.eq_ofAnswered_of_conclude (hresult ▸ hreport)
    simp only [hreport, ApplyReport.ofAnswered, and_self]
  · intro e he
    exact ApplyReport.find?_of_conclude (hresult ▸ he)

end SerialCard
