import Mathlib.Data.List.TakeWhile
import SerialCard.Proofs.Card.Cells
import SerialCard.Proofs.Card.Refinement

/-!
# Applied profiles read back

After a profile was applied to a faithful card, each setting whose write succeeded reads as the
profile has it, and every other setting reads as before, however the application ended
(`apply_reads_back`). Which writes succeed is told from the plan of the profile and from what the
card refuses (`Profile.accepted`): the rest are not part of the plan, are refused and left out, or
come no earlier than the one at which the application fails.

The writes of a profile are about different settings of the table, so on the store that the card
shows they do not get in each other's way: a cell holds what the one write of its setting put there,
or what it held at first.
-/

namespace SerialCard

/-! ### The values of a profile -/

/-- The number a mode reads as when it is as a profile wants it. -/
def ModeConfig.reading (wanted : ModeConfig) : SettingValue :=
  .mode (if wanted.enabled then wanted.value else -1)

/-- A setting with its value, if it is to have one. -/
def wantedEntry {α : Type} (t : Setting) (value : α → SettingValue) (wanted : Option α) :
    List (Setting × SettingValue) :=
  (wanted.map fun a => (t, value a)).toList

/-- The values that settings read as if a profile is in force. -/
def Profile.values (profile : Profile) : List (Setting × SettingValue) :=
  wantedEntry (.register .sampleRate) .word profile.sampleRate
    ++ wantedEntry (.flag .rs485) .flag profile.rs485
    ++ wantedEntry (.flag .echoCancel) .flag profile.echoCancel
    ++ wantedEntry (.flag .termination) .flag profile.termination
    ++ wantedEntry (.flag .nineBit) .flag profile.nineBit
    ++ wantedEntry (.register .txTrigger) .word profile.txTrigger
    ++ wantedEntry (.register .rxTrigger) .word profile.rxTrigger
    ++ wantedEntry (.mode .fixedBaudRate) ModeConfig.reading profile.fixedBaudRate
    ++ wantedEntry (.mode .isochronous) ModeConfig.reading profile.isochronous
    ++ wantedEntry (.mode .externalTransmit) ModeConfig.reading profile.externalTransmit
    ++ wantedEntry (.register .frameLength) .word profile.frameLength

/-- The setting of a write with the value that is left in its cell. -/
def Write.entry? (w : Write) : Option (Setting × SettingValue) :=
  w.value?.map fun v => (w.setting, v)

private theorem entries_flag (s : Flag) (wanted : Option Bool) :
    (wanted.map (Write.flag s)).toList.filterMap Write.entry? =
      wantedEntry (.flag s) .flag wanted := by
  cases wanted <;> rfl

private theorem entries_register (s : Register) (wanted : Option UInt32) :
    (wanted.map (Write.register s)).toList.filterMap Write.entry? =
      wantedEntry (.register s) .word wanted := by
  cases wanted <;> rfl

private theorem entries_writeOnly (s : WriteOnly) (wanted : Option UInt32) :
    (wanted.map (Write.writeOnly s)).toList.filterMap Write.entry? = [] := by
  cases wanted <;> rfl

private theorem entries_ofMode (s : Mode) (wanted : Option ModeConfig) :
    (wanted.map (Write.ofMode s)).toList.filterMap Write.entry? =
      wantedEntry (.mode s) ModeConfig.reading wanted := by
  rcases wanted with _ | ⟨_ | _, value⟩ <;> rfl

namespace Profile

variable (profile : Profile)

/-- The writes of a profile write its values. -/
theorem entries_writes : profile.writes.filterMap Write.entry? = profile.values := by
  simp only [writes, List.filterMap_append, entries_flag, entries_register, entries_writeOnly,
    entries_ofMode, List.nil_append]
  rfl

end Profile

/-! ### The steps that succeed -/

namespace Profile

variable (profile : Profile) (refusals : ControlCode → Option DeviceFault)

/-- A step lets a profile go on: its code is not refused, or it is for want of the feature and the
profile leaves such settings out. -/
def passes (step : PlanStep) : Bool :=
  match refusals step.request.code with
  | none => true
  | some .unsupported => profile.skipUnsupported
  | some _ => false

theorem passes_of_isNone {step : PlanStep} (h : (refusals step.request.code).isNone = true) :
    profile.passes refusals step = true := by
  rw [passes, Option.isNone_iff_eq_none.mp h]

/-- The steps of a profile that succeed on a card that refuses some codes: their own codes are not
refused, and every step before them lets the profile go on. -/
def accepted : List PlanStep :=
  (profile.plan.takeWhile (profile.passes refusals)).filter fun step =>
    (refusals step.request.code).isNone

/-- The steps of a profile that the card refuses. -/
def refused : List PlanStep :=
  profile.plan.filter fun step => (refusals step.request.code).isSome

end Profile

/-! ### Writes on a store -/

namespace Store

/-- Makes writes one after the other, whatever becomes of them. -/
def putAll (store : Store) (ws : List Write) : Store :=
  ws.foldl (fun s w => (s.put w).2) store

variable {store : Store}

theorem get_of_accepted {t : Setting} {code : ControlCode} (hcode : t.getCode = some code)
    (h : store.refusals code = none) : store.get t = store.cell t := by
  simp only [get, hcode, h]

theorem putAll_refusals (ws : List Write) : (store.putAll ws).refusals = store.refusals := by
  induction ws generalizing store with
  | nil => rfl
  | cons w rest ih =>
    rw [putAll, List.foldl_cons]
    exact ih.trans (store.put_refusals w)

theorem put_of_accepted {w : Write} (h : store.refusals w.request.code = none) :
    (store.put w).2 = store.take w := by
  simp only [put, h]

theorem put_of_refused {w : Write} (h : store.refusals w.request.code ≠ none) :
    (store.put w).2 = store := by
  obtain ⟨fault, hfault⟩ := Option.ne_none_iff_exists'.mp h
  simp only [put, hfault]

/-- A write leaves the cells of other settings alone. -/
theorem put_cell_of_ne {w : Write} {t : Setting} (h : w.setting ≠ t) :
    (store.put w).2.cell t = store.cell t := by
  by_cases hrefused : store.refusals w.request.code = none
  · rw [put_of_accepted hrefused, take]
    cases w.value? with
    | none => rfl
    | some v => exact Function.update_of_ne (Ne.symm h) _ _
  · rw [put_of_refused hrefused]

/-- A cell keeps its content if every write to its setting is refused. -/
theorem putAll_cell_of_refused {t : Setting} {ws : List Write}
    (h : ∀ w ∈ ws, w.setting = t → store.refusals w.request.code ≠ none) :
    (store.putAll ws).cell t = store.cell t := by
  induction ws generalizing store with
  | nil => rfl
  | cons w rest ih =>
    have hrest : ∀ w' ∈ rest, w'.setting = t →
        (store.put w).2.refusals w'.request.code ≠ none := fun w' hw' ht => by
      rw [store.put_refusals]
      exact h w' (List.mem_cons_of_mem _ hw') ht
    have hfirst : (store.put w).2.cell t = store.cell t := by
      by_cases ht : w.setting = t
      · rw [put_of_refused (h w List.mem_cons_self ht)]
      · exact put_cell_of_ne ht
    rw [putAll, List.foldl_cons]
    exact (ih hrest).trans hfirst

/-- A cell holds what an accepted write put there if its setting is written once only. -/
theorem putAll_cell_of_accepted {ws : List Write} (hnodup : (ws.map Write.setting).Nodup)
    {w : Write} (hw : w ∈ ws) (haccepted : store.refusals w.request.code = none)
    {v : SettingValue} (hv : w.value? = some v) :
    (store.putAll ws).cell w.setting = .ok v := by
  induction ws generalizing store with
  | nil => cases hw
  | cons first rest ih =>
    rw [List.map_cons, List.nodup_cons] at hnodup
    rw [putAll, List.foldl_cons]
    rcases List.mem_cons.mp hw with rfl | hw
    · -- the write itself: the rest is about other settings
      have hrest : ∀ w' ∈ rest, w'.setting = w.setting →
          (store.put w).2.refusals w'.request.code ≠ none := fun w' hw' ht =>
        absurd (ht ▸ List.mem_map_of_mem hw') hnodup.1
      refine (putAll_cell_of_refused hrest).trans ?_
      rw [put_of_accepted haccepted]
      simp only [take, hv, set, Function.update_self]
    · refine ih hnodup.2 hw ?_
      rw [store.put_refusals]
      exact haccepted

end Store

/-! ### Applying a profile to a card -/

/-- No two settings of the table have the same name. -/
theorem Setting.eq_of_name {t u : Setting} (ht : t ∈ Setting.all) (hu : u ∈ Setting.all)
    (h : t.name = u.name) : t = u :=
  List.inj_on_of_nodup_map (by decide : (Setting.all.map Setting.name).Nodup) ht hu h

namespace Card

variable {card : Card DeviceFault}

/-- The requests of writes leave a card behind that shows what the writes do to its store. -/
theorem store_after_writes {ws : List Write} (h : ∀ w ∈ ws, w.setting ∈ Setting.all)
    (hidle : card.queued = []) :
    (channel.after (ws.map Write.request) card).store = card.store.putAll ws ∧
      (channel.after (ws.map Write.request) card).queued = [] := by
  induction ws generalizing card with
  | nil => exact ⟨rfl, hidle⟩
  | cons w rest ih =>
    obtain ⟨-, hstore, hqueued⟩ := control_write (h w List.mem_cons_self) hidle
    obtain ⟨hstores, hqueueds⟩ := ih (fun w' hw' => h w' (List.mem_cons_of_mem w hw')) hqueued
    rw [hstore] at hstores
    exact ⟨hstores, hqueueds⟩

/-- Applying a profile to a card makes its writes, up to the first that is fatal. -/
theorem apply_run (profile : Profile) (hidle : card.queued = []) :
    let made := card.made profile
    let run := (Port.apply ⟨channel⟩ profile).run card
    run.result = ApplyReport.conclude profile.skipUnsupported (card.judged profile) ∧
      run.exchanges = made.map (fun w => (w.request, card.store.verdict w.request.code)) ∧
      run.state.store = card.store.putAll made ∧ run.state.queued = [] := by
  have hanswered : (keeping false).answered profile.plan card = card.judged profile :=
    answered_plan profile hidle
  rw [keeping_false] at hanswered
  have hresult := Port.apply_result ⟨channel⟩ profile card
  have hexchanges := exchanges_apply ⟨channel⟩ profile card
  have hstate := Port.apply_state ⟨channel⟩ profile card
  simp only [hanswered] at hresult
  simp only [hanswered, upToFatal_judged, List.map_map] at hexchanges hstate
  refine ⟨hresult, hexchanges, ?_⟩
  rw [hstate]
  exact store_after_writes (setting_mem_all_of_mem_made profile) hidle

/-! ### Which writes succeed -/

/-- Where nothing that stops is kept, what is kept up to the first that stops comes before it. -/
private theorem filter_take_findIdx {α : Type} {stops keeps : α → Bool}
    (h : ∀ a, stops a = true → ¬ keeps a = true) (l : List α) :
    (l.take (l.findIdx stops + 1)).filter keeps =
      (l.takeWhile fun a => !stops a).filter keeps := by
  induction l with
  | nil => rfl
  | cons a rest ih =>
    rw [List.findIdx_cons, List.take_succ_cons, List.takeWhile_cons]
    cases hstops : stops a with
    | true => exact List.filter_cons_of_neg (h a hstops)
    | false =>
      rw [cond_false, List.filter_cons, ih, Bool.not_false, if_pos rfl, List.filter_cons]

section Accepted

variable (profile : Profile) (w : Write)

/-- An answer is fatal if the step does not let the profile go on. -/
theorem isFatal_verdict :
    Answered.isFatal profile.skipUnsupported ⟨w.planStep, card.store.verdict w.request.code⟩ =
      !profile.passes card.refusals w.planStep := by
  simp only [Profile.passes, Write.planStep_request, Store.verdict, store]
  cases card.refusals w.request.code with
  | none => rfl
  | some fault => cases fault <;> rfl

theorem isAccepted_verdict :
    Answered.isAccepted ⟨w.planStep, card.store.verdict w.request.code⟩ =
      (card.refusals w.request.code).isNone := by
  simp only [Store.verdict, store]
  cases card.refusals w.request.code <;> rfl

/-- A refused step that lets the profile go on is left out. -/
theorem isSkipped_verdict (h : profile.passes card.refusals w.planStep = true) :
    Answered.isSkipped profile.skipUnsupported ⟨w.planStep, card.store.verdict w.request.code⟩ =
      (card.refusals w.request.code).isSome := by
  simp only [Profile.passes, Write.planStep_request, Store.verdict, store] at h ⊢
  cases hrefused : card.refusals w.request.code with
  | none => rfl
  | some fault =>
    rw [hrefused] at h
    cases fault with
    | unsupported => exact h
    | _ => cases h

/-- The writes that are made and not refused are the steps that succeed. -/
theorem map_planStep_made :
    ((card.made profile).filter fun w => (card.refusals w.request.code).isNone).map
      Write.planStep = profile.accepted card.refusals := by
  have hstops (w : Write) (h : (!profile.passes card.refusals w.planStep) = true) :
      ¬ (card.refusals w.request.code).isNone = true := fun hnone => by
    rw [profile.passes_of_isNone card.refusals hnone] at h
    cases h
  have hmade := filter_take_findIdx hstops profile.writes
  simp only [Bool.not_not] at hmade
  rw [made, judged, List.findIdx_map]
  simp only [Function.comp_def, isFatal_verdict, hmade, Profile.accepted,
    ← profile.map_planStep_writes, List.takeWhile_map, List.filter_map, Write.planStep_request]

/-- A setting has a step that succeeds if a write to it is made and not refused. -/
theorem mem_accepted_iff {t : Setting} (ht : t ∈ Setting.all) :
    t.name ∈ (profile.accepted card.refusals).map PlanStep.name ↔
      ∃ w ∈ card.made profile, w.setting = t ∧ card.refusals w.request.code = none := by
  rw [← map_planStep_made, List.map_map, List.mem_map]
  simp only [List.mem_filter, Option.isNone_iff_eq_none, Function.comp_apply, Write.planStep_name,
    and_assoc]
  refine exists_congr fun w => and_congr_right fun hw => ?_
  rw [and_comm, ← w.setting_name]
  refine and_congr_left fun _ => ⟨fun h => ?_, fun h => h ▸ rfl⟩
  exact Setting.eq_of_name (setting_mem_all_of_mem_made profile w hw) ht h

/-- On an idle card the steps that succeed are those whose requests are answered with a success, and
those that are reported as applied if there is a report. -/
theorem apply_accepted (hidle : card.queued = []) :
    let run := (Port.apply ⟨channel⟩ profile).run card
    (run.exchanges.filter fun made => made.2.isOk).map Prod.fst =
        (profile.accepted card.refusals).map PlanStep.request ∧
      ((∃ report, run.result = .ok report) ↔
        ∀ step ∈ profile.plan, profile.passes card.refusals step = true) ∧
      ∀ report, run.result = .ok report →
        report.applied = (profile.accepted card.refusals).map PlanStep.name ∧
          report.skipped = (profile.refused card.refusals).map PlanStep.name := by
  intro run
  obtain ⟨hresult, hexchanges, -⟩ := apply_run profile hidle
  have hresult : run.result = _ := hresult
  have hexchanges : run.exchanges = _ := hexchanges
  have hpasses : (∃ report, run.result = .ok report) ↔
      ∀ step ∈ profile.plan, profile.passes card.refusals step = true := by
    rw [hresult, ApplyReport.exists_conclude_eq_ok_iff, judged, ← profile.map_planStep_writes,
      List.forall_mem_map, List.forall_mem_map]
    simp only [isFatal_verdict, Bool.not_eq_true', Bool.not_eq_false]
  refine ⟨?_, hpasses, fun report hreport => ?_⟩
  · have hisOk (w : Write) : (card.store.verdict w.request.code).isOk =
        (card.refusals w.request.code).isNone := by
      simp only [Store.verdict, store]
      cases card.refusals w.request.code <;> rfl
    rw [hexchanges, List.filter_map, List.map_map, ← map_planStep_made, List.map_map]
    simp only [Function.comp_def, hisOk, Write.planStep_request]
  · have hall := hpasses.mp ⟨report, hreport⟩
    rw [hresult] at hreport
    have hwrites : ∀ w ∈ profile.writes, profile.passes card.refusals w.planStep = true := by
      rw [← profile.map_planStep_writes] at hall
      exact List.forall_mem_map.mp hall
    have hskipped := List.filter_congr fun w hw => isSkipped_verdict profile w (hwrites w hw)
    rw [ApplyReport.eq_ofAnswered_of_conclude hreport, Profile.accepted, Profile.refused,
      List.takeWhile_eq_self_iff.mpr hall, ApplyReport.ofAnswered, judged,
      ← profile.map_planStep_writes]
    simp only [List.filter_map, List.map_map, Function.comp_def, isAccepted_verdict, hskipped,
      Write.planStep_request, Write.planStep_name, and_self]

end Accepted

end Card

/-! ### What a card shows of a setting -/

namespace Setting

/-- What a list has under the name of a setting is what it has for this setting. -/
theorem lookup_map_name {α : Type} {ts : List Setting} {t : Setting} (ht : t ∈ ts)
    (hname : ∀ u ∈ ts, t.name = u.name → t = u) (f : Setting → α) :
    (ts.map fun u => (u.name, f u)).lookup t.name = some (f t) := by
  induction ts with
  | nil => cases ht
  | cons u rest ih =>
    by_cases hu : t.name = u.name
    · obtain rfl := hname u List.mem_cons_self hu
      exact List.lookup_cons_self
    · have hrest : t ∈ rest := (List.mem_cons.mp ht).resolve_left fun htu => hu (htu ▸ rfl)
      rw [List.map_cons, List.lookup_cons, beq_false_of_ne hu]
      exact ih hrest fun u' hu' => hname u' (List.mem_cons_of_mem u hu')

end Setting

namespace Card

variable {card : Card DeviceFault}

/-- However a setting of a card is read, the same comes out: by `read`, by any other call that reads
it, and in a snapshot. -/
structure Shows (card : Card DeviceFault) (t : Setting)
    (reading : Except PortError SettingValue) : Prop where
  read : ((Port.read ⟨channel⟩ t).run card).result = reading
  call (c : Call) (present : SettingValue → Answer) :
    c.use? = some (.get t present) →
      ((Port.call ⟨channel⟩ c).run card).result = reading.map present
  snapshot : (Port.snapshot ⟨channel⟩ card).result.lookup t.name = some reading

/-- Reading settings one after the other gives what the store of the card holds for each. -/
theorem readAll_run {ts : List Setting} (h : ∀ t ∈ ts, t ∈ Setting.all)
    (hidle : card.queued = []) :
    (Port.readAll ⟨channel⟩ ts card).result = ts.map fun t => (t.name, card.store.get t) := by
  induction ts with
  | nil => rfl
  | cons t rest ih =>
    obtain ⟨hresult, hstate⟩ := read_run (h t List.mem_cons_self) hidle
    have hrest := ih fun t' ht' => h t' (List.mem_cons_of_mem t ht')
    simp only [Port.readAll_cons, hstate, hresult, hrest, List.map_cons]

/-- An idle card shows of a readable setting what its store holds. -/
theorem shows_get {t : Setting} (ht : t ∈ Setting.all) {code : ControlCode}
    (hcode : t.getCode = some code) (hidle : card.queued = []) :
    card.Shows t (card.store.get t) := by
  refine ⟨(read_run ht hidle).1, fun c present hc => ?_, ?_⟩
  · rw [Port.call_eq_use _ hc]
    exact (use_run (u := .get t present) ht hidle).1
  · have hreadable : t ∈ Setting.all.filter Setting.isReadable :=
      List.mem_filter.mpr ⟨ht, Option.isSome_iff_exists.mpr ⟨code, hcode⟩⟩
    have hall : ∀ u ∈ Setting.all.filter Setting.isReadable, u ∈ Setting.all :=
      fun u hu => (List.mem_filter.mp hu).1
    rw [Port.snapshot, readAll_run hall hidle]
    exact Setting.lookup_map_name hreadable (fun u hu => Setting.eq_of_name ht (hall u hu)) _

end Card

/-- **Applied profiles read back.** Take a card with any bytes in its cells and any codes refused,
apply a profile, and let a setting be readable, its code not being refused. If the write of the
setting is a step of the plan that succeeds, which is one that is not refused and comes after none
that ends the application, then the profile has a value for the setting, and this is what it reads
as; otherwise it reads as it did before. It makes no difference how the setting is read.

The run is in keeping with this. The requests that are answered with a success are those of the
steps that succeed; there is a report exactly if no step ends the application, and it names the
steps that succeed and those that are left out. -/
theorem apply_reads_back (cells : Operation → Option Bytes)
    (refusals : ControlCode → Option DeviceFault) (profile : Profile) {t : Setting}
    (ht : t ∈ Setting.all) {code : ControlCode} (hcode : t.getCode = some code)
    (hread : refusals code = none) :
    let card : Card DeviceFault := { cells, refusals }
    let run := (Port.apply ⟨Card.channel⟩ profile).run card
    let succeeded := t.name ∈ (profile.accepted refusals).map PlanStep.name
    (∃ before, card.Shows t before ∧
      (succeeded → ∃ v, (t, v) ∈ profile.values ∧ run.state.Shows t (.ok v)) ∧
      (¬ succeeded → run.state.Shows t before)) ∧
    (run.exchanges.filter fun made => made.2.isOk).map Prod.fst =
      (profile.accepted refusals).map PlanStep.request ∧
    ((∃ report, run.result = .ok report) ↔
      ∀ step ∈ profile.plan, profile.passes refusals step = true) ∧
    ∀ report, run.result = .ok report →
      report.applied = (profile.accepted refusals).map PlanStep.name ∧
        report.skipped = (profile.refused refusals).map PlanStep.name := by
  intro card run succeeded
  have hidle : card.queued = [] := rfl
  obtain ⟨-, -, hstore, hqueued⟩ := Card.apply_run profile hidle
  have hsucceeded : succeeded ↔
      ∃ w ∈ card.made profile, w.setting = t ∧ refusals w.request.code = none :=
    @Card.mem_accepted_iff card profile t ht
  -- the code of the setting is not refused, so reading gives the content of the cell
  have hbefore : card.store.get t = card.store.cell t := Store.get_of_accepted hcode hread
  have hafter : run.state.store.get t = (card.store.putAll (card.made profile)).cell t := by
    rw [hstore]
    refine Store.get_of_accepted hcode ?_
    rw [Store.putAll_refusals]
    exact hread
  have hshows := Card.shows_get ht hcode hqueued
  refine ⟨⟨_, Card.shows_get ht hcode hidle, fun h => ?_, fun h => ?_⟩,
    Card.apply_accepted profile hidle⟩
  · obtain ⟨w, hw, rfl, haccepted⟩ := hsucceeded.mp h
    obtain ⟨v, hv⟩ := w.exists_value hcode
    -- no other write is about the same setting
    have hnodup : ((card.made profile).map Write.setting).Nodup :=
      profile.nodup_setting_writes.sublist ((List.take_sublist _ _).map _)
    refine ⟨v, ?_, ?_⟩
    · rw [← profile.entries_writes, List.mem_filterMap]
      refine ⟨w, List.mem_of_mem_take hw, ?_⟩
      rw [Write.entry?, hv]
      rfl
    · rw [hafter, Store.putAll_cell_of_accepted hnodup hw haccepted hv] at hshows
      exact hshows
  · rw [hafter, Store.putAll_cell_of_refused, ← hbefore] at hshows
    · exact hshows
    · exact fun w hw hset hrefused => h (hsucceeded.mpr ⟨w, hw, hset, hrefused⟩)

/-- A card without a receive trigger, and a profile that sets it before the length of frames. If the
trigger is left out, the length reads as the profile has it; if not, the profile ends there, and the
length reads as before, like the trigger itself. -/
theorem apply_reads_back_halfway :
    let refusals : ControlCode → Option DeviceFault := fun code =>
      if code = Operation.setRxTrigger.code then some .unsupported else none
    let profile (skip : Bool) : Profile :=
      { skipUnsupported := skip, rxTrigger := some 5, frameLength := some 9 }
    let run (skip : Bool) := (Port.apply ⟨Card.channel⟩ (profile skip)).run { refusals }
    (run true).state.Shows (.register .frameLength) (.ok (.word 9)) ∧
      ∀ s ∈ [Register.rxTrigger, Register.frameLength],
        (run false).state.Shows (.register s) (.ok (.word 0)) := by
  intro refusals profile run
  constructor
  · obtain ⟨⟨_, -, hyes, -⟩, -⟩ :=
      apply_reads_back (fun _ => none) refusals (profile true) (t := .register .frameLength)
        (by decide) rfl rfl
    have haccepted : (profile true).accepted refusals =
        [⟨"frame_length", Operation.setFrameLength.code, some [9, 0, 0, 0], 0⟩] := rfl
    obtain ⟨v, hv, hshows⟩ := hyes (haccepted ▸ List.mem_cons_self)
    have hvalues : (profile true).values =
        [(.register .rxTrigger, .word 5), (.register .frameLength, .word 9)] := rfl
    obtain rfl : v = .word 9 := by
      simpa [hvalues, Register.rxTrigger, Register.frameLength] using hv
    exact hshows
  · intro s hs
    have hregister : s = .rxTrigger ∨ s = .frameLength := by simpa using hs
    -- nothing succeeds, and both registers of the card were empty
    have haccepted : (profile false).accepted refusals = [] := rfl
    have htable : .register s ∈ Setting.all := by
      rcases hregister with rfl | rfl <;> decide
    have hread : refusals s.get = none := by
      rcases hregister with rfl | rfl <;> rfl
    have hempty : ((Port.read ⟨Card.channel⟩ (.register s)).run { refusals }).result =
        .ok (.word 0) := by
      rcases hregister with rfl | rfl <;> rfl
    obtain ⟨⟨before, hbefore, -, hno⟩, -⟩ :=
      apply_reads_back (fun _ => none) refusals (profile false) htable rfl hread
    have hshows := hno (haccepted ▸ List.not_mem_nil)
    rwa [← hbefore.read, hempty] at hshows

end SerialCard
