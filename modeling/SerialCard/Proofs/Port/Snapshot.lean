import SerialCard.Proofs.Card.Cells
import SerialCard.Proofs.Port.Access

/-!
# Snapshots

A snapshot reads every setting of the table that can be read, one after the other, and goes on
whatever becomes of a read. So there is an entry for each of these settings, and it says what
reading the setting gives in the state that the requests before it have led to
(`Port.snapshot_result`).

An entry is made from the answer to one request, and no two settings are asked for by the same code
(`Setting.nodup_getCode_readable`). On channels that answer by the request alone, what is answered
to one code shows in one entry at most, and which entry it is depends on the code alone.
-/

namespace SerialCard

variable {σ τ : Type}

/-! ### The settings of a snapshot -/

namespace Setting

/-- The settings of the table that can be read. -/
def readable : List Setting :=
  all.filter isReadable

theorem getRequests_eq : getRequests = readable.filterMap fun t => t.getCode.map t.request := rfl

theorem mem_all_of_mem_readable {t : Setting} (h : t ∈ readable) : t ∈ all :=
  List.mem_of_mem_filter h

/-- No two settings are read through the same code. -/
theorem nodup_getCode_readable : (readable.map getCode).Nodup := by
  decide

/-- The request for a setting has the code that reads it. -/
theorem map_code_getRequests : getRequests.map (fun q => some q.code) = readable.map getCode := rfl

/-- The place among the settings of a snapshot that a code reads. If the code reads none of them, it
is the place after the last. -/
def placeOf (code : ControlCode) : Nat :=
  readable.findIdx fun t => t.getCode = some code

/-- A setting that is read through a code stands at the place of the code. -/
theorem placeOf_eq {t : Setting} {code : ControlCode} {i : Nat} (h : readable[i]? = some t)
    (hcode : t.getCode = some code) : placeOf code = i := by
  obtain ⟨hi, rfl⟩ := List.getElem?_eq_some_iff.mp h
  refine (List.findIdx_eq hi).mpr ⟨decide_eq_true hcode, fun j hj => ?_⟩
  -- a setting further up that is read through the code as well would be a second one
  refine decide_eq_false fun hother => ?_
  have hcodes : (readable.map getCode)[j]? = (readable.map getCode)[i]? := by
    rw [List.getElem?_map, List.getElem?_map, h, List.getElem?_eq_getElem (hj.trans hi)]
    exact congrArg some (hother.trans hcode.symm)
  have hlength : j < (readable.map getCode).length := by
    rw [List.length_map]
    exact hj.trans hi
  exact hj.ne ((List.getElem?_inj hlength nodup_getCode_readable).mp hcodes)

end Setting

/-! ### One read after the other -/

namespace Port

variable (p : Port σ)

/-- Reading settings gives, for each of them, what reading it gives in the state that the requests
for the settings before it have led to. -/
theorem readAll_result {ts : List Setting} (hts : ∀ t ∈ ts, t.isReadable) (s : σ) :
    (p.readAll ts s).result = ts.mapIdx fun i t =>
      let before := (ts.filterMap fun t => t.getCode.map t.request).take i
      (t.name, ((p.read t).run (p.channel.after before s)).result) := by
  induction ts generalizing s with
  | nil => rfl
  | cons t rest ih =>
    obtain ⟨code, hcode⟩ := Option.isSome_iff_exists.mp (hts t List.mem_cons_self)
    have hrequests : (t :: rest).filterMap (fun t => t.getCode.map t.request) =
        t.request code :: rest.filterMap fun t => t.getCode.map t.request :=
      List.filterMap_cons_some (by rw [hcode]; rfl)
    have hstate : ((p.read t).run s).state = (p.channel.control (t.request code) s).2 := by
      rw [p.read_run hcode]
      rfl
    have hrest := ih fun u hu => hts u (List.mem_cons_of_mem t hu)
    simp only [p.readAll_cons, hstate, hrest, List.mapIdx_cons, hrequests, List.take_zero,
      List.take_succ_cons, Channel.after]

/-- The entries of a snapshot are the reads of the settings, in order. -/
theorem snapshot_result (s : σ) :
    (p.snapshot s).result = Setting.readable.mapIdx fun i t =>
      (t.name, ((p.read t).run (p.channel.after (Setting.getRequests.take i) s)).result) :=
  p.readAll_result (fun _ ht => List.of_mem_filter ht) s

/-- A call for a snapshot asks for each setting that can be read. -/
theorem contacts_snapshot (c : Channel σ) (s : σ) :
    c.contacts [.snapshot] s = Setting.getRequests.map .request := by
  have hcall : ((Port.call ⟨c⟩ .snapshot).run s).requests = (Port.snapshot ⟨c⟩ s).requests :=
    (Work.requests_map _ _ _).trans (Work.requests_map _ _ _)
  have hcalls : (Port.calls ⟨c⟩ [.snapshot] s).requests =
      ((Port.call ⟨c⟩ .snapshot).run s).requests :=
    congrArg Run.requests (Port.calls_concat ⟨c⟩ [] .snapshot s)
  rw [c.contacts_eq, hcalls, hcall, (Port.snapshot_requests _ s).1]

end Port

/-! ### Channels that differ in one answer -/

/-- Channels that answer by the request alone, and alike unless the request has a given code. -/
def Channel.AgreeExcept (c : Channel σ) (c' : Channel τ) (code : ControlCode) : Prop :=
  ∀ q : Request, q.code ≠ code → ∀ s s', (c.control q s).1 = (c'.control q s').1

section AgreeExcept

variable {c : Channel σ} {c' : Channel τ} {code : ControlCode}

/-- A setting that is not read through the code reads the same on both channels. -/
theorem Channel.AgreeExcept.result_read (h : c.AgreeExcept c' code) {t : Setting}
    (ht : t.getCode ≠ some code) (s : σ) (s' : τ) :
    ((Port.read ⟨c⟩ t).run s).result = ((Port.read ⟨c'⟩ t).run s').result := by
  cases hcode : t.getCode with
  | none => rw [Port.read_run_of_getCode_eq_none _ hcode, Port.read_run_of_getCode_eq_none _ hcode]
  | some own =>
    have hown : own ≠ code := fun hsame => ht (hsame ▸ hcode)
    rw [Port.read_run _ hcode, Port.read_run _ hcode]
    exact congrArg t.ofReply (h (t.request own) hown s s')

/-- The snapshots have the same entries but for the place of the code. -/
theorem Channel.AgreeExcept.getElem?_snapshot (h : c.AgreeExcept c' code) (s : σ) (s' : τ) {i : Nat}
    (hi : i ≠ Setting.placeOf code) :
    (Port.snapshot ⟨c⟩ s).result[i]? = (Port.snapshot ⟨c'⟩ s').result[i]? := by
  rw [Port.snapshot_result, Port.snapshot_result, List.getElem?_mapIdx, List.getElem?_mapIdx]
  cases ht : Setting.readable[i]? with
  | none => rfl
  | some t =>
    have hcode : t.getCode ≠ some code := fun hcode => hi (Setting.placeOf_eq ht hcode).symm
    exact congrArg (fun result => some (t.name, result)) (h.result_read hcode _ _)

end AgreeExcept

/-! ### Snapshots of a card -/

namespace Card

variable {card : Card DeviceFault} {clock : Bool}

/-- A card stays as it is when settings of the table are read. -/
theorem after_reads {ts : List Setting} (hts : ∀ t ∈ ts, t ∈ Setting.all)
    (hidle : card.queued = []) :
    (keeping clock).after (ts.filterMap fun t => t.getCode.map t.request) card = card := by
  induction ts with
  | nil => rfl
  | cons t rest ih =>
    have hrest := ih fun u hu => hts u (List.mem_cons_of_mem t hu)
    cases hcode : t.getCode with
    | none => rwa [List.filterMap_cons_none (by rw [hcode]; rfl)]
    | some code =>
      rw [List.filterMap_cons_some (by rw [hcode]; rfl), Channel.after,
        keeping_control_read (hts t List.mem_cons_self) hcode hidle]
      exact hrest

end Card

/-- **A snapshot is complete, and its entries do not depend on each other.** Whatever a channel
answers, a snapshot makes one request for each setting that can be read, in the order of the table
and each with a code of its own. It has one entry for each, with the name of the setting and with
what reading the setting gives in the state reached so far. Two channels that answer by the request
alone and differ at most in what they answer to one code have the same snapshots, but for the entry
of the setting that is read through this code. A card stays as it is. -/
theorem snapshot_entries_independent (c : Channel σ) (s : σ) :
    let run := Port.snapshot ⟨c⟩ s
    c.contacts [.snapshot] s = Setting.getRequests.map .request ∧
    (Setting.getRequests.map (·.code)).Nodup ∧
    run.state = c.after Setting.getRequests s ∧
    (run.result = Setting.readable.mapIdx fun i t =>
      (t.name, ((Port.read ⟨c⟩ t).run (c.after (Setting.getRequests.take i) s)).result)) ∧
    (∀ {τ : Type} (c' : Channel τ) (s' : τ) (code : ControlCode), c.AgreeExcept c' code →
      ∀ i ≠ Setting.placeOf code, run.result[i]? = (Port.snapshot ⟨c'⟩ s').result[i]?) ∧
    ∀ (clock : Bool) (cells : Operation → Option Bytes)
      (refusals : ControlCode → Option DeviceFault),
      let card : Card DeviceFault := { cells, refusals }
      (Port.snapshot ⟨Card.keeping clock⟩ card).state = card := by
  intro run
  refine ⟨Port.contacts_snapshot c s, ?_, (Port.snapshot_requests _ s).2, Port.snapshot_result _ s,
    fun c' s' code h i hi => h.getElem?_snapshot s s' hi, fun clock cells refusals => ?_⟩
  · have hcodes := Setting.nodup_getCode_readable
    rw [← Setting.map_code_getRequests] at hcodes
    exact List.Nodup.of_map some (by rwa [List.map_map])
  · intro card
    rw [(Port.snapshot_requests _ card).2, Setting.getRequests_eq]
    exact Card.after_reads (fun t => Setting.mem_all_of_mem_readable) rfl

/-- A channel that answers every request with zeros, and another that does not know the sampling
rate: their snapshots differ in the fifth entry, and in no other. -/
theorem snapshot_entries_independent_rate :
    let zeros : Channel Unit := { control := fun q s => (.ok (List.replicate q.outputSize 0), s) }
    let code := Operation.getSampleRate.code
    let lacking : Channel Unit :=
      { control := fun q s =>
          if q.code = code then (.error .unsupported, s) else zeros.control q s }
    zeros.AgreeExcept lacking code ∧
      (∀ i ≠ 4, (Port.snapshot ⟨zeros⟩ ()).result[i]? = (Port.snapshot ⟨lacking⟩ ()).result[i]?) ∧
      (Port.snapshot ⟨zeros⟩ ()).result[4]? = some ("sample_rate", .ok (.word 0)) ∧
      (Port.snapshot ⟨lacking⟩ ()).result[4]? =
        some ("sample_rate", .error (.device code .unsupported)) := by
  intro zeros code lacking
  have hagree : zeros.AgreeExcept lacking code := fun q hq s s' => by
    simp only [lacking, if_neg hq, zeros]
  have hplace : Setting.placeOf code = 4 := by decide
  have hentries := (snapshot_entries_independent zeros ()).2.2.2.2.1 lacking () code hagree
  rw [hplace] at hentries
  exact ⟨hagree, hentries, rfl, rfl⟩

end SerialCard
