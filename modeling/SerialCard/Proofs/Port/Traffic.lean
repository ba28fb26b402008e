import SerialCard.Proofs.Card.ReadBack

/-!
# What reaches a channel

A port touches its channel through requests only, and a call on it makes the requests it was going
to make, in order, until an answer stops it (`call_requests`). So what a recorded channel has seen
after a run of calls are requests of the calls and nothing else (`exists_of_mem_contacts`).

`Operation.layout` says for each operation how many bytes go out with it and how many are expected
back. `Request.IsWellFormed` are the requests that stand for an operation and keep to its layout; on
these a loose card is as good as a faithful one (`Desk.control_of_isWellFormed`). The table of
settings is bound to the operations shape by shape, and no run on it makes any other request
(`calls_wellFormed`).
-/

namespace SerialCard

variable {σ : Type}

/-! ### The requests of a call -/

/-- The request of a use. A setting that cannot be read is not asked for. -/
def Use.requests : Use → List Request
  | get t _ => (t.getCode.map t.request).toList
  | put w => [w.request]

/-- The requests of a snapshot: one for each setting of the table that can be read. -/
def Setting.getRequests : List Request :=
  Setting.all.filterMap fun t => t.getCode.map t.request

/-- The requests a call makes if no answer stops it. -/
def Call.requests (c : Call) : List Request :=
  match c.use?, c with
  | some u, _ => u.requests
  | none, apply profile => profile.plan.map PlanStep.request
  | none, _ => Setting.getRequests

namespace Channel

variable (c : Channel σ)

theorem after_append (first second : List Request) (s : σ) :
    c.after (first ++ second) s = c.after second (c.after first s) := by
  induction first generalizing s with
  | nil => rfl
  | cons q rest ih => exact ih _

/-- A recorded channel has seen the requests that were made. -/
theorem after_recorded (qs : List Request) (s : σ) (seen : List Contact) :
    c.recorded.after qs (s, seen) = (c.after qs s, seen ++ qs.map .request) := by
  induction qs generalizing s seen with
  | nil => exact congrArg (Prod.mk s) (List.append_nil seen).symm
  | cons q rest ih =>
    have hfirst : (c.recorded.control q (s, seen)).2 =
        ((c.control q s).2, seen ++ [.request q]) := rfl
    rw [after, hfirst, ih, List.append_assoc]
    rfl

end Channel

namespace Port

variable (p : Port σ)

/-- The one request of a piece of work is the only one it makes. -/
theorem once_requests {α : Type} (q : Request) (f : Reply → α) (s : σ) :
    (p.once q f s).requests = [q] := by
  have hnotes (records : List Record) :
      (records.map Event.logged).filterMap Event.request? = [] := by
    rw [List.filterMap_map]
    exact List.filterMap_eq_nil_iff.mpr fun _ _ => rfl
  exact congrArg (List.cons q) (hnotes _)

/-- Reading a setting asks for it, if it can be asked for. -/
theorem read_requests (t : Setting) (s : σ) :
    ((p.read t).run s).requests = (t.getCode.map t.request).toList ∧
      ((p.read t).run s).state = p.channel.after (t.getCode.map t.request).toList s := by
  cases hcode : t.getCode with
  | none =>
    rw [p.read_run_of_getCode_eq_none hcode]
    exact ⟨rfl, rfl⟩
  | some code =>
    rw [p.read_run hcode]
    exact ⟨p.once_requests _ _ _, rfl⟩

/-- Reading settings asks for each that can be read, whatever the answers are. -/
theorem readAll_requests (ts : List Setting) (s : σ) :
    (p.readAll ts s).requests = ts.filterMap fun t => t.getCode.map t.request := by
  induction ts generalizing s with
  | nil => rfl
  | cons t rest ih =>
    have hrest : (p.readAll (t :: rest) s).requests =
        ((p.read t).run s).requests ++ (p.readAll rest ((p.read t).run s).state).requests := by
      rw [p.readAll_cons]
      exact List.filterMap_append
    rw [hrest, ih, (p.read_requests t s).1, List.filterMap_cons]
    cases t.getCode.map t.request <;> rfl

/-- Applying a profile makes the requests of its plan, up to the first fatal answer. -/
theorem apply_requests (profile : Profile) (s : σ) :
    let run := (p.apply profile).run s
    run.requests <+: profile.plan.map PlanStep.request ∧
      run.state = p.channel.after run.requests s := by
  intro run
  have hrequests : run.requests = (upToFatal profile.skipUnsupported
      (p.channel.answered profile.plan s)).map (·.step.request) := by
    rw [← run.map_fst_exchanges, exchanges_apply, List.map_map]
    rfl
  have hstate := p.apply_state profile s
  rw [← hrequests] at hstate
  refine ⟨?_, hstate⟩
  have hplan : (p.channel.answered profile.plan s).map (·.step.request) =
      profile.plan.map PlanStep.request := by
    have hsteps := congrArg (List.map PlanStep.request) (p.channel.map_step_answered profile.plan s)
    rwa [List.map_map] at hsteps
  rw [hrequests, upToFatal_eq_take, List.map_take, hplan]
  exact List.take_prefix _ _

/-- Using a setting makes its request. -/
theorem use_requests (u : Use) (s : σ) :
    ((p.use u).run s).requests = u.requests ∧
      ((p.use u).run s).state = p.channel.after u.requests s := by
  cases u with
  | get t present =>
    rw [use, Task.requests_map, Task.state_map]
    exact p.read_requests t s
  | put w =>
    rw [use, Task.requests_map, Task.state_map, write_run]
    exact ⟨p.once_requests _ _ _, rfl⟩

/-- A snapshot asks for each setting of the table that can be read. -/
theorem snapshot_requests (s : σ) :
    (p.snapshot s).requests = Setting.getRequests ∧
      (p.snapshot s).state = p.channel.after Setting.getRequests s := by
  have hreadable : (Setting.all.filter Setting.isReadable).filterMap
      (fun t => t.getCode.map t.request) = Setting.getRequests := rfl
  rw [snapshot, readAll_requests, readAll_state, hreadable]
  exact ⟨rfl, rfl⟩

/-- **A call makes its requests.** They go out in order, all of them unless an answer stops the
call, and the channel is left in the state they lead to. -/
theorem call_requests (c : Call) (s : σ) :
    let run := (p.call c).run s
    run.requests <+: c.requests ∧ run.state = p.channel.after run.requests s := by
  intro run
  cases huse : c.use? with
  | some u =>
    obtain ⟨hrequests, hstate⟩ := p.use_requests u s
    have hc : c.requests = u.requests := by simp only [Call.requests, huse]
    have hrun : run = (p.use u).run s := by
      rw [← p.call_eq_use huse]
    rw [hrun, hc, hrequests]
    exact ⟨List.prefix_rfl, hstate⟩
  | none =>
    cases c with
    | snapshot =>
      obtain ⟨hrequests, hstate⟩ := p.snapshot_requests s
      have hrun : run.requests = (p.snapshot s).requests :=
        (Work.requests_map _ _ _).trans (Work.requests_map _ _ _)
      have hafter : run.state = (p.snapshot s).state := rfl
      rw [hrun, hafter, hrequests]
      exact ⟨List.prefix_rfl, hstate⟩
    | apply profile =>
      have hrun : run.requests = ((p.apply profile).run s).requests :=
        Task.requests_map _ _ _
      have hafter : run.state = ((p.apply profile).run s).state := Task.state_map _ _ _
      rw [hrun, hafter]
      exact p.apply_requests profile s
    | named _ | flag _ | setFlag _ _ | register _ | setRegister _ _ | writeOnly _ _ | mode _
    | enableMode _ _ | disableMode _ | classify _ | read _ => cases huse

/-- Calls start with the first, and go on whatever comes of it. -/
theorem calls_cons (c : Call) (rest : List Call) (s : σ) :
    p.calls (c :: rest) s =
      ⟨((p.call c).run s).result :: (p.calls rest ((p.call c).run s).state).result,
        (p.calls rest ((p.call c).run s).state).state,
        ((p.call c).run s).events ++ (p.calls rest ((p.call c).run s).state).events⟩ := by
  simp only [calls, Work.bind_apply, Work.pure_apply, List.append_nil]

/-- Calls make the requests of each call in turn. -/
theorem calls_requests (cs : List Call) (s : σ) :
    let run := p.calls cs s
    (∀ q ∈ run.requests, ∃ c ∈ cs, q ∈ c.requests) ∧
      run.state = p.channel.after run.requests s := by
  induction cs generalizing s with
  | nil =>
    intro run
    exact ⟨fun q hq => absurd hq List.not_mem_nil, rfl⟩
  | cons c rest ih =>
    intro run
    obtain ⟨hfirst, hstate⟩ := p.call_requests c s
    obtain ⟨hothers, hafter⟩ := ih ((p.call c).run s).state
    have hrequests : run.requests = ((p.call c).run s).requests ++
        (p.calls rest ((p.call c).run s).state).requests :=
      (congrArg Run.requests (p.calls_cons c rest s)).trans List.filterMap_append
    have hlast : run.state = (p.calls rest ((p.call c).run s).state).state := rfl
    refine ⟨fun q hq => ?_, ?_⟩
    · rw [hrequests, List.mem_append] at hq
      rcases hq with hq | hq
      · exact ⟨c, List.mem_cons_self, hfirst.subset hq⟩
      · obtain ⟨c', hc', hq'⟩ := hothers q hq
        exact ⟨c', List.mem_cons_of_mem c hc', hq'⟩
    · rw [hrequests, Channel.after_append, ← hstate]
      exact hafter

end Port

/-! ### Layouts -/

namespace Operation

/-- The number of bytes that go out with an operation, if any do, and the number expected back. -/
def layout : Operation → Option Nat × Nat
  | getRs485 | getEchoCancel | getTermination | getNineBit => (none, 1)
  | getSampleRate | getTxTrigger | getRxTrigger | getFrameLength | getIsochronous
  | getExternalTransmit | getFixedBaudRate | getCardType => (none, 4)
  | enableRs485 | disableRs485 | enableEchoCancel | disableEchoCancel | enableTermination
  | disableTermination | enableNineBit | disableNineBit | disableIsochronous
  | disableExternalTransmit | disableFixedBaudRate => (none, 0)
  | setSampleRate | setTxTrigger | setRxTrigger | setClockRate | setFrameLength
  | enableIsochronous | enableExternalTransmit | enableFixedBaudRate => (some 4, 0)

/-- Whether an operation reads a setting. -/
def isGet : Operation → Bool
  | getRs485 | getEchoCancel | getTermination | getNineBit | getSampleRate | getTxTrigger
  | getRxTrigger | getFrameLength | getIsochronous | getExternalTransmit | getFixedBaudRate
  | getCardType => true
  | _ => false

variable {op : Operation} {t : Setting}

/-- An operation that reads a setting has the layout of its shape. -/
theorem layout_of_reads (h : op.reads? = some t) :
    op.layout = (none, t.size) ∧ op.isGet = true := by
  -- an operation that reads nothing contradicts `h`
  cases op <;> first
    | (cases h; exact ⟨rfl, rfl⟩)
    | cases h

theorem exists_reads_of_isGet (h : op.isGet = true) : ∃ t ∈ Setting.all, op.reads? = some t := by
  cases op <;> first
    | exact ⟨_, by decide, rfl⟩
    | cases h

end Operation

namespace Request

/-- The request stands for an operation and keeps to its layout. -/
def IsWellFormed (q : Request) : Prop :=
  ∃ op, Operation.ofCode? q.code = some op ∧ (q.input.map List.length, q.outputSize) = op.layout

/-- The request stands for an operation that reads a setting. -/
def IsGet (q : Request) : Prop :=
  ∃ op, Operation.ofCode? q.code = some op ∧ op.isGet = true

theorem isWellFormed_of_code {q : Request} {op : Operation} (hcode : op.code = q.code)
    (hlayout : (q.input.map List.length, q.outputSize) = op.layout) : q.IsWellFormed :=
  ⟨op, hcode ▸ op.ofCode?_code, hlayout⟩

end Request

/-- In its layout a flag is enabled without an input and a mode with one, which is all that a loose
card would take otherwise. -/
theorem Operation.looseEffect_of_layout {op : Operation} {q : Request}
    (h : (q.input.map List.length, q.outputSize) = op.layout) : op.looseEffect q = op.effect := by
  have hinput : q.input.map List.length = op.layout.1 := congrArg Prod.fst h
  rw [looseEffect]
  generalize q.input = input at hinput ⊢
  cases input <;> cases op <;> first
    | rfl
    | cases hinput

/-- Only requests that are not well formed tell a loose card from a faithful one. -/
theorem Desk.control_of_isWellFormed {q : Request} (h : q.IsWellFormed) (desk : Desk) :
    let answer := Card.channel.control q desk.card
    Desk.channel.control q desk = (answer.1, { desk with card := answer.2 }) := by
  obtain ⟨op, hop, hlayout⟩ := h
  simp only [Desk.channel, Card.channel, Card.answer, hop, op.looseEffect_of_layout hlayout]

/-- The request for a setting of the table is well formed, and its operation reads the setting. -/
theorem Setting.isWellFormed_request {t : Setting} (h : t ∈ Setting.all) {code : ControlCode}
    (hcode : t.getCode = some code) :
    (t.request code).IsWellFormed ∧ (t.request code).IsGet := by
  obtain ⟨op, hreads, hop⟩ := Setting.exists_reads h hcode
  obtain ⟨hlayout, hget⟩ := Operation.layout_of_reads hreads
  exact ⟨Request.isWellFormed_of_code hop hlayout.symm, op, hop ▸ op.ofCode?_code, hget⟩

/-- The request of a write to the table is well formed. -/
theorem Write.isWellFormed_request {w : Write} (h : w.setting ∈ Setting.all) :
    w.request.IsWellFormed := by
  -- a descriptor filed under another shape would have the layout of that shape
  cases w with
  | flag s on =>
    have h : s = .rs485 ∨ s = .echoCancel ∨ s = .termination ∨ s = .nineBit := by
      simpa [Write.setting, Setting.all] using h
    rcases h with rfl | rfl | rfl | rfl <;> cases on <;>
      exact ⟨_, rfl, rfl⟩
  | register s value =>
    have h : s = .sampleRate ∨ s = .txTrigger ∨ s = .rxTrigger ∨ s = .frameLength := by
      simpa [Write.setting, Setting.all] using h
    rcases h with rfl | rfl | rfl | rfl <;> exact ⟨_, rfl, rfl⟩
  | writeOnly s value =>
    have h : s = .clockRate := by simpa [Write.setting, Setting.all] using h
    subst h
    exact ⟨_, rfl, rfl⟩
  | enable s value =>
    have h : s = .isochronous ∨ s = .externalTransmit ∨ s = .fixedBaudRate := by
      simpa [Write.setting, Setting.all] using h
    rcases h with rfl | rfl | rfl <;> exact ⟨_, rfl, rfl⟩
  | disable s =>
    have h : s = .isochronous ∨ s = .externalTransmit ∨ s = .fixedBaudRate := by
      simpa [Write.setting, Setting.all] using h
    rcases h with rfl | rfl | rfl <;> exact ⟨_, rfl, rfl⟩

/-! ### Calls on the table -/

namespace Call

/-- A call that is about settings of the table only. -/
def OnTable (c : Call) : Prop :=
  ∀ u, c.use? = some u → u.setting ∈ Setting.all

/-- Whether a call only reads: a getter, a read or a snapshot. -/
def isReading (c : Call) : Bool :=
  match c.use?, c with
  | some (.get ..), _ => true
  | none, snapshot => true
  | _, _ => false

end Call

/-- A named accessor is about a setting of the table. -/
theorem Accessor.onTable (a : Accessor) : (Call.named a).OnTable := by
  rintro u hu
  obtain rfl := Option.some.inj hu
  cases a <;> simp [Accessor.use, Use.setting, Write.setting, Setting.all]

/-- What is asked for of the table is well formed, and its operations read. -/
theorem Setting.isWellFormed_of_mem_getRequests {q : Request} (h : q ∈ Setting.getRequests) :
    q.IsWellFormed ∧ q.IsGet := by
  obtain ⟨t, ht, hq⟩ := List.mem_filterMap.mp h
  obtain ⟨code, hcode, rfl⟩ := Option.map_eq_some_iff.mp hq
  exact t.isWellFormed_request ht hcode

/-- The requests of a use of the table are well formed; a use that reads only asks. -/
theorem Use.isWellFormed_of_mem_requests {u : Use} (h : u.setting ∈ Setting.all) {q : Request}
    (hq : q ∈ u.requests) :
    q.IsWellFormed ∧ (∀ t present, u = .get t present → q.IsGet) := by
  cases u with
  | get t present =>
    obtain ⟨code, hcode, rfl⟩ := Option.map_eq_some_iff.mp (Option.mem_toList.mp hq)
    obtain ⟨hformed, hget⟩ := Setting.isWellFormed_request h hcode
    exact ⟨hformed, fun _ _ _ => hget⟩
  | put w =>
    obtain rfl := List.mem_singleton.mp hq
    exact ⟨Write.isWellFormed_request h, fun _ _ hu => by cases hu⟩

/-- The requests of a call on the table are well formed; a call that reads only asks. -/
theorem Call.isWellFormed_of_mem_requests {c : Call} (h : c.OnTable) {q : Request}
    (hq : q ∈ c.requests) : q.IsWellFormed ∧ (c.isReading = true → q.IsGet) := by
  cases huse : c.use? with
  | some u =>
    have hq : q ∈ u.requests := by simpa only [Call.requests, huse] using hq
    obtain ⟨hformed, hget⟩ := Use.isWellFormed_of_mem_requests (h u huse) hq
    refine ⟨hformed, fun hreading => ?_⟩
    cases u with
    | get t present => exact hget t present rfl
    | put w => simp [Call.isReading, huse] at hreading
  | none =>
    cases c with
    | snapshot =>
      obtain ⟨hformed, hget⟩ := Setting.isWellFormed_of_mem_getRequests hq
      exact ⟨hformed, fun _ => hget⟩
    | apply profile =>
      have hq : q ∈ profile.plan.map PlanStep.request := hq
      rw [← profile.map_planStep_writes, List.map_map] at hq
      obtain ⟨w, hw, rfl⟩ := List.mem_map.mp hq
      exact ⟨Write.isWellFormed_request (profile.setting_mem_all hw), fun hreading => by
        cases hreading⟩
    | named _ | flag _ | setFlag _ _ | register _ | setRegister _ _ | writeOnly _ _ | mode _
    | enableMode _ _ | disableMode _ | classify _ | read _ => cases huse

/-! ### Runs -/

/-- What a channel has seen of calls made on it one after the other, starting in a state. -/
def Channel.contacts (c : Channel σ) (calls : List Call) (s : σ) : List Channel.Contact :=
  (Port.calls ⟨c.recorded⟩ calls (s, [])).state.2

/-- What a channel has seen of calls is a request of one of them. -/
theorem Channel.exists_of_mem_contacts (c : Channel σ) (calls : List Call) (s : σ)
    {contact : Contact} (h : contact ∈ c.contacts calls s) :
    ∃ call ∈ calls, ∃ q ∈ call.requests, contact = .request q := by
  obtain ⟨hrequests, hstate⟩ := (Port.mk c.recorded).calls_requests calls (s, [])
  rw [c.after_recorded] at hstate
  rw [contacts, hstate] at h
  obtain ⟨q, hq, rfl⟩ := List.mem_map.mp h
  obtain ⟨call, hcall, hmade⟩ := hrequests q hq
  exact ⟨call, hcall, q, hmade, rfl⟩

/-- **All traffic is well formed.** On any channel, in any state and whatever it answers, calls on
the table of settings reach the channel with requests only. Each of them stands for an operation and
has its layout: the number of bytes sent along and the number expected back. Getters, reads and
snapshots, whenever they are made, only ask. What is asked for is a setting other than the clock
rate, and reading the clock rate does not reach the channel at all. -/
theorem calls_wellFormed (c : Channel σ) (s : σ) (calls : List Call)
    (h : ∀ call ∈ calls, call.OnTable) :
    (∀ contact ∈ c.contacts calls s, ∃ q, contact = .request q ∧ q.IsWellFormed) ∧
    (∀ call ∈ calls, call.isReading = true →
      ∀ s', ∀ contact ∈ c.contacts [call] s', ∃ q, contact = .request q ∧ q.IsGet) ∧
    (∀ q, .request q ∈ c.contacts calls s → q.IsGet →
      ∃ t ∈ Setting.all, t.getCode = some q.code ∧ t ≠ .writeOnly .clockRate) ∧
    ∀ s', c.contacts [.read (.writeOnly .clockRate)] s' = [] := by
  refine ⟨?_, ?_, ?_, fun s' => rfl⟩
  · intro contact hcontact
    obtain ⟨call, hcall, q, hq, rfl⟩ := c.exists_of_mem_contacts calls s hcontact
    exact ⟨q, rfl, (Call.isWellFormed_of_mem_requests (h call hcall) hq).1⟩
  · intro call hcall hreading s' contact hcontact
    obtain ⟨call', hcall', q, hq, rfl⟩ := c.exists_of_mem_contacts [call] s' hcontact
    obtain rfl := List.mem_singleton.mp hcall'
    exact ⟨q, rfl, (Call.isWellFormed_of_mem_requests (h call' hcall) hq).2 hreading⟩
  · rintro q - ⟨op, hop, hget⟩
    obtain ⟨t, ht, hreads⟩ := Operation.exists_reads_of_isGet hget
    -- an operation that reads a setting has the code by which the setting is read
    have hcode : op.code = q.code := Operation.ofCode?_eq_some_iff.mp hop
    have hgetCode : t.getCode = some q.code := hcode ▸ op.getCode_of_reads hreads
    refine ⟨t, ht, hgetCode, ?_⟩
    rintro rfl
    cases hgetCode

/-- A run on an empty card: a setting is written and read, a profile turns a mode on, and a snapshot
is taken. -/
theorem calls_wellFormed_mixed :
    let calls : List Call :=
      [.named (.setTxTrigger 32), .read (.flag .rs485),
        .apply { isochronous := some ⟨true, 3⟩, clockRate := some 18432000 }, .snapshot]
    (∀ call ∈ calls, call.OnTable) ∧ (Card.channel.contacts calls {}).length = 16 ∧
      ∀ contact ∈ Card.channel.contacts calls {}, ∃ q, contact = .request q ∧ q.IsWellFormed := by
  intro calls
  have hcalls : ∀ call ∈ calls, call.OnTable := by
    simp only [calls, List.forall_mem_cons, List.not_mem_nil, false_implies, implies_true, and_true]
    refine ⟨Accessor.onTable _, ?_, ?_, ?_⟩
    · rintro u hu
      obtain rfl := Option.some.inj hu
      decide
    · intro u hu
      cases hu
    · intro u hu
      cases hu
  exact ⟨hcalls, by decide +kernel, (calls_wellFormed Card.channel {} calls hcalls).1⟩

end SerialCard
