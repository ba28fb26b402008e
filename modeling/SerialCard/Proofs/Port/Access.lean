import SerialCard.Proofs.Port.Congruence

/-!
# What comes of an access

An access is a call about one setting: a getter, a setter, or a read, by name or by a descriptor of
the caller's own. It makes one request, and only a setting that cannot be read is not asked for.
What comes of it is fixed by the answer to that request, by the rules of `Use.outcome`: a fault is
handed on with the code of the request, an answer of another length than expected is an error that
says so, and any other answer has a value.

Nothing is kept from one call to the next: after any other calls, an access still makes its own
request and comes to what the answer to it says (`access_exchanges_once`). The second complaint
about the length, which a query would make if the bytes of an exchange had no value, is never made
(`Port.queriesSettled`).
-/

namespace SerialCard

variable {σ : Type}

namespace Use

/-- What as many bytes as expected come to. Nothing is expected of a write. -/
def value : Use → Bytes → Except PortError Answer
  | get t present, bytes => (t.meaning bytes).map present
  | put _, _ => .ok .done

/-- What a use comes to by the answer to its request. -/
def outcome (u : Use) (q : Request) : Reply → Except PortError Answer
  | .error fault => .error (.device q.code fault)
  | .ok bytes =>
    if bytes.length = q.outputSize then u.value bytes
    else .error (.device q.code (.lengthMismatch q.outputSize bytes.length))

/-- A use has one request, unless it reads what cannot be read. -/
theorem requests_eq (u : Use) :
    (∃ q, u.requests = [q]) ∨ ∃ w present, u = .get (.writeOnly w) present ∧ u.requests = [] := by
  cases u with
  | put w => exact .inl ⟨w.request, rfl⟩
  | get t present =>
    cases t with
    | writeOnly w => exact .inr ⟨w, present, rfl, rfl⟩
    | flag _ | register _ | mode _ | classification _ => exact .inl ⟨_, rfl⟩

/-- What is made of an answer follows the rules. -/
theorem ofReply_eq_outcome {u : Use} {q : Request} (hq : q ∈ u.requests) (reply : Reply) :
    u.ofReply reply = u.outcome q reply := by
  cases u with
  | get t present =>
    obtain ⟨code, hcode, rfl⟩ := Option.map_eq_some_iff.mp (Option.mem_toList.mp hq)
    cases reply with
    | error fault => rw [ofReply, t.ofReply_error hcode, outcome]; rfl
    | ok bytes =>
      rw [ofReply, t.ofReply_ok hcode, outcome]
      exact apply_ite (Except.map present) _ _ _
  | put w =>
    obtain rfl := List.mem_singleton.mp hq
    cases reply with
    | error fault => rfl
    | ok bytes =>
      rw [ofReply, Request.confirm, Request.judge, outcome]
      split <;> rfl

end Use

/-! ### One call after others -/

/-- A recorded channel does as it does unrecorded, and notes the requests. -/
theorem Channel.congruence_recorded (c : Channel σ) :
    (Port.mk c.recorded).Congruence (Port.mk c) fun _ work work' => ∀ s seen,
      work (s, seen) = ⟨(work' s).result,
        ((work' s).state, seen ++ (work' s).requests.map .request), (work' s).events⟩ where
  result a s seen := by simp [Work.pure_apply, Run.requests]
  andThen hfirst hnext s seen := by
    simp only [Work.bind_apply, hfirst, hnext]
    simp [Run.requests, List.append_assoc]
  request q f s seen := by
    rw [Port.once_requests]
    rfl
  skipped name error s seen := by simp [Work.log_apply, Run.requests, Event.request?]
  applied written omitted s seen := by simp [Work.log_apply, Run.requests, Event.request?]

/-- What a channel has seen of calls are the requests they made. -/
theorem Channel.contacts_eq (c : Channel σ) (cs : List Call) (s : σ) :
    c.contacts cs s = (Port.calls ⟨c⟩ cs s).requests.map .request := by
  rw [contacts, c.congruence_recorded.calls cs s [], List.nil_append]

namespace Port

variable (p : Port σ)

/-- Calls after others go on where they have left off. -/
theorem calls_append (first second : List Call) (s : σ) :
    p.calls (first ++ second) s =
      let earlier := p.calls first s
      let later := p.calls second earlier.state
      ⟨earlier.result ++ later.result, later.state, earlier.events ++ later.events⟩ := by
  induction first generalizing s with
  | nil => rfl
  | cons c rest ih => simp only [List.cons_append, p.calls_cons, ih, List.append_assoc]

/-- A call after others goes on where they have left off. -/
theorem calls_concat (before : List Call) (call : Call) (s : σ) :
    p.calls (before ++ [call]) s =
      let earlier := p.calls before s
      let last := (p.call call).run earlier.state
      ⟨earlier.result ++ [last.result], last.state, earlier.events ++ last.events⟩ := by
  have hnil (s : σ) : p.calls [] s = ⟨[], s, []⟩ := rfl
  simp only [p.calls_append, p.calls_cons, hnil, List.append_nil]

/-- An access is its one request, and comes to what the answer says. -/
theorem call_run_of_use {call : Call} {u : Use} (hu : call.use? = some u) {q : Request}
    (hq : q ∈ u.requests) : (p.call call).run = p.once q (u.outcome q) := by
  rw [p.call_eq_use hu, p.use_run hq, funext (Use.ofReply_eq_outcome hq)]

/-! ### Queries -/

/-- Whenever the exchange of a query for a value succeeds, the bytes have a value, and the query
gives it. -/
def QueriesSettled (α : Type) [Wire α] : Prop :=
  ∀ (code : ControlCode) (s : σ) (bytes : Bytes),
    ((p.exchange code none (Wire.size α)).run s).result = .ok bytes →
      ∃ a, Wire.decode bytes = some a ∧ ((p.query α code).run s).result = .ok a

theorem queriesSettled (α : Type) [Wire α] [LawfulWire α] : p.QueriesSettled α := by
  intro code s bytes h
  rw [p.exchange_run] at h
  rw [p.query_run]
  simp only [once] at h ⊢
  cases hreply : (p.channel.control ⟨code, none, Wire.size α⟩ s).1 with
  | error fault =>
    rw [hreply] at h
    cases h
  | ok answer =>
    rw [hreply, Request.judge] at h
    split at h
    · next hlength =>
      obtain rfl := Except.ok.inj h
      obtain ⟨a, ha⟩ := Option.isSome_iff_exists.mp
        ((LawfulWire.isSome_decode_iff (α := α) answer).mpr hlength)
      exact ⟨a, ha, by rw [Wire.ofReply, ha]⟩
    · cases h

end Port

/-- A family is not known exactly if its number is above three. -/
theorem CardKind.ofOrdinal_eq_error_iff {raw : UInt32} {e : PortError} :
    CardKind.ofOrdinal raw = .error e ↔ 3 < raw ∧ e = .unrecognizedCard raw := by
  have hunknown : CardKind.ofOrdinal? raw = none ↔ 3 < raw := by
    unfold ofOrdinal?
    grind
  cases hkind : CardKind.ofOrdinal? raw with
  | none => simp only [ofOrdinal, hkind, Except.error.injEq, hunknown.mp hkind, true_and, eq_comm]
  | some kind =>
    have hlow : ¬ 3 < raw := mt hunknown.mpr (by simp [hkind])
    simp only [ofOrdinal, hkind, reduceCtorEq, hlow, false_and]

/-- Classifying a card fails for want of a family exactly if the answer is a number above three. -/
theorem Port.classify_unrecognized_iff (p : Port σ) (t : Classification) (v : UInt32) (s : σ) :
    ((p.classify t).run s).result = .error (.unrecognizedCard v) ↔
      ∃ bytes, (p.channel.control ⟨t.get, none, wordSize⟩ s).1 = .ok bytes ∧
        bytes.length = wordSize ∧ v = spelled bytes ∧ 3 < v := by
  rw [p.classify_run]
  simp only [once]
  cases (p.channel.control ⟨t.get, none, wordSize⟩ s).1 with
  | error fault => simp [Wire.ofReply, Except.bind]
  | ok bytes =>
    rw [Wire.ofReply_ok (Wire.decode_word bytes)]
    have hsize : Wire.size UInt32 = wordSize := rfl
    by_cases hlength : bytes.length = wordSize
    · rw [hsize, if_pos hlength]
      change CardKind.ofOrdinal (spelled bytes) = .error (.unrecognizedCard v) ↔ _
      rw [CardKind.ofOrdinal_eq_error_iff]
      constructor
      · rintro ⟨hhigh, hv⟩
        obtain rfl := PortError.unrecognizedCard.inj hv
        exact ⟨bytes, rfl, hlength, rfl, hhigh⟩
      · rintro ⟨_, hbytes, -, rfl, hhigh⟩
        obtain rfl := Except.ok.inj hbytes
        exact ⟨hhigh, rfl⟩
    · simp [hsize, hlength, Except.bind]

/-! ### Accesses -/

/-- **An access is one exchange.** On any channel, in any state and after any other calls, an access
reaches the channel with its one request, leaves it in the state that this request leads to, and
comes to what the answer says: a fault, or a wrong length, with the code of the request, or else the
value of the bytes. Only reading what cannot be read makes no request, and fails. A card is of no
known family exactly if the number it answers with is above three. Where the exchange of a query
succeeds, for a value of any type, so does the query; it never finds the length wrong a second
time. -/
theorem access_exchanges_once (c : Channel σ) (s : σ) (before : List Call) {call : Call} {u : Use}
    (hu : call.use? = some u) :
    let earlier := Port.calls ⟨c⟩ before s
    let run := Port.calls ⟨c⟩ (before ++ [call]) s
    ((∃ q, u.requests = [q] ∧
        c.contacts (before ++ [call]) s = c.contacts before s ++ [.request q] ∧
        run.state = (c.control q earlier.state).2 ∧
        run.result = earlier.result ++ [u.outcome q (c.control q earlier.state).1]) ∨
      ∃ w present, u = .get (.writeOnly w) present ∧
        c.contacts (before ++ [call]) s = c.contacts before s ∧
        run.state = earlier.state ∧
        run.result = earlier.result ++ [.error (.unreadable w.name)]) ∧
    (∀ t v s', ((Port.classify ⟨c⟩ t).run s').result = .error (.unrecognizedCard v) ↔
      ∃ bytes, (c.control ⟨t.get, none, wordSize⟩ s').1 = .ok bytes ∧
        bytes.length = wordSize ∧ v = spelled bytes ∧ 3 < v) ∧
    Port.QueriesSettled ⟨c⟩ Bool ∧ Port.QueriesSettled ⟨c⟩ UInt32 ∧
    Port.QueriesSettled ⟨c⟩ Int32 := by
  intro earlier run
  let last := (Port.call ⟨c⟩ call).run earlier.state
  have hrun : run = ⟨earlier.result ++ [last.result], last.state, earlier.events ++ last.events⟩ :=
    (Port.mk c).calls_concat before call s
  have hcontacts : c.contacts (before ++ [call]) s =
      c.contacts before s ++ last.requests.map .request := by
    rw [c.contacts_eq, c.contacts_eq, ← List.map_append]
    change run.requests.map _ = _
    rw [hrun, Run.requests, List.filterMap_append]
    rfl
  refine ⟨?_, Port.classify_unrecognized_iff ⟨c⟩, Port.queriesSettled _ _,
    Port.queriesSettled _ _, Port.queriesSettled _ _⟩
  rw [hcontacts, hrun]
  rcases u.requests_eq with ⟨q, hq⟩ | ⟨w, present, rfl, hnone⟩
  · have hlast : last = (Port.mk c).once q (u.outcome q) earlier.state :=
      congrFun ((Port.mk c).call_run_of_use hu (hq ▸ List.mem_singleton_self q)) _
    rw [hlast, Port.once_requests]
    exact .inl ⟨q, hq, rfl, rfl, rfl⟩
  · have hlast : last = ⟨.error (.unreadable w.name), earlier.state, []⟩ := by
      have hfails := (Port.mk c).use_run_of_requests_eq_nil hnone
      rw [← Port.call_eq_use _ hu] at hfails
      exact congrFun hfails _
    rw [hlast]
    exact .inr ⟨w, present, rfl, List.append_nil _, rfl, rfl⟩

/-- A card that gives two bytes for the sampling rate: after a write, which it takes, reading the
rate is one more request and ends with a wrong length. -/
theorem access_exchanges_once_short :
    let card : Card DeviceFault :=
      { cells := fun op => if op = .getSampleRate then some [16, 0] else none }
    let before : List Call := [.named (.setTxTrigger 32)]
    let call : Call := .named .sampleRate
    call.use? = some (.get (.register .sampleRate) .typed) ∧
      Card.channel.contacts (before ++ [call]) card =
        Card.channel.contacts before card ++ [.request ⟨Operation.getSampleRate.code, none, 4⟩] ∧
      (Port.calls ⟨Card.channel⟩ (before ++ [call]) card).result =
        [.ok .done, .error (.device Operation.getSampleRate.code (.lengthMismatch 4 2))] := by
  intro card before call
  have huse : call.use? = some (.get (.register .sampleRate) .typed) := rfl
  refine ⟨huse, ?_⟩
  rcases (access_exchanges_once Card.channel card before huse).1 with
    ⟨q, hq, hcontacts, -, hresult⟩ | ⟨w, present, hnone, -⟩
  · obtain rfl := (List.singleton_inj.mp hq).symm
    exact ⟨hcontacts, hresult⟩
  · cases hnone

end SerialCard
