import SerialCard.Profile
import SerialCard.Proofs.Wire

/-!
# One request per access

`Port.once q f` is the work of one request: it sends `q`, notes what comes of it, and takes its
result from the answer by `f`. Every access to a port is work of this form. The request is fixed by
the setting or the write, before anything is known of the channel, and the result is fixed by the
answer:

* `exchange_run`, `command_run` and `query_run` for the three ways of asking,
* `write_run` for the writes of a profile, with `Write.request`,
* `read_run` for the settings that can be read, with `Setting.request` and `Setting.ofReply`.

What a piece of work does on any channel follows from these equations alone, and no later proof
opens an access again.
-/

namespace SerialCard

variable {σ α β : Type}

/-! ### What an answer comes to -/

namespace Request

/-- The bytes of an answer, if they are as many as expected. -/
def judge (q : Request) : Reply → Except PortError Bytes
  | .error fault => .error (.device q.code fault)
  | .ok bytes =>
    if bytes.length = q.outputSize then .ok bytes
    else .error (.device q.code (.lengthMismatch q.outputSize bytes.length))

/-- What is noted of an answer: a fault, or a wrong length. -/
def notes (q : Request) : Reply → List Record
  | .error fault => [.rejected q.code fault]
  | .ok bytes =>
    if bytes.length = q.outputSize then [] else [.wrongLength q.code bytes.length q.outputSize]

/-- What happens when a request is made: it is logged, it is answered, the answer is noted. -/
def trail (q : Request) (reply : Reply) : List Event :=
  .logged (.sent q) :: .exchanged q reply :: (q.notes reply).map .logged

/-- The records among these events are that of the request and the notes. -/
theorem filterMap_trail (q : Request) (reply : Reply) :
    (q.trail reply).filterMap Event.record? = .sent q :: q.notes reply := by
  have hnotes : ((q.notes reply).map Event.logged).filterMap Event.record? = q.notes reply := by
    rw [List.filterMap_map]
    exact List.filterMap_some
  exact congrArg (List.cons (.sent q)) hnotes

/-- Whether the answer to a request for nothing is a success. -/
def confirm (q : Request) (reply : Reply) : Except PortError Unit :=
  (q.judge reply).map fun _ => ()

end Request

/-- The value in an answer. -/
def Wire.ofReply (α : Type) [Wire α] (code : ControlCode) : Reply → Except PortError α
  | .error fault => .error (.device code fault)
  | .ok bytes =>
    match Wire.decode bytes with
    | some a => .ok a
    | none => .error (.device code (.lengthMismatch (Wire.size α) bytes.length))

/-- An answer of some bytes has a value if their number is right. -/
theorem Wire.ofReply_ok {α : Type} [Wire α] {code : ControlCode} {bytes : Bytes} {a : α}
    (h : Wire.decode bytes = if bytes.length = Wire.size α then some a else none) :
    Wire.ofReply α code (.ok bytes) =
      if bytes.length = Wire.size α then .ok a
      else .error (.device code (.lengthMismatch (Wire.size α) bytes.length)) := by
  by_cases hlen : bytes.length = Wire.size α
  · rw [if_pos hlen] at h ⊢
    simp only [Wire.ofReply, h]
  · rw [if_neg hlen] at h ⊢
    simp only [Wire.ofReply, h]

/-- What the answer to the request for a setting comes to. -/
def Setting.ofReply : Setting → Reply → Except PortError SettingValue
  | .flag s, reply => (Wire.ofReply Bool s.get reply).map .flag
  | .register s, reply => (Wire.ofReply UInt32 s.get reply).map .word
  | .writeOnly s, _ => .error (.unreadable s.name)
  | .mode s, reply => (Wire.ofReply Int32 s.get reply).map .mode
  | .classification s, reply =>
    ((Wire.ofReply UInt32 s.get reply).bind CardKind.ofOrdinal).map .card

/-- The number of bytes a setting is read as. -/
def Setting.size : Setting → Nat
  | .flag _ => flagSize
  | _ => wordSize

/-- The request that reads a setting through a code. -/
def Setting.request (s : Setting) (code : ControlCode) : Request :=
  ⟨code, none, s.size⟩

/-- The request that makes a write. -/
def Write.request : Write → Request
  | .flag s on => ⟨if on then s.enable else s.disable, none, 0⟩
  | .register s value => ⟨s.set, some (Wire.encode value), 0⟩
  | .writeOnly s value => ⟨s.set, some (Wire.encode value), 0⟩
  | .enable s value => ⟨s.enable, some (Wire.encode value), 0⟩
  | .disable s => ⟨s.disable, none, 0⟩

theorem Write.request_outputSize (w : Write) : w.request.outputSize = 0 := by
  cases w <;> rfl

/-- The state a channel is in after a list of requests. -/
def Channel.after (c : Channel σ) : List Request → σ → σ
  | [], s => s
  | q :: rest, s => after c rest (c.control q s).2

namespace Port

variable (p : Port σ)

/-- The work of one request, with the result taken from the answer. -/
def once (q : Request) (f : Reply → α) : Work σ α := fun s =>
  let answer := p.channel.control q s
  ⟨f answer.1, answer.2, q.trail answer.1⟩

/-! ### Work that goes on after a request -/

private theorem log_bind (record : Record) (k : Unit → Work σ α) (s : σ) :
    (Work.log record >>= k) s =
      ⟨(k () s).result, (k () s).state, .logged record :: (k () s).events⟩ := rfl

private theorem ask_bind (q : Request) (k : Reply → Work σ α) (s : σ) :
    (p.ask q >>= k) s =
      let answer := p.channel.control q s
      let rest := k answer.1 answer.2
      ⟨rest.result, rest.state, .exchanged q answer.1 :: rest.events⟩ := rfl

/-- Work that does nothing more only changes the result. -/
private theorem once_bind {q : Request} {f : Reply → α} {k : α → Work σ β} {g : Reply → β}
    (h : ∀ reply, k (f reply) = pure (g reply)) : p.once q f >>= k = p.once q g := by
  funext s
  simp only [Work.bind_apply, once, h, Work.pure_apply, List.append_nil]

theorem map_once (q : Request) (f : Reply → α) (g : α → β) :
    g <$> p.once q f = p.once q fun reply => g (f reply) :=
  p.once_bind fun _ => rfl

/-! ### The three ways of asking -/

/-- An exchange is one request. -/
theorem exchange_run (code : ControlCode) (input : Option Bytes) (expected : Nat) :
    (p.exchange code input expected).run =
      p.once ⟨code, input, expected⟩ (Request.judge ⟨code, input, expected⟩) := by
  funext s
  simp only [exchange, ExceptT.run_mk, log_bind, ask_bind, once]
  rcases p.channel.control ⟨code, input, expected⟩ s with ⟨_ | bytes, after⟩
  · rfl
  · by_cases hlen : bytes.length = expected
    · simp only [Request.judge, Request.trail, Request.notes, if_pos hlen, Work.pure_apply,
        List.map_nil]
    · simp only [Request.judge, Request.trail, Request.notes, if_neg hlen, Work.pure_apply,
        log_bind, List.map_cons, List.map_nil]

/-- A command is one request that expects nothing back. -/
theorem command_run (code : ControlCode) (input : Option Bytes) :
    (p.command code input).run = p.once ⟨code, input, 0⟩ (Request.confirm ⟨code, input, 0⟩) := by
  rw [command, ExceptT.run_bind, exchange_run]
  refine p.once_bind fun reply => ?_
  rw [Request.confirm]
  cases Request.judge ⟨code, input, 0⟩ reply <;> rfl

/-- A query is one request without input. That an answer of the right length has no value does not
happen, since the wire forms are lawful. -/
theorem query_run [Wire α] [LawfulWire α] (code : ControlCode) :
    (p.query α code).run = p.once ⟨code, none, Wire.size α⟩ (Wire.ofReply α code) := by
  rw [query, ExceptT.run_bind, exchange_run]
  refine p.once_bind fun reply => ?_
  rcases reply with fault | bytes
  · rfl
  · have hsome := LawfulWire.isSome_decode_iff (α := α) bytes
    by_cases hlen : bytes.length = Wire.size α
    · obtain ⟨a, ha⟩ := Option.isSome_iff_exists.mp (hsome.mpr hlen)
      simp only [Request.judge, if_pos hlen, Wire.ofReply, ha]
      rfl
    · have hnone := Option.not_isSome_iff_eq_none.mp (mt hsome.mp hlen)
      simp only [Request.judge, if_neg hlen, Wire.ofReply, hnone]

/-- A query whose value is wrapped up is still one request. -/
theorem map_query_run [Wire α] [LawfulWire α] (code : ControlCode) (f : α → β) :
    (f <$> p.query α code).run =
      p.once ⟨code, none, Wire.size α⟩ fun reply => (Wire.ofReply α code reply).map f := by
  rw [ExceptT.run_map, query_run, map_once]

/-- Classifying a card is one request; the number it answers with may name no family. -/
theorem classify_run (s : Classification) :
    (p.classify s).run =
      p.once ⟨s.get, none, wordSize⟩ fun reply =>
        (Wire.ofReply UInt32 s.get reply).bind CardKind.ofOrdinal := by
  rw [classify, ExceptT.run_bind, query_run]
  refine p.once_bind fun reply => ?_
  rcases Wire.ofReply UInt32 s.get reply with e | raw
  · rfl
  · simp only [Except.bind]
    cases CardKind.ofOrdinal raw <;> rfl

/-! ### Writes and reads -/

/-- A write is one request. -/
theorem write_run (w : Write) : (p.write w).run = p.once w.request w.request.confirm := by
  cases w <;> exact p.command_run _ _

/-- Reading a setting that can be read is one request. -/
theorem read_run {t : Setting} {code : ControlCode} (h : t.getCode = some code) :
    (p.read t).run = p.once (t.request code) t.ofReply := by
  cases t with
  | writeOnly s => exact absurd h (by simp [Setting.getCode])
  | flag s =>
    obtain rfl := Option.some.inj h
    exact p.map_query_run s.get _
  | register s =>
    obtain rfl := Option.some.inj h
    exact p.map_query_run s.get _
  | mode s =>
    obtain rfl := Option.some.inj h
    exact p.map_query_run s.get _
  | classification s =>
    obtain rfl := Option.some.inj h
    change (SettingValue.card <$> p.classify s).run = _
    rw [ExceptT.run_map, classify_run, map_once]
    rfl

/-- Reading a setting that cannot be read asks for nothing. -/
theorem read_run_of_getCode_eq_none {t : Setting} (h : t.getCode = none) (s : σ) :
    (p.read t).run s = ⟨.error (.unreadable t.name), s, []⟩ := by
  cases t with
  | writeOnly w => rfl
  | flag _ | register _ | mode _ | classification _ => exact absurd h (by simp [Setting.getCode])

/-- Reading settings starts with the first, and goes on whatever comes of it. -/
theorem readAll_cons (t : Setting) (rest : List Setting) (s : σ) :
    p.readAll (t :: rest) s =
      ⟨(t.name, ((p.read t).run s).result) :: (p.readAll rest ((p.read t).run s).state).result,
        (p.readAll rest ((p.read t).run s).state).state,
        ((p.read t).run s).events ++ (p.readAll rest ((p.read t).run s).state).events⟩ := by
  simp only [readAll, Work.bind_apply, Work.pure_apply, List.append_nil]

/-- Reading settings makes a request for each that can be read, whatever the answers are. -/
theorem readAll_state (ts : List Setting) (s : σ) :
    (p.readAll ts s).state = p.channel.after (ts.filterMap fun t => t.getCode.map t.request) s := by
  induction ts generalizing s with
  | nil => rfl
  | cons t rest ih =>
    simp only [p.readAll_cons, ih]
    cases hcode : t.getCode with
    | none =>
      rw [p.read_run_of_getCode_eq_none hcode, List.filterMap_cons_none (by rw [hcode]; rfl)]
    | some code =>
      rw [p.read_run hcode, List.filterMap_cons_some (by rw [hcode]; rfl)]
      rfl

/-- Closing a port is closing its channel. -/
theorem close_run (s : σ) :
    p.close.run s =
      ⟨(p.channel.close s).result.mapError .transport, (p.channel.close s).state,
        (p.channel.close s).events⟩ := by
  cases hresult : (p.channel.close s).result with
  | error e =>
    rw [close, ExceptT.run_mk, Work.bind_of_result _ hresult]
    simp only [Work.pure_apply, List.append_nil]
    rfl
  | ok u =>
    rw [close, ExceptT.run_mk, Work.bind_of_result _ hresult]
    simp only [Work.pure_apply, List.append_nil]
    rfl

end Port

end SerialCard
