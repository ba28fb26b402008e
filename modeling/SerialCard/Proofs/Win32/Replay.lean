import SerialCard.Proofs.Win32.Reaction

/-!
# Replaying a driver

A port that is open on a system is a port on a channel with no system behind it: `replaying` holds a
list of reactions and answers each request from the next. `calls_replayed` says so for any run of
calls. Every request is one call that sends its code (`ControlCall.Carries`), and the reactions of
the driver to these calls, replayed, lead to the same results, the same records and the same
requests. What is proved of ports on all channels therefore holds on every system.
-/

namespace SerialCard

/-! ### The size of a request -/

/-- The requests of a write and of a reading of any setting, of the table or not, are small. -/
theorem Use.size_of_mem_requests {u : Use} {q : Request} (hq : q ∈ u.requests) :
    q.inputSize ≤ 4 ∧ q.outputSize ≤ 4 := by
  cases u with
  | get t present =>
    obtain ⟨code, -, rfl⟩ := Option.map_eq_some_iff.mp (Option.mem_toList.mp hq)
    refine ⟨Nat.zero_le 4, ?_⟩
    cases t with
    | flag _ => exact Nat.le_of_ble_eq_true rfl
    | _ => exact Nat.le_refl 4
  | put w =>
    obtain rfl := List.mem_singleton.mp hq
    refine ⟨?_, w.request_outputSize.trans_le (Nat.zero_le 4)⟩
    cases w with
    | flag _ _ | disable _ => exact Nat.zero_le 4
    | register _ _ | writeOnly _ _ | enable _ _ => exact Nat.le_refl 4

theorem Call.size_of_mem_requests {c : Call} {q : Request} (hq : q ∈ c.requests) :
    q.inputSize ≤ 4 ∧ q.outputSize ≤ 4 := by
  cases huse : c.use? with
  | some u =>
    have hq : q ∈ u.requests := by simpa only [Call.requests, huse] using hq
    exact Use.size_of_mem_requests hq
  | none =>
    cases c with
    | snapshot =>
      obtain ⟨t, -, hq⟩ := List.mem_filterMap.mp hq
      exact Use.size_of_mem_requests (u := .get t .typed) (Option.mem_toList.mpr hq)
    | apply profile =>
      have hq : q ∈ profile.plan.map PlanStep.request := hq
      rw [← profile.map_planStep_writes, List.map_map] at hq
      obtain ⟨w, -, rfl⟩ := List.mem_map.mp hq
      exact Use.size_of_mem_requests (u := .put w) List.mem_cons_self
    | named _ | flag _ | setFlag _ _ | register _ | setRegister _ _ | writeOnly _ _ | mode _
    | enableMode _ _ | disableMode _ | classify _ | read _ => cases huse

namespace Win32

variable {σ : Type}

/-! ### Requests and calls -/

/-- A call through a handle carries a request: its code, its input with the exact length, and a
buffer of exactly the length of the answer. What is empty is not passed. -/
structure ControlCall.Carries (call : ControlCall) (handle : Handle) (q : Request) : Prop where
  handle : call.handle = handle
  code : call.code = q.code
  input : call.input = q.input
  inputSize : call.inputSize.toNat = q.inputSize
  output : call.output = true ↔ q.outputSize ≠ 0
  outputSize : call.outputSize.toNat = q.outputSize
  overlapped : call.overlapped = false

/-- The call of a small request carries it. -/
theorem ComPort.carries_controlCall (port : ComPort) {q : Request}
    (h : q.inputSize ≤ 4 ∧ q.outputSize ≤ 4) : (port.controlCall q).Carries port.handle q where
  handle := rfl
  code := rfl
  input := rfl
  inputSize := UInt32.toNat_ofNat_of_lt' (by have := h.1; simp only [UInt32.size]; omega)
  output := bne_iff_ne
  outputSize := UInt32.toNat_ofNat_of_lt' (by have := h.2; simp only [UInt32.size]; omega)
  overlapped := rfl

/-- The calls of small requests carry them, in order. -/
theorem System.forall₂_attempts (sys : System σ) (port : ComPort) {qs : List Request}
    (h : ∀ q ∈ qs, q.inputSize ≤ 4 ∧ q.outputSize ≤ 4) (s : σ) :
    List.Forall₂ (fun a q => a.call.Carries port.handle q)
      (sys.attempts (qs.map port.controlCall) s) qs := by
  induction qs generalizing s with
  | nil => exact .nil
  | cons q rest ih =>
    exact .cons (port.carries_controlCall (h q List.mem_cons_self))
      (ih (fun q' hq' => h q' (List.mem_cons_of_mem q hq')) _)

/-! ### Replays -/

/-- A channel with no system behind it, which answers each request from the next of a list of
reactions. When there is none left, it is closed. -/
def replaying (wording : Int32 → String) : Channel (List Reaction) where
  control q
    | [] => (.error .invalidHandle, [])
    | reaction :: rest => (reaction.reply wording q, rest)

section Replays

variable (sys : System σ) (port : ComPort)

/-- Work on an open port is replayed by work on a list of reactions: its calls are the attempts of
its requests, and replaying the driver's reactions to these gives the same result and the same
events. -/
def Replays (α : Type) (work : Work (σ × List SystemCall) α) (replay : Work (List Reaction) α) :
    Prop :=
  ∀ s made,
    let run := work (s, made)
    let calls := run.requests.map port.controlCall
    run.state = (sys.afterCalls calls s, made ++ (sys.attempts calls s).map Attempt.entry) ∧
      ∀ rest, replay ((sys.attempts calls s).map Attempt.reaction ++ rest) =
        ⟨run.result, rest, run.events⟩

/-- Nothing but records is as well replayed without a driver. -/
private theorem replays_log (record : Record) :
    Replays sys port Unit (Work.log record) (Work.log record) :=
  fun s made => ⟨congrArg (Prod.mk s) (List.append_nil made).symm, fun _ => rfl⟩

/-- A request is replayed from the reaction to its call. -/
private theorem replays_once {α : Type} (q : Request) (f : Reply → α) :
    Replays sys port α ((port.toPort sys.recorded).once q f)
      ((Port.mk (replaying sys.wording)).once q f) := by
  intro s made run calls
  have hcontrol := port.control_recorded sys q s made
  have hreply : (port.control sys.recorded q (s, made)).1 =
      (sys.reaction (port.controlCall q) s).reply sys.wording q :=
    (congrArg Prod.fst hcontrol).trans (congrArg Prod.fst (port.control_eq sys q s))
  have hcalls : calls = [port.controlCall q] :=
    congrArg (List.map port.controlCall) (Port.once_requests _ q f (s, made))
  rw [hcalls]
  refine ⟨congrArg Prod.snd hcontrol, fun rest => ?_⟩
  have hrun : run = ⟨f (port.control sys.recorded q (s, made)).1,
      (port.control sys.recorded q (s, made)).2,
      q.trail (port.control sys.recorded q (s, made)).1⟩ := rfl
  rw [hrun, hreply]
  rfl

/-- What is replayed piece by piece is replayed as a whole. -/
private theorem Replays.bind {α β : Type} {first : Work (σ × List SystemCall) α}
    {first' : Work (List Reaction) α} {next : α → Work (σ × List SystemCall) β}
    {next' : α → Work (List Reaction) β} (hfirst : Replays sys port α first first')
    (hnext : ∀ a, Replays sys port β (next a) (next' a)) :
    Replays sys port β (first >>= next) (first' >>= next') := by
  intro s made run calls
  obtain ⟨hstate, hreplay⟩ := hfirst s made
  let before := (first (s, made)).requests.map port.controlCall
  obtain ⟨hlast, hrest⟩ := hnext (first (s, made)).result (sys.afterCalls before s)
    (made ++ (sys.attempts before s).map Attempt.entry)
  rw [← hstate] at hlast hrest
  have hcalls : calls = before ++ _ := (congrArg (List.map port.controlCall)
    (Work.requests_bind first next (s, made))).trans List.map_append
  rw [hcalls, sys.attempts_append, sys.afterCalls_append, List.map_append, ← List.append_assoc]
  refine ⟨hlast, fun rest => ?_⟩
  rw [List.map_append, List.append_assoc, Work.bind_apply, hreplay, hrest]
  rfl

/-- Work on an open port is replayed. -/
theorem congruence_replays :
    (port.toPort sys.recorded).Congruence ⟨replaying sys.wording⟩ (Replays sys port) where
  result _ s made := ⟨congrArg (Prod.mk s) (List.append_nil made).symm, fun _ => rfl⟩
  andThen := Replays.bind sys port
  request := replays_once sys port
  skipped _ _ := replays_log sys port _
  applied _ _ := replays_log sys port _

end Replays

/-- **Calls on an open port are replayed.** Take any calls on a port of a system, whatever the
system does. What the trace gains are attempts, one for each request and in their order, and each
carries its request through the handle of the port. The driver's reactions to these attempts are
all that matters of the system: the same calls on a channel that only replays the reactions have
the same results, make the same requests, answered the same, log the same records and use the
reactions up. -/
theorem calls_replayed (sys : System σ) (port : ComPort) (calls : List Call) (s : σ)
    (made : List SystemCall) :
    let run := (port.toPort sys.recorded).calls calls (s, made)
    let attempts := sys.attempts (run.requests.map port.controlCall) s
    run.state.2 = made ++ attempts.map Attempt.entry ∧
      List.Forall₂ (fun a q => a.call.Carries port.handle q) attempts run.requests ∧
      (Port.mk (replaying sys.wording)).calls calls (attempts.map Attempt.reaction) =
        ⟨run.result, [], run.events⟩ := by
  intro run attempts
  obtain ⟨hstate, hreplay⟩ := (congruence_replays sys port).calls calls s made
  have hsmall (q : Request) (hq : q ∈ run.requests) : q.inputSize ≤ 4 ∧ q.outputSize ≤ 4 := by
    obtain ⟨c, -, hq⟩ := ((port.toPort sys.recorded).calls_requests calls (s, made)).1 q hq
    exact Call.size_of_mem_requests hq
  refine ⟨congrArg Prod.snd hstate, sys.forall₂_attempts port hsmall s, ?_⟩
  have hreplay := hreplay []
  rwa [List.append_nil] at hreplay

end Win32

end SerialCard
