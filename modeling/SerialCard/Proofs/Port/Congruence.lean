import SerialCard.Proofs.Port.Traffic

/-!
# What holds of every call on a port

Calls on a port are made of few things: results, requests, two kinds of records, and one piece of
work after another. A `Port.Congruence` is a relation between the work on two ports that is kept by
all of these, and `Congruence.calls` says that it then holds between the same calls on the two
ports, whatever the calls are. A property of the work on one port is the case in which the second
side does not count.
-/

namespace SerialCard

variable {σ τ : Type}

/-! ### Uses of one setting -/

/-- What the answer to a use of a setting comes to. -/
def Use.ofReply : Use → Reply → Except PortError Answer
  | get t present, reply => (t.ofReply reply).map present
  | put w, reply => (w.request.confirm reply).map fun _ => .done

namespace Port

/-- A use of a setting is its one request. -/
theorem use_run (p : Port σ) {u : Use} {q : Request} (hq : q ∈ u.requests) :
    (p.use u).run = p.once q u.ofReply := by
  cases u with
  | get t present =>
    obtain ⟨code, hcode, rfl⟩ := Option.map_eq_some_iff.mp (Option.mem_toList.mp hq)
    rw [use, ExceptT.run_map, p.read_run hcode, map_once]
    rfl
  | put w =>
    obtain rfl := List.mem_singleton.mp hq
    rw [use, ExceptT.run_map, write_run, map_once]
    rfl

/-- A use that makes no request fails, since its setting cannot be read. -/
theorem use_run_of_requests_eq_nil (p : Port σ) {u : Use} (h : u.requests = []) :
    (p.use u).run = pure (.error (.unreadable u.setting.name)) := by
  cases u with
  | get t present =>
    have hcode : t.getCode = none := by simpa [Use.requests] using h
    have hread : (p.read t).run = pure (.error (.unreadable t.name)) :=
      funext (p.read_run_of_getCode_eq_none hcode)
    rw [use, ExceptT.run_map, hread]
    rfl
  | put w => cases h

end Port

/-! ### Congruences -/

/-- A relation between the work on two ports that is kept by all that calls are made of. -/
structure Port.Congruence (p : Port σ) (p' : Port τ)
    (R : (α : Type) → Work σ α → Work τ α → Prop) : Prop where
  /-- Nothing is done. -/
  result {α : Type} (a : α) : R α (pure a) (pure a)
  /-- One piece of work follows another. -/
  andThen {α β : Type} {first : Work σ α} {first' : Work τ α} {next : α → Work σ β}
    {next' : α → Work τ β} :
    R α first first' → (∀ a, R β (next a) (next' a)) → R β (first >>= next) (first' >>= next')
  /-- A request is made. -/
  request {α : Type} (q : Request) (f : Reply → α) : R α (p.once q f) (p'.once q f)
  /-- It is noted that a setting is left out. -/
  skipped (name : String) (error : PortError) :
    R Unit (Work.log (.skipped name error)) (Work.log (.skipped name error))
  /-- It is noted that a profile was applied. -/
  applied (written omitted : Nat) :
    R Unit (Work.log (.applied written omitted)) (Work.log (.applied written omitted))

namespace Port.Congruence

variable {p : Port σ} {p' : Port τ} {R : (α : Type) → Work σ α → Work τ α → Prop}
  (h : p.Congruence p' R)

include h

theorem map {α β : Type} (f : α → β) {work : Work σ α} {work' : Work τ α} (hwork : R α work work') :
    R β (f <$> work) (f <$> work') :=
  h.andThen hwork fun a => h.result (f a)

/-- Uses of a setting are related. -/
theorem use (u : Use) : R _ (p.use u).run (p'.use u).run := by
  cases hrequests : u.requests with
  | nil =>
    rw [p.use_run_of_requests_eq_nil hrequests, p'.use_run_of_requests_eq_nil hrequests]
    exact h.result _
  | cons q rest =>
    have hq : q ∈ u.requests := hrequests ▸ List.mem_cons_self
    rw [p.use_run hq, p'.use_run hq]
    exact h.request q u.ofReply

theorem read (t : Setting) : R _ (p.read t).run (p'.read t).run := by
  cases hcode : t.getCode with
  | none =>
    have hnone {υ : Type} (p : Port υ) : (p.read t).run = pure (.error (.unreadable t.name)) :=
      funext (p.read_run_of_getCode_eq_none hcode)
    rw [hnone, hnone]
    exact h.result _
  | some code =>
    rw [p.read_run hcode, p'.read_run hcode]
    exact h.request _ _

theorem readAll (ts : List Setting) : R _ (p.readAll ts) (p'.readAll ts) := by
  induction ts with
  | nil => exact h.result _
  | cons t rest ih =>
    exact h.andThen (h.read t) fun _ => h.andThen ih fun _ => h.result _

/-- Snapshots are related. -/
theorem snapshot : R _ p.snapshot p'.snapshot :=
  h.readAll _

theorem attempt (skip : Bool) (report : ApplyReport) (w : Write) :
    R _ (p.attempt skip report w).run (p'.attempt skip report w).run := by
  have hwrite : R _ (p.write w).run (p'.write w).run := by
    rw [p.write_run, p'.write_run]
    exact h.request _ _
  refine h.andThen hwrite fun result => ?_
  cases result with
  | ok u => exact h.result _
  | error e =>
    dsimp only
    split
    · exact h.andThen (h.skipped w.name e) fun _ => h.result _
    · exact h.result _

theorem attemptAll (skip : Bool) (report : ApplyReport) (ws : List Write) :
    R _ (p.attemptAll skip report ws).run (p'.attemptAll skip report ws).run := by
  induction ws generalizing report with
  | nil => exact h.result _
  | cons w rest ih =>
    refine h.andThen (h.attempt skip report w) fun result => ?_
    cases result with
    | ok next => exact ih next
    | error e => exact h.result _

/-- Applications of a profile are related. -/
theorem apply (profile : Profile) : R _ (p.apply profile).run (p'.apply profile).run := by
  refine h.andThen (h.attemptAll profile.skipUnsupported {} profile.writes) fun result => ?_
  cases result with
  | ok report =>
    refine h.andThen (h.map Except.ok (h.applied _ _)) fun noted => ?_
    cases noted <;> exact h.result _
  | error e => exact h.result _

/-- The same calls are related, each of them. -/
theorem call (c : Call) : R _ (p.call c).run (p'.call c).run := by
  cases huse : c.use? with
  | some u =>
    rw [p.call_eq_use huse, p'.call_eq_use huse]
    exact h.use u
  | none =>
    cases c with
    | snapshot => exact h.map Except.ok (h.map Answer.values h.snapshot)
    | apply profile =>
      have hrun {υ : Type} (p : Port υ) : (p.call (.apply profile)).run =
          Except.map Answer.report <$> (p.apply profile).run := ExceptT.run_map ..
      rw [hrun, hrun]
      exact h.map _ (h.apply profile)
    | named _ | flag _ | setFlag _ _ | register _ | setRegister _ _ | writeOnly _ _ | mode _
    | enableMode _ _ | disableMode _ | classify _ | read _ => cases huse

/-- **The same calls are related.** What is kept by all that calls are made of holds between the
same calls on the two ports. -/
theorem calls (cs : List Call) : R _ (p.calls cs) (p'.calls cs) := by
  induction cs with
  | nil => exact h.result _
  | cons c rest ih => exact h.andThen (h.call c) fun _ => h.andThen ih fun _ => h.result _

end Port.Congruence

end SerialCard
