import SerialCard.Log

/-!
# Work that leaves a trace

`Work σ α` is work on something whose states are `σ`: it starts in a state, has a result, leaves a
state behind, and along the way requests are exchanged and records are logged. Those are its
events, the oldest first; one piece of work after another has the events of the first, then those
of the second. `Task σ α` is work that may also fail with a port error.
-/

namespace SerialCard

/-- Something that happens during a run. -/
inductive Event where
  /-- A request went out and was answered. -/
  | exchanged (request : Request) (reply : Reply)
  /-- A record was logged. -/
  | logged (record : Record)

namespace Event

/-- The request of an event, if it is an exchange. -/
def request? : Event → Option Request
  | exchanged request _ => some request
  | logged _ => none

/-- The record of an event, if it is one. -/
def record? : Event → Option Record
  | exchanged .. => none
  | logged record => some record

end Event

/-- How a piece of work went. -/
structure Run (σ α : Type) where
  /-- What came out of it. -/
  result : α
  /-- The state it left behind. -/
  state : σ
  /-- What happened, the oldest first. -/
  events : List Event

namespace Run

variable {σ τ α β : Type}

/-- The requests of a run, in order. -/
def requests (r : Run σ α) : List Request :=
  r.events.filterMap Event.request?

/-- The records of a run, in order. -/
def records (r : Run σ α) : List Record :=
  r.events.filterMap Event.record?

/-- The run with its result changed. -/
def map (f : α → β) (r : Run σ α) : Run σ β :=
  ⟨f r.result, r.state, r.events⟩

end Run

/-- Work on a state. -/
def Work (σ α : Type) : Type :=
  σ → Run σ α

namespace Work

variable {σ α β : Type}

/-- Nothing happens in `pure`; the events of two pieces of work follow each other. -/
instance : Monad (Work σ) where
  pure a := fun s => ⟨a, s, []⟩
  bind first next := fun s =>
    let before := first s
    let after := next before.result before.state
    ⟨after.result, after.state, before.events ++ after.events⟩

/-- Logs a record. -/
def log (record : Record) : Work σ Unit := fun s =>
  ⟨(), s, [.logged record]⟩

/-- Looks at the state and changes it, unseen. -/
def step (f : σ → α × σ) : Work σ α := fun s =>
  let after := f s
  ⟨after.1, after.2, []⟩

/-! ### What a run consists of -/

theorem pure_apply (a : α) (s : σ) : (pure a : Work σ α) s = ⟨a, s, []⟩ := rfl

theorem log_apply (record : Record) (s : σ) : log record s = ⟨(), s, [.logged record]⟩ := rfl

theorem step_apply (f : σ → α × σ) (s : σ) : step f s = ⟨(f s).1, (f s).2, []⟩ := rfl

section Bind

variable (first : Work σ α) (next : α → Work σ β) (s : σ)

theorem bind_apply :
    (first >>= next) s =
      ⟨(next (first s).result (first s).state).result,
        (next (first s).result (first s).state).state,
        (first s).events ++ (next (first s).result (first s).state).events⟩ := rfl

/-- Work goes on with the result of the first piece. -/
theorem bind_of_result {first : Work σ α} {s : σ} {a : α} (h : (first s).result = a) :
    (first >>= next) s =
      ⟨(next a (first s).state).result, (next a (first s).state).state,
        (first s).events ++ (next a (first s).state).events⟩ := by
  rw [← h]
  rfl

theorem result_bind :
    ((first >>= next) s).result = (next (first s).result (first s).state).result := rfl

theorem state_bind :
    ((first >>= next) s).state = (next (first s).result (first s).state).state := rfl

theorem events_bind :
    ((first >>= next) s).events =
      (first s).events ++ (next (first s).result (first s).state).events := rfl

/-- The requests of the first piece of work come before those of the second. -/
theorem requests_bind :
    ((first >>= next) s).requests =
      (first s).requests ++ (next (first s).result (first s).state).requests := by
  simp only [Run.requests, events_bind, List.filterMap_append]

/-- The records of the first piece of work come before those of the second. -/
theorem records_bind :
    ((first >>= next) s).records =
      (first s).records ++ (next (first s).result (first s).state).records := by
  simp only [Run.records, events_bind, List.filterMap_append]

end Bind

/-- What is made of a result asks for nothing. -/
theorem requests_map (f : α → β) (work : Work σ α) (s : σ) :
    ((f <$> work) s).requests = (work s).requests := by
  have hmap : ((f <$> work) s).events = (work s).events ++ [] := rfl
  rw [Run.requests, hmap, List.append_nil]
  rfl

/-- How pieces of work are grouped makes no difference. -/
instance : LawfulMonad (Work σ) := LawfulMonad.mk' (Work σ)
  (fun first => funext fun s =>
    congrArg (Run.mk (first s).result (first s).state) (List.append_nil _))
  (fun _ _ => rfl)
  (fun _ _ _ => funext fun _ => congrArg (Run.mk _ _) (List.append_assoc ..))

end Work

/-- Work that may fail with a port error. -/
abbrev Task (σ : Type) := ExceptT PortError (Work σ)

namespace Task

variable {σ α β : Type}

/-- Logs a record. -/
def log (record : Record) : Task σ Unit :=
  ExceptT.lift (Work.log record)

section Map

variable (f : α → β) (task : Task σ α) (s : σ)

/-- What is made of a result changes nothing else. -/
theorem result_map : ((f <$> task).run s).result = (task.run s).result.map f := by
  rw [ExceptT.run_map]
  rfl

theorem state_map : ((f <$> task).run s).state = (task.run s).state := by
  rw [ExceptT.run_map]
  rfl

theorem requests_map : ((f <$> task).run s).requests = (task.run s).requests := by
  rw [ExceptT.run_map]
  exact Work.requests_map _ _ _

end Map

section Bind

variable {first : Task σ α} {next : α → Task σ β} {s : σ}

/-- Work goes on after a success. -/
theorem run_bind_of_ok {a : α} (h : (first.run s).result = .ok a) :
    (first >>= next).run s =
      let after := (next a).run (first.run s).state
      ⟨after.result, after.state, (first.run s).events ++ after.events⟩ := by
  rw [ExceptT.run_bind, Work.bind_apply, h]

/-- Work ends with its first error. -/
theorem run_bind_of_error {e : PortError} (h : (first.run s).result = .error e) :
    (first >>= next).run s = ⟨.error e, (first.run s).state, (first.run s).events⟩ := by
  rw [ExceptT.run_bind, Work.bind_apply, h]
  simp only [Work.pure_apply, List.append_nil]

end Bind

end Task

end SerialCard
