import SerialCard.Proofs.Win32.Handles
import SerialCard.Win32.Session

/-!
# Sessions close what they open

A session holds at most one port at a time, and whatever it does with it is a list of actions
(`Step.exists_actions`). At the end it gives up the port it still holds. So it leaves no handle
open, and it passes every handle to be closed exactly once (`session_closes_all`).
-/

namespace SerialCard.Win32

variable {σ : Type}

/-- Lists of actions are taken one after the other. -/
theorem Action.runAll_append (sys : System σ) (first second : List Action) (ports : List ComPort) :
    runAll sys ports (first ++ second) =
      runAll sys ports first >>= fun held => runAll sys held second := by
  induction first generalizing ports with
  | nil => rw [List.nil_append, runAll, pure_bind]
  | cons action rest ih =>
    rw [List.cons_append, runAll, runAll, bind_assoc]
    exact congrArg _ (funext ih)

namespace Step

variable (sys : System σ)

/-- Actions that lead from one port a session may hold to another, and from a state to another. -/
def Leads (actions : List Action) (before after : Option ComPort) (s s' : σ) : Prop :=
  (Action.runAll sys before.toList actions s).result = after.toList ∧
    (Action.runAll sys before.toList actions s).state = s'

variable {sys} in
theorem Leads.append {first second : List Action} {port₁ port₂ port₃ : Option ComPort}
    {s₁ s₂ s₃ : σ} (hfirst : Leads sys first port₁ port₂ s₁ s₂)
    (hsecond : Leads sys second port₂ port₃ s₂ s₃) :
    Leads sys (first ++ second) port₁ port₃ s₁ s₃ := by
  obtain ⟨hresult, rfl⟩ := hfirst
  rw [Leads, ← hresult] at hsecond
  rw [Leads, Action.runAll_append]
  exact hsecond

/-- To open a port in a session is to open it and then to give up the one opened before. -/
theorem leads_install {action : Action} {opening : Work σ (Except TransportError ComPort)}
    (haction : ∀ ports, action.run sys ports = Action.takeIn ports <$> opening)
    (before : Option ComPort) (s : σ) :
    let run := (opening >>= fun opened => install sys opened before) s
    Leads sys [action, .drop 1] before run.result.port s run.state := by
  intro run
  have hstate : (action.run sys before.toList s).state = (opening s).state := by
    rw [haction]
    rfl
  have hheld {opened : Except TransportError ComPort} (h : (opening s).result = opened) :
      (action.run sys before.toList s).result = Action.takeIn before.toList opened := by
    rw [haction]
    exact congrArg (Action.takeIn before.toList) h
  cases hopening : (opening s).result with
  | error e =>
    have hrun : run = _ := Work.bind_of_result _ hopening
    rw [hrun, Leads, Action.runAll, Work.bind_of_result _ (hheld hopening), hstate]
    -- there is no second port to give up
    cases before <;> exact ⟨rfl, rfl⟩
  | ok port =>
    have hrun : run = _ := Work.bind_of_result _ hopening
    rw [hrun, Leads, Action.runAll, Work.bind_of_result _ (hheld hopening), hstate]
    cases before <;> exact ⟨rfl, rfl⟩

/-- A step of a session is a list of actions. -/
theorem exists_actions (before : Option ComPort) (step : Step) (s : σ) :
    let run := step.run sys before s
    ∃ actions, Leads sys actions before run.result.port s run.state := by
  intro run
  cases step with
  | connect number =>
    have haction (ports : List ComPort) : (Action.connect number).run sys ports =
        Action.takeIn ports <$> ComPort.connect sys number := rfl
    exact ⟨_, leads_install sys haction before s⟩
  | acquire path =>
    have haction (ports : List ComPort) : (Action.acquire path).run sys ports =
        Action.takeIn ports <$> ComPort.acquire sys path := rfl
    exact ⟨_, leads_install sys haction before s⟩
  | close =>
    cases before with
    | none => exact ⟨[], rfl, rfl⟩
    | some port =>
      refine ⟨[.close 0], ?_⟩
      cases hclose : ((port.toPort sys).close.run s).result <;>
      · have hrun : run = _ := Work.bind_of_result _ hclose
        rw [hrun]
        exact ⟨rfl, rfl⟩
  | drop =>
    cases before with
    | none => exact ⟨[], rfl, rfl⟩
    | some port => exact ⟨[.drop 0], rfl, rfl⟩
  | probe path request =>
    cases hopening : (ComPort.acquire sys path s).result with
    | error e =>
      have hrun : run = _ := Work.bind_of_result _ hopening
      have hheld : ((Action.acquire path).run sys before.toList s).result = before.toList :=
        congrArg (Action.takeIn before.toList) hopening
      rw [hrun]
      exact ⟨[.acquire path], hheld, rfl⟩
    | ok port =>
      have hrun : run = _ := Work.bind_of_result _ hopening
      have hheld : ((Action.acquire path).run sys before.toList s).result = port :: before.toList :=
        congrArg (Action.takeIn before.toList) hopening
      refine ⟨[.acquire path, .request 0 request, .drop 0], ?_⟩
      rw [hrun, Leads, Action.runAll, Work.bind_of_result _ hheld]
      dsimp only
      cases hreply :
          ((port.toPort sys).ask request (ComPort.acquire sys path s).state).result <;>
      · rw [Work.bind_of_result _ hreply]
        exact ⟨rfl, rfl⟩
  | call c =>
    cases before with
    | none => exact ⟨[], rfl, rfl⟩
    | some port =>
      refine ⟨[.call 0 c], ?_⟩
      cases hcall : (((port.toPort sys).call c).run s).result <;>
      · have hrun : run = _ := Work.bind_of_result _ hcall
        rw [hrun]
        exact ⟨rfl, rfl⟩

/-- A session is a list of actions, after which no port is held. -/
theorem exists_actions_runAll (before : Option ComPort) (steps : List Step) (s : σ) :
    ∃ actions, Leads sys actions before none s (runAll sys before steps s).state := by
  induction steps generalizing before s with
  | nil =>
    cases before with
    | none => exact ⟨[], rfl, rfl⟩
    | some port => exact ⟨[.drop 0], rfl, rfl⟩
  | cons step rest ih =>
    obtain ⟨first, hfirst⟩ := exists_actions sys before step s
    obtain ⟨others, hothers⟩ := ih (step.run sys before s).result.port (step.run sys before s).state
    exact ⟨first ++ others, hfirst.append hothers⟩

end Step

/-- **A session closes what it opens.** Take any steps on any system that does not hand out a handle
that is open. Each call is made with an open handle, no handle is open at the end, and every handle
that was handed out was passed to be closed exactly once before it was handed out again. -/
theorem session_closes_all (sys : System σ) (s : σ) (steps : List Step)
    (hfresh : EachCall SystemCall.IsFresh []
      (Step.runAll sys.recorded none steps (s, [])).state.2) :
    let trace := (Step.runAll sys.recorded none steps (s, [])).state.2
    EachCall SystemCall.IsPermitted [] trace ∧ openHandles [] trace = [] ∧
      ∀ before call handle after, trace = before ++ .createFile call handle :: after →
        handle ≠ Handle.invalid → closings handle after = 1 := by
  intro trace
  obtain ⟨actions, hheld, hstate⟩ := Step.exists_actions_runAll sys.recorded none steps (s, [])
  obtain ⟨calls, hcalls, hdiscipline⟩ :=
    Action.runAll_recorded sys [] s [] List.not_mem_nil actions
  obtain rfl : trace = calls := (congrArg Prod.snd hstate).symm.trans hcalls
  obtain ⟨hpermitted, hopen, -⟩ := hdiscipline List.nodup_nil hfresh
  have hnone : openHandles [] trace = [] := hopen.trans (congrArg (List.map ComPort.handle) hheld)
  refine ⟨hpermitted, hnone, fun before call handle after hsplit hhandle => ?_⟩
  obtain ⟨hclosings, hiff⟩ := closings_of_opened hfresh hpermitted hsplit hhandle
  refine hclosings.resolve_left fun hzero => ?_
  have hmem := (hiff.mp hzero).1
  rw [hnone] at hmem
  exact List.not_mem_nil hmem

end SerialCard.Win32
