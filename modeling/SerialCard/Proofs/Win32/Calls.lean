import SerialCard.Proofs.Profile.Plan
import SerialCard.Win32.ComPort

/-!
# The calls a port makes

Requests become calls that send control codes, one each. `System.attempts` are such calls made one
after the other on a system, with what came of each and the number of the last error after it.
They say everything about a port on the recorded system: its trace grows by the attempts of its
requests (`after_recorded`), and a step of a plan is fatal exactly if its attempt is not to be
tolerated (`isFatal_recorded`). Opening a port, closing it and giving it up are one call each
(`acquire_apply`, `close_apply`, `drop_apply`).
-/

namespace SerialCard.Win32

variable {σ : Type}

/-! ### Attempts -/

/-- A call that sent a control code, with what came of it. -/
structure Attempt where
  call : ControlCall
  result : ControlResult
  /-- The number of the last error after it. -/
  number : UInt32

namespace Attempt

/-- The attempt in a list of the calls made. -/
def entry (a : Attempt) : SystemCall :=
  .deviceIoControl a.call a.result

/-- The call succeeded, or it failed with one of the two numbers by which a device lacks a function,
and settings the card lacks are to be skipped. -/
def isTolerated (skip : Bool) (a : Attempt) : Bool :=
  a.result.succeeded || (skip && (a.number == 50 || a.number == 1))

end Attempt

namespace System

variable (sys : System σ)

/-- Calls made one after the other, whatever becomes of them. -/
def attempts : List ControlCall → σ → List Attempt
  | [], _ => []
  | call :: rest, s =>
    let r := sys.deviceIoControl call s
    ⟨call, r.1, sys.lastError r.2⟩ :: attempts rest r.2

/-- The state after a list of calls. -/
def afterCalls : List ControlCall → σ → σ
  | [], s => s
  | call :: rest, s => afterCalls rest (sys.deviceIoControl call s).2

theorem attempts_append (first second : List ControlCall) (s : σ) :
    sys.attempts (first ++ second) s =
      sys.attempts first s ++ sys.attempts second (sys.afterCalls first s) := by
  induction first generalizing s with
  | nil => rfl
  | cons call rest ih =>
    rw [List.cons_append, attempts, ih]
    rfl

theorem afterCalls_append (first second : List ControlCall) (s : σ) :
    sys.afterCalls (first ++ second) s = sys.afterCalls second (sys.afterCalls first s) := by
  induction first generalizing s with
  | nil => rfl
  | cons call rest ih => exact ih _

theorem length_attempts (calls : List ControlCall) (s : σ) :
    (sys.attempts calls s).length = calls.length := by
  induction calls generalizing s with
  | nil => rfl
  | cons call rest ih => rw [attempts, List.length_cons, ih, List.length_cons]

theorem attempts_take (calls : List ControlCall) (n : Nat) (s : σ) :
    sys.attempts (calls.take n) s = (sys.attempts calls s).take n := by
  induction calls generalizing n s with
  | nil => simp only [List.take_nil, attempts]
  | cons call rest ih =>
    cases n with
    | zero => rfl
    | succ n => rw [List.take_succ_cons, attempts, ih, attempts, List.take_succ_cons]

end System

/-! ### Requests are calls -/

theorem deviceFault_eq_unsupported_iff (sys : System σ) (number : UInt32) :
    deviceFault sys number = .unsupported ↔ number = 50 ∨ number = 1 := by
  rw [deviceFault]
  split
  · next h => exact ⟨fun _ => h, fun _ => rfl⟩
  · next h =>
    refine ⟨fun hfault => ?_, fun h' => absurd h' h⟩
    split at hfault
    · cases hfault
    · split at hfault <;> cases hfault

namespace ComPort

variable (sys : System σ) (port : ComPort)

theorem channel_control : (port.channel sys).control = port.control sys := rfl

/-- A request is one call. -/
theorem control_recorded (q : Request) (s : σ) (made : List SystemCall) :
    port.control sys.recorded q (s, made) =
      ((port.control sys q s).1, (sys.deviceIoControl (port.controlCall q) s).2,
        made ++ [.deviceIoControl (port.controlCall q)
          (sys.deviceIoControl (port.controlCall q) s).1]) := by
  simp only [control, System.recorded]
  by_cases h : (sys.deviceIoControl (port.controlCall q) s).1.succeeded = true
  · simp only [h, if_true]
  · simp only [h, if_false, Bool.false_eq_true]
    rfl

/-- Requests are calls, and these are what is recorded of them. -/
theorem after_recorded (qs : List Request) (s : σ) (made : List SystemCall) :
    (port.channel sys.recorded).after qs (s, made) =
      (sys.afterCalls (qs.map port.controlCall) s,
        made ++ (sys.attempts (qs.map port.controlCall) s).map Attempt.entry) := by
  induction qs generalizing s made with
  | nil => simp only [Channel.after, List.map_nil, System.afterCalls, System.attempts,
      List.append_nil]
  | cons q rest ih =>
    have hfirst := congrArg Prod.snd (port.control_recorded sys q s made)
    rw [Channel.after, channel_control, hfirst, ih, List.append_assoc]
    rfl

/-- The call of a request for nothing is tolerated unless the answer to the request is fatal. -/
private theorem isFatal_control (skip : Bool) (step : PlanStep) (s : σ)
    (h : step.request.outputSize = 0) :
    Answered.isFatal skip ⟨step, (port.control sys step.request s).1⟩ =
      let r := sys.deviceIoControl (port.controlCall step.request) s
      !Attempt.isTolerated skip ⟨port.controlCall step.request, r.1, sys.lastError r.2⟩ := by
  simp only [control]
  by_cases hsucceeded :
      (sys.deviceIoControl (port.controlCall step.request) s).1.succeeded = true
  · -- without an output buffer there is nothing to give back
    have hempty (written : Bytes) (n : Nat) :
        (buffer step.request.outputSize written).take n = [] := by
      rw [buffer, h, List.take_zero, List.take_nil]
    simp only [hsucceeded, if_true, hempty, Answered.isFatal, Answered.isAccepted,
      Attempt.isTolerated, List.isEmpty_nil, Bool.not_true, Bool.false_and, Bool.true_or]
  · simp only [hsucceeded, Bool.false_eq_true, if_false, Attempt.isTolerated, Bool.false_or]
    -- the call failed, and only the number of the error decides
    generalize sys.lastError (sys.deviceIoControl (port.controlCall step.request) s).2 = number
    have hfault := deviceFault_eq_unsupported_iff sys number
    by_cases hlack : number = 50 ∨ number = 1
    · have hnumber : (number == 50 || number == 1) = true := by simpa using hlack
      simp only [Answered.isFatal, Answered.isAccepted, Answered.isSkipped, hfault.mpr hlack,
        hnumber, Bool.not_false, Bool.true_and, Bool.and_true]
    · have hnumber : (number == 50 || number == 1) = false := by simpa using hlack
      have hnot := mt hfault.mp hlack
      have hskipped : Answered.isSkipped skip ⟨step, .error (deviceFault sys number)⟩ = false := by
        cases hother : deviceFault sys number with
        | unsupported => exact absurd hother hnot
        | _ => rfl
      simp only [Answered.isFatal, Answered.isAccepted, hskipped, hnumber, Bool.not_false,
        Bool.and_self, Bool.and_false]

/-- A step of a plan is fatal if its call is not tolerated. -/
theorem isFatal_recorded (skip : Bool) (plan : List PlanStep)
    (h : ∀ step ∈ plan, step.request.outputSize = 0) (s : σ) (made : List SystemCall) :
    ((port.channel sys.recorded).answered plan (s, made)).map (Answered.isFatal skip) =
      (sys.attempts (plan.map fun step => port.controlCall step.request) s).map
        fun a => !a.isTolerated skip := by
  induction plan generalizing s made with
  | nil => rfl
  | cons step rest ih =>
    have hfirst := port.control_recorded sys step.request s made
    have hrest := ih fun step' hstep' => h step' (List.mem_cons_of_mem step hstep')
    rw [Channel.answered, channel_control, hfirst, List.map_cons, hrest,
      isFatal_control sys port skip step s (h step List.mem_cons_self)]
    rfl

end ComPort

/-! ### Opening and closing -/

/-- The path of a port is opened with its handle, which leaves a system in a state. -/
def System.Opens (sys : System σ) (s : σ) (port : ComPort) (s' : σ) : Prop :=
  sys.createFile (ComPort.openCall port.path) s = (port.handle, s') ∧ port.handle ≠ Handle.invalid

/-- A path is opened, or it is not. -/
theorem System.exists_opens (sys : System σ) (path : String) (s : σ) :
    (sys.createFile (ComPort.openCall path) s).1 = Handle.invalid ∨
      ∃ port s', port.path = path ∧ sys.Opens s port s' := by
  by_cases h : (sys.createFile (ComPort.openCall path) s).1 = Handle.invalid
  · exact .inl h
  · exact .inr ⟨⟨_, path⟩, _, rfl, rfl, h⟩

/-- A call comes to the same whether or not it is recorded. -/
theorem System.createFile_recorded (sys : System σ) (call : OpenCall) (s : σ)
    (made : List SystemCall) :
    (sys.recorded.createFile call (s, made)).1 = (sys.createFile call s).1 := rfl

theorem System.closeHandle_recorded (sys : System σ) (handle : Handle) (s : σ)
    (made : List SystemCall) :
    (sys.recorded.closeHandle handle (s, made)).1 = (sys.closeHandle handle s).1 := rfl

namespace ComPort

variable (sys : System σ) (port : ComPort)

/-- Opening is one call, which either fails with the number of an error, or is logged. -/
theorem acquire_apply (path : String) (s : σ) :
    acquire sys path s =
      let opened := sys.createFile (openCall path) s
      if opened.1 = Handle.invalid then
        ⟨.error (openError sys path (sys.lastError opened.2)), opened.2, []⟩
      else ⟨.ok ⟨opened.1, path⟩, opened.2, [.logged (.opened path)]⟩ := by
  rw [acquire, Work.bind_apply, Work.step_apply]
  dsimp only
  by_cases h : (sys.createFile (openCall path) s).1 = Handle.invalid
  · rw [if_pos h, if_pos h]
    rfl
  · rw [if_neg h, if_neg h]
    rfl

/-- Giving a port up is one call if it has a handle, and a failure of it is logged. -/
theorem drop_apply (s : σ) :
    port.drop sys s =
      let closed := sys.closeHandle port.handle s
      if port.handle = Handle.invalid then ⟨(), s, []⟩
      else if closed.1 then ⟨(), closed.2, []⟩
      else
        ⟨(), closed.2,
          [.logged (.closeFailed port.path (sys.osError (sys.lastError closed.2)))]⟩ := by
  rw [drop]
  split
  · rfl
  · rw [Work.bind_apply, Work.step_apply]
    dsimp only
    cases (sys.closeHandle port.handle s).1 <;> rfl

/-- Closing is one call, which either fails with the number of an error, or is logged. There is no
handle left to be given up after it. -/
theorem close_apply (s : σ) :
    port.close sys s =
      let closed := sys.closeHandle port.handle s
      if closed.1 then ⟨.ok (), closed.2, [.logged (.closed port.path)]⟩
      else
        ⟨.error (.io port.path (sys.osError (sys.lastError closed.2))), closed.2, []⟩ := by
  rw [close, Work.bind_apply, Work.step_apply]
  dsimp only
  cases (sys.closeHandle port.handle s).1 <;> rfl

section

variable (s : σ) (made : List SystemCall)

/-- Opening a path is one call, whatever comes of it. -/
theorem state_acquire_recorded (path : String) :
    (acquire sys.recorded path (s, made)).state =
      ((sys.createFile (openCall path) s).2,
        made ++ [.createFile (openCall path) (sys.createFile (openCall path) s).1]) := by
  rw [acquire_apply]
  dsimp only
  split <;> rfl

theorem acquire_recorded_of_invalid {path : String}
    (h : (sys.createFile (openCall path) s).1 = Handle.invalid) :
    ∃ e, (acquire sys.recorded path (s, made)).result = .error e := by
  rw [acquire_apply]
  dsimp only
  rw [sys.createFile_recorded, if_pos h]
  exact ⟨_, rfl⟩

theorem acquire_recorded_of_opens {s' : σ} (h : sys.Opens s port s') :
    (acquire sys.recorded port.path (s, made)).result = .ok port := by
  have hhandle : (sys.createFile (openCall port.path) s).1 = port.handle := congrArg Prod.fst h.1
  rw [acquire_apply]
  dsimp only
  rw [sys.createFile_recorded, hhandle, if_neg h.2]

/-- Giving a port up is one call. -/
theorem state_drop_recorded (h : port.handle ≠ Handle.invalid) :
    (port.drop sys.recorded (s, made)).state =
      ((sys.closeHandle port.handle s).2,
        made ++ [.closeHandle port.handle (sys.closeHandle port.handle s).1]) := by
  rw [drop_apply]
  dsimp only
  rw [if_neg h]
  split <;> rfl

/-- Closing a port is one call. -/
theorem state_close_recorded :
    (port.close sys.recorded (s, made)).state =
      ((sys.closeHandle port.handle s).2,
        made ++ [.closeHandle port.handle (sys.closeHandle port.handle s).1]) := by
  rw [close_apply]
  dsimp only
  split <;> rfl

/-- Closing a port succeeds if the call does. -/
theorem isOk_close_recorded :
    (port.close sys.recorded (s, made)).result.isOk = (sys.closeHandle port.handle s).1 := by
  rw [close_apply]
  dsimp only
  rw [sys.closeHandle_recorded]
  cases (sys.closeHandle port.handle s).1 <;> rfl

end

end ComPort

end SerialCard.Win32
