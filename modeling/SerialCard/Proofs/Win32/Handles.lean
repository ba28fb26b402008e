import Mathlib.Data.List.InsertIdx
import Mathlib.Data.List.Nodup
import SerialCard.Proofs.Port.Traffic
import SerialCard.Proofs.Win32.Calls
import SerialCard.Win32.Machine

/-!
# The life of a handle

A handle is open from when the system hands it out until it is passed to be closed, whether that
works or not. `openHandles` reads this off a list of calls. Ports are used by `Action`s, in any
order and any number of ports at a time: open one, make calls or requests on one that is held, close
it or drop it. `Action.Effect` says all that an action can do to the ports that are held and
which calls it makes of the system.

A system may hand out a handle again once it was passed to be closed; it is only taken not to hand
out one that is open (`SystemCall.IsFresh`). Then the open handles are at any moment those of the
ports that are held, only open handles are used or closed, and every handle is passed to be closed
exactly once (`handles_closed_once`).
-/

namespace SerialCard.Win32

variable {σ : Type}

/-! ### Open handles -/

namespace SystemCall

/-- The handles that are open after a call, given those that are open before it. -/
def track (handles : List Handle) : SystemCall → List Handle
  | createFile _ handle => if handle = Handle.invalid then handles else handle :: handles
  | deviceIoControl .. => handles
  | closeHandle handle _ => handles.filter (· ≠ handle)

theorem track_refused (handles : List Handle) (call : OpenCall) :
    (createFile call Handle.invalid).track handles = handles := by
  rw [track, if_pos rfl]

/-- The handle a call is made with. -/
def handle? : SystemCall → Option Handle
  | createFile .. => none
  | deviceIoControl call _ => some call.handle
  | closeHandle handle _ => some handle

/-- The call does not hand out a handle that is open. -/
def IsFresh (handles : List Handle) : SystemCall → Prop
  | createFile _ handle => handle ∉ handles
  | _ => True

instance (handles : List Handle) : (call : SystemCall) → Decidable (call.IsFresh handles)
  | createFile _ handle => inferInstanceAs (Decidable (handle ∉ handles))
  | deviceIoControl .. => isTrue trivial
  | closeHandle .. => isTrue trivial

/-- The call is made without a handle or with one that is open. -/
def IsPermitted (handles : List Handle) (call : SystemCall) : Prop :=
  ∀ handle, call.handle? = some handle → handle ∈ handles

/-- A path may be opened at any moment. -/
theorem isPermitted_createFile (handles : List Handle) (call : OpenCall) (handle : Handle) :
    (createFile call handle).IsPermitted handles := by
  rintro handle' ⟨⟩

end SystemCall

/-- The handles that are open after a list of calls, given those that are open before it. -/
def openHandles (handles : List Handle) (trace : List SystemCall) : List Handle :=
  trace.foldl SystemCall.track handles

/-- Each call of a list meets a condition on it and the handles that are open when it is made. -/
def EachCall (P : List Handle → SystemCall → Prop) (handles : List Handle)
    (trace : List SystemCall) : Prop :=
  ∀ before call after, trace = before ++ call :: after → P (openHandles handles before) call

/-- How often a handle is passed to be closed before it is handed out again. -/
def closings (handle : Handle) : List SystemCall → Nat
  | [] => 0
  | .createFile _ opened :: rest => if opened = handle then 0 else closings handle rest
  | .deviceIoControl .. :: rest => closings handle rest
  | .closeHandle closed _ :: rest => closings handle rest + if closed = handle then 1 else 0

section Trace

variable {P : List Handle → SystemCall → Prop} {handles : List Handle}
  {first second trace : List SystemCall}

theorem openHandles_append :
    openHandles handles (first ++ second) = openHandles (openHandles handles first) second :=
  List.foldl_append

theorem eachCall_nil : EachCall P handles [] := by
  intro before call after hsplit
  cases (List.append_eq_nil_iff.mp hsplit.symm).2

theorem eachCall_cons {call : SystemCall} :
    EachCall P handles (call :: trace) ↔
      P handles call ∧ EachCall P (call.track handles) trace := by
  constructor
  · intro h
    exact ⟨h [] call trace rfl, fun before call' after hsplit =>
      h (call :: before) call' after (congrArg (List.cons call) hsplit)⟩
  · rintro ⟨hfirst, hrest⟩ before call' after hsplit
    cases before with
    | nil =>
      obtain ⟨rfl, -⟩ := List.cons.inj hsplit
      exact hfirst
    | cons call'' before =>
      obtain ⟨rfl, hrest'⟩ := List.cons.inj hsplit
      exact hrest before call' after hrest'

theorem eachCall_singleton {call : SystemCall} : EachCall P handles [call] ↔ P handles call :=
  eachCall_cons.trans (and_iff_left eachCall_nil)

theorem eachCall_append :
    EachCall P handles (first ++ second) ↔
      EachCall P handles first ∧ EachCall P (openHandles handles first) second := by
  induction first generalizing handles with
  | nil => exact ⟨fun h => ⟨eachCall_nil, h⟩, fun h => h.2⟩
  | cons call rest ih =>
    rw [List.cons_append, eachCall_cons, eachCall_cons, ih, and_assoc]
    rfl

instance decidableEachCall [∀ handles call, Decidable (P handles call)] (handles : List Handle) :
    (trace : List SystemCall) → Decidable (EachCall P handles trace)
  | [] => isTrue eachCall_nil
  | call :: rest =>
    let _ := decidableEachCall (call.track handles) rest
    decidable_of_iff _ eachCall_cons.symm

/-- The handle that stands for none is never open. -/
theorem invalid_not_mem_openHandles (h : Handle.invalid ∉ handles) :
    Handle.invalid ∉ openHandles handles trace := by
  induction trace generalizing handles with
  | nil => exact h
  | cons call rest ih =>
    refine ih ?_
    cases call with
    | createFile call handle =>
      rw [SystemCall.track]
      split
      · exact h
      · next hhandle =>
        intro hmem
        rcases List.mem_cons.mp hmem with heq | hmem
        · exact hhandle heq.symm
        · exact h hmem
    | deviceIoControl call result => exact h
    | closeHandle handle succeeded => exact fun hmem => h (List.mem_filter.mp hmem).1

/-- Permitted calls are not made with the handle that stands for none. -/
theorem handle?_ne_invalid (h : Handle.invalid ∉ handles)
    (hpermitted : EachCall SystemCall.IsPermitted handles trace) :
    ∀ call ∈ trace, call.handle? ≠ some Handle.invalid := by
  intro call hcall hhandle
  obtain ⟨before, after, rfl⟩ := List.mem_iff_append.mp hcall
  exact invalid_not_mem_openHandles h (hpermitted before call after rfl _ hhandle)

variable {handle : Handle}

/-- A handle that is not open is not closed before it is handed out. -/
theorem closings_of_not_mem (h : handle ∉ handles)
    (hpermitted : EachCall SystemCall.IsPermitted handles trace) :
    closings handle trace = 0 ∧
      (handle ∈ openHandles handles trace → ∃ call, .createFile call handle ∈ trace) := by
  induction trace generalizing handles with
  | nil => exact ⟨rfl, fun hmem => absurd hmem h⟩
  | cons call rest ih =>
    obtain ⟨hfirst, hrest⟩ := eachCall_cons.mp hpermitted
    by_cases hopened : ∃ call', call = .createFile call' handle
    · obtain ⟨call', rfl⟩ := hopened
      exact ⟨if_pos rfl, fun _ => ⟨call', List.mem_cons_self⟩⟩
    · -- no other call makes the handle an open one
      have hnot : handle ∉ call.track handles := by
        cases call with
        | createFile call' opened =>
          rw [SystemCall.track]
          split
          · exact h
          · intro hmem
            rcases List.mem_cons.mp hmem with rfl | hmem
            · exact hopened ⟨call', rfl⟩
            · exact h hmem
        | deviceIoControl control result => exact h
        | closeHandle closed succeeded => exact fun hmem => h (List.mem_filter.mp hmem).1
      obtain ⟨hnone, hagain⟩ := ih hnot hrest
      refine ⟨?_, fun hmem => ?_⟩
      · cases call with
        | createFile call' opened =>
          have hne : opened ≠ handle := fun heq => hopened ⟨call', by rw [heq]⟩
          rwa [closings, if_neg hne]
        | deviceIoControl control result => exact hnone
        | closeHandle closed succeeded =>
          have hne : closed ≠ handle := fun heq => h (heq ▸ hfirst closed rfl)
          rwa [closings, if_neg hne, Nat.add_zero]
      · obtain ⟨call', hcall'⟩ := hagain hmem
        exact ⟨call', List.mem_cons_of_mem call hcall'⟩

/-- An open handle is closed once, unless it stays open and is not handed out again. -/
theorem closings_of_mem (h : handle ∈ handles) (hfresh : EachCall SystemCall.IsFresh handles trace)
    (hpermitted : EachCall SystemCall.IsPermitted handles trace) :
    (closings handle trace = 0 ∧ handle ∈ openHandles handles trace ∧
        ∀ call, .createFile call handle ∉ trace) ∨
      (closings handle trace = 1 ∧
        (handle ∈ openHandles handles trace → ∃ call, .createFile call handle ∈ trace)) := by
  induction trace generalizing handles with
  | nil => exact .inl ⟨rfl, h, fun call hcall => absurd hcall List.not_mem_nil⟩
  | cons call rest ih =>
    obtain ⟨hnew, hfresh⟩ := eachCall_cons.mp hfresh
    obtain ⟨-, hpermitted⟩ := eachCall_cons.mp hpermitted
    have hopened (call' : OpenCall) : call ≠ .createFile call' handle := by
      rintro rfl
      exact hnew h
    by_cases hclosed : ∃ succeeded, call = .closeHandle handle succeeded
    · obtain ⟨succeeded, rfl⟩ := hclosed
      have hnot : handle ∉ (SystemCall.closeHandle handle succeeded).track handles :=
        fun hmem => of_decide_eq_true (List.mem_filter.mp hmem).2 rfl
      obtain ⟨hnone, hagain⟩ := closings_of_not_mem hnot hpermitted
      refine .inr ⟨?_, fun hmem => ?_⟩
      · rw [closings, if_pos rfl, hnone]
      · obtain ⟨call', hcall'⟩ := hagain hmem
        exact ⟨call', List.mem_cons_of_mem _ hcall'⟩
    · -- any other call leaves the handle open and is not counted
      obtain ⟨hmem, hsame⟩ :
          handle ∈ call.track handles ∧ closings handle (call :: rest) = closings handle rest := by
        cases call with
        | createFile call' opened =>
          have hne : opened ≠ handle := fun heq => hopened call' (by rw [heq])
          refine ⟨?_, if_neg hne⟩
          rw [SystemCall.track]
          split
          · exact h
          · exact List.mem_cons_of_mem opened h
        | deviceIoControl control result => exact ⟨h, rfl⟩
        | closeHandle closed succeeded =>
          have hne : closed ≠ handle := fun heq => hclosed ⟨succeeded, by rw [heq]⟩
          refine ⟨List.mem_filter.mpr ⟨h, decide_eq_true hne.symm⟩, ?_⟩
          rw [closings, if_neg hne, Nat.add_zero]
      rw [hsame]
      rcases ih hmem hfresh hpermitted with ⟨hnone, hopen, hnever⟩ | ⟨hone, hagain⟩
      · refine .inl ⟨hnone, hopen, fun call' hcall' => ?_⟩
        rcases List.mem_cons.mp hcall' with heq | hcall'
        · exact hopened call' heq.symm
        · exact hnever call' hcall'
      · refine .inr ⟨hone, fun hmem' => ?_⟩
        obtain ⟨call', hcall'⟩ := hagain hmem'
        exact ⟨call', List.mem_cons_of_mem call hcall'⟩

/-- A handle that was handed out is closed once, unless it stays open and is not handed out
again. -/
theorem closings_of_opened (hfresh : EachCall SystemCall.IsFresh handles trace)
    (hpermitted : EachCall SystemCall.IsPermitted handles trace) {before after : List SystemCall}
    {call : OpenCall} (hsplit : trace = before ++ .createFile call handle :: after)
    (hhandle : handle ≠ Handle.invalid) :
    (closings handle after = 0 ∨ closings handle after = 1) ∧
      (closings handle after = 0 ↔
        handle ∈ openHandles handles trace ∧ ∀ call', .createFile call' handle ∉ after) := by
  rw [hsplit, eachCall_append] at hfresh hpermitted
  have hmem : handle ∈ (SystemCall.createFile call handle).track (openHandles handles before) := by
    rw [SystemCall.track, if_neg hhandle]
    exact List.mem_cons_self
  have hopen : openHandles ((SystemCall.createFile call handle).track (openHandles handles before))
      after = openHandles handles trace := by
    rw [hsplit, openHandles_append]
    rfl
  rcases closings_of_mem hmem (eachCall_cons.mp hfresh.2).2 (eachCall_cons.mp hpermitted.2).2 with
    ⟨hnone, hstill, hnever⟩ | ⟨hone, hagain⟩
  · rw [hopen] at hstill
    exact ⟨.inl hnone, fun _ => ⟨hstill, hnever⟩, fun _ => hnone⟩
  · rw [hopen] at hagain
    refine ⟨.inr hone, fun hnone => ?_, fun ⟨hstill, hnever⟩ => ?_⟩
    · rw [hone] at hnone
      cases hnone
    · obtain ⟨call', hcall'⟩ := hagain hstill
      exact absurd hcall' (hnever call')

/-- Calls that send control codes with an open handle are permitted and leave the open handles as
they are. -/
theorem eachCall_control (h : handle ∈ handles)
    (hcalls : ∀ call ∈ trace, ∃ control result,
      call = .deviceIoControl control result ∧ control.handle = handle) :
    EachCall SystemCall.IsPermitted handles trace ∧ openHandles handles trace = handles := by
  induction trace with
  | nil => exact ⟨eachCall_nil, rfl⟩
  | cons call rest ih =>
    obtain ⟨control, result, rfl, hhandle⟩ := hcalls call List.mem_cons_self
    obtain ⟨hrest, hopen⟩ := ih fun call' hcall' => hcalls call' (List.mem_cons_of_mem _ hcall')
    refine ⟨eachCall_cons.mpr ⟨fun handle' hsome => ?_, hrest⟩, hopen⟩
    obtain rfl := Option.some.inj hsome
    rwa [hhandle]

end Trace

/-! ### Actions -/

/-- Something that is done with ports. The ports that are held are counted from the one that was
opened last. -/
inductive Action where
  /-- Open the port of a number. -/
  | connect (number : UInt32)
  /-- Open a path. -/
  | acquire (path : String)
  /-- Use a port. -/
  | call (i : Nat) (c : Call)
  /-- Send a request through a port. -/
  | request (i : Nat) (q : Request)
  /-- Close a port. -/
  | close (i : Nat)
  /-- Give a port up. -/
  | drop (i : Nat)

namespace Action

section Run

variable (sys : System σ)

/-- The ports that are held once a port was to be opened. -/
def takeIn (ports : List ComPort) : Except TransportError ComPort → List ComPort
  | .ok port => port :: ports
  | .error _ => ports

/-- Does something with one of the ports, if it is held. -/
def onPort (ports : List ComPort) (i : Nat) (f : ComPort → Work σ (List ComPort)) :
    Work σ (List ComPort) :=
  match ports[i]? with
  | none => pure ports
  | some port => f port

/-- Takes an action on the ports that are held. Its result are the ports that are held after it. -/
def run (ports : List ComPort) : Action → Work σ (List ComPort)
  | connect number => takeIn ports <$> ComPort.connect sys number
  | acquire path => takeIn ports <$> ComPort.acquire sys path
  | call i c => onPort ports i fun port => (fun _ => ports) <$> ((port.toPort sys).call c).run
  | request i q => onPort ports i fun port => (fun _ => ports) <$> (port.toPort sys).ask q
  | close i => onPort ports i fun port =>
    (fun _ => ports.eraseIdx i) <$> (port.toPort sys).close.run
  | drop i => onPort ports i fun port => (fun _ => ports.eraseIdx i) <$> port.drop sys

/-- Takes actions one after the other. -/
def runAll (ports : List ComPort) : List Action → Work σ (List ComPort)
  | [] => pure ports
  | action :: rest => do runAll (← action.run sys ports) rest

end Run

/-- What an action does to the ports that are held, and the calls it makes of the system. -/
inductive Effect (ports : List ComPort) : List ComPort → List SystemCall → Prop
  /-- There is no such port. -/
  | idle : Effect ports ports []
  /-- A path was not opened. -/
  | refused (call : OpenCall) : Effect ports ports [.createFile call Handle.invalid]
  /-- A path was opened. -/
  | opened (call : OpenCall) (port : ComPort) (h : port.handle ≠ Handle.invalid) :
      Effect ports (port :: ports) [.createFile call port.handle]
  /-- Control codes were sent with the handle of a port. -/
  | used {port : ComPort} {calls : List SystemCall} (h : port ∈ ports)
      (hcalls : ∀ call ∈ calls, ∃ control result,
        call = .deviceIoControl control result ∧ control.handle = port.handle) :
      Effect ports ports calls
  /-- A port was closed or given up. -/
  | released {i : Nat} {port : ComPort} (h : ports[i]? = some port) (succeeded : Bool) :
      Effect ports (ports.eraseIdx i) [.closeHandle port.handle succeeded]

namespace Effect

variable {ports ports' : List ComPort} {calls : List SystemCall}

/-- The ports that are held have handles. -/
theorem invalid_not_mem (h : Effect ports ports' calls)
    (hinvalid : Handle.invalid ∉ ports.map ComPort.handle) :
    Handle.invalid ∉ ports'.map ComPort.handle := by
  cases h with
  | idle => exact hinvalid
  | refused call => exact hinvalid
  | opened call port hport =>
    intro hmem
    rcases List.mem_cons.mp hmem with heq | hmem
    · exact hport heq.symm
    · exact hinvalid hmem
  | used hmem hcalls => exact hinvalid
  | released hi succeeded =>
    exact fun hmem => hinvalid (((List.eraseIdx_sublist ports _).map ComPort.handle).subset hmem)

/-- An action is permitted, and after it the open handles are those of the ports that are held. -/
theorem openHandles_eq (h : Effect ports ports' calls)
    (hnodup : (ports.map ComPort.handle).Nodup)
    (hfresh : EachCall SystemCall.IsFresh (ports.map ComPort.handle) calls) :
    EachCall SystemCall.IsPermitted (ports.map ComPort.handle) calls ∧
      openHandles (ports.map ComPort.handle) calls = ports'.map ComPort.handle ∧
      (ports'.map ComPort.handle).Nodup := by
  cases h with
  | idle => exact ⟨eachCall_nil, rfl, hnodup⟩
  | refused call =>
    exact ⟨eachCall_singleton.mpr (SystemCall.isPermitted_createFile _ _ _),
      SystemCall.track_refused _ call, hnodup⟩
  | opened call port hport =>
    exact ⟨eachCall_singleton.mpr (SystemCall.isPermitted_createFile _ _ _), if_neg hport,
      List.nodup_cons.mpr ⟨eachCall_singleton.mp hfresh, hnodup⟩⟩
  | used hmem hcalls =>
    obtain ⟨hpermitted, hopen⟩ := eachCall_control (List.mem_map_of_mem hmem) hcalls
    exact ⟨hpermitted, hopen, hnodup⟩
  | @released i port hi succeeded =>
    have hmem : port.handle ∈ ports.map ComPort.handle :=
      List.mem_map_of_mem (List.mem_of_getElem? hi)
    obtain ⟨hlt, hport⟩ := List.getElem?_eq_some_iff.mp hi
    have hlength : i < (ports.map ComPort.handle).length := by rwa [List.length_map]
    have hhandle : (ports.map ComPort.handle)[i] = port.handle := by
      rw [List.getElem_map, hport]
    -- no other port has this handle, so closing the handle takes out this port
    have herase : (ports.eraseIdx i).map ComPort.handle =
        (ports.map ComPort.handle).erase port.handle := by
      rw [← hhandle, hnodup.erase_getElem, List.eraseIdx_map]
    refine ⟨eachCall_singleton.mpr fun _ hsome => Option.some.inj hsome ▸ hmem, ?_, ?_⟩
    · rw [herase, hnodup.erase_eq_filter]
      exact List.filter_congr fun _ _ => Bool.eq_iff_iff.mpr (by simp)
    · rw [herase]
      exact hnodup.erase _

end Effect

section Recorded

variable (sys : System σ) (ports : List ComPort) (s : σ) (made : List SystemCall)

/-- To open a path is to open it or to be refused. -/
theorem acquire_recorded (path : String) :
    let run := (acquire path).run sys.recorded ports (s, made)
    ∃ calls, run.state.2 = made ++ calls ∧ Effect ports run.result calls := by
  intro run
  have hstate : run.state = (ComPort.acquire sys.recorded path (s, made)).state := rfl
  have hresult : run.result = takeIn ports (ComPort.acquire sys.recorded path (s, made)).result :=
    rfl
  refine ⟨_, by rw [hstate, ComPort.state_acquire_recorded], ?_⟩
  rw [hresult]
  rcases sys.exists_opens path s with hinvalid | ⟨port, s', rfl, hopens⟩
  · obtain ⟨e, he⟩ := ComPort.acquire_recorded_of_invalid sys s made hinvalid
    rw [he, hinvalid]
    exact .refused _
  · rw [ComPort.acquire_recorded_of_opens sys port s made hopens, hopens.1]
    exact .opened _ port hopens.2

/-- Requests through a port are calls with its handle. -/
theorem after_recorded_control (port : ComPort) (qs : List Request) :
    ∃ calls, ((port.channel sys.recorded).after qs (s, made)).2 = made ++ calls ∧
      ∀ call ∈ calls, ∃ control result,
        call = .deviceIoControl control result ∧ control.handle = port.handle := by
  induction qs generalizing s made with
  | nil => exact ⟨[], (List.append_nil made).symm, fun _ hcall => absurd hcall List.not_mem_nil⟩
  | cons q rest ih =>
    have hfirst := congrArg Prod.snd (port.control_recorded sys q s made)
    obtain ⟨calls, hcalls, hhandle⟩ := ih _ _
    rw [Channel.after, ComPort.channel_control, hfirst, hcalls, List.append_assoc]
    refine ⟨_, rfl, fun call hcall => ?_⟩
    rcases List.mem_cons.mp hcall with rfl | hcall
    · exact ⟨_, _, rfl, rfl⟩
    · exact hhandle call hcall

/-- What is done with a port has one of the effects; without the port nothing is done. -/
theorem onPort_recorded {i : Nat} {f : ComPort → Work (σ × List SystemCall) (List ComPort)}
    (h : ∀ port, ports[i]? = some port → ∃ calls, (f port (s, made)).state.2 = made ++ calls ∧
      Effect ports (f port (s, made)).result calls) :
    ∃ calls, (onPort ports i f (s, made)).state.2 = made ++ calls ∧
      Effect ports (onPort ports i f (s, made)).result calls := by
  cases hi : ports[i]? with
  | none =>
    have hidle : onPort ports i f = pure ports := by rw [onPort, hi]
    rw [hidle]
    exact ⟨[], (List.append_nil made).symm, .idle⟩
  | some port =>
    have hport : onPort ports i f = f port := by rw [onPort, hi]
    rw [hport]
    exact h port hi

/-- **What an action does.** On ports that have handles, an action has one of the effects, and the
calls it makes are those of the effect. -/
theorem run_recorded (hinvalid : Handle.invalid ∉ ports.map ComPort.handle) (action : Action) :
    let run := action.run sys.recorded ports (s, made)
    ∃ calls, run.state.2 = made ++ calls ∧ Effect ports run.result calls := by
  cases action with
  | connect number => exact acquire_recorded sys ports s made (devicePath number)
  | acquire path => exact acquire_recorded sys ports s made path
  | call i c =>
    refine onPort_recorded ports s made fun port hi => ?_
    have hstate := ((port.toPort sys.recorded).call_requests c (s, made)).2
    obtain ⟨calls, hcalls, hhandle⟩ := after_recorded_control sys s made port
      (((port.toPort sys.recorded).call c).run (s, made)).requests
    exact ⟨calls, (congrArg Prod.snd hstate).trans hcalls,
      .used (List.mem_of_getElem? hi) hhandle⟩
  | request i q =>
    refine onPort_recorded ports s made fun port hi => ?_
    obtain ⟨calls, hcalls, hhandle⟩ := after_recorded_control sys s made port [q]
    exact ⟨calls, hcalls, .used (List.mem_of_getElem? hi) hhandle⟩
  | close i =>
    refine onPort_recorded ports s made fun port hi => ?_
    have hclose := congrArg Run.state ((port.toPort sys.recorded).close_run (s, made))
    have hstate := congrArg Prod.snd (port.state_close_recorded sys s made)
    exact ⟨_, (congrArg Prod.snd hclose).trans hstate, .released hi _⟩
  | drop i =>
    refine onPort_recorded ports s made fun port hi => ?_
    -- the port has a handle, so there is something to close
    have hport : port.handle ≠ Handle.invalid := fun heq =>
      hinvalid (heq ▸ List.mem_map_of_mem (List.mem_of_getElem? hi))
    have hstate := congrArg Prod.snd (port.state_drop_recorded sys s made hport)
    exact ⟨_, hstate, .released hi _⟩

/-- **What a run of actions does.** Unless a handle is handed out that is open, each call is
permitted, and the open handles are those of the ports that are held at the end, one each. -/
theorem runAll_recorded (hinvalid : Handle.invalid ∉ ports.map ComPort.handle)
    (actions : List Action) :
    let run := runAll sys.recorded ports actions (s, made)
    ∃ calls, run.state.2 = made ++ calls ∧
      ((ports.map ComPort.handle).Nodup →
        EachCall SystemCall.IsFresh (ports.map ComPort.handle) calls →
          EachCall SystemCall.IsPermitted (ports.map ComPort.handle) calls ∧
          openHandles (ports.map ComPort.handle) calls = run.result.map ComPort.handle ∧
          (run.result.map ComPort.handle).Nodup) := by
  induction actions generalizing ports s made with
  | nil => exact ⟨[], (List.append_nil made).symm, fun hnodup _ => ⟨eachCall_nil, rfl, hnodup⟩⟩
  | cons action rest ih =>
    obtain ⟨first, hfirst, heffect⟩ := run_recorded sys ports s made hinvalid action
    obtain ⟨others, hothers, hrest⟩ :=
      ih (action.run sys.recorded ports (s, made)).result
        (action.run sys.recorded ports (s, made)).state.1
        (action.run sys.recorded ports (s, made)).state.2 (heffect.invalid_not_mem hinvalid)
    refine ⟨first ++ others, ?_, fun hnodup hfresh => ?_⟩
    · rw [← List.append_assoc, ← hfirst]
      exact hothers
    · obtain ⟨hfreshFirst, hfreshRest⟩ := eachCall_append.mp hfresh
      obtain ⟨hpermitted, hopen, hnodup'⟩ := heffect.openHandles_eq hnodup hfreshFirst
      rw [hopen] at hfreshRest
      rw [eachCall_append, openHandles_append, hopen]
      obtain ⟨hpermittedRest, hopenRest, hnodupRest⟩ := hrest hnodup' hfreshRest
      exact ⟨⟨hpermitted, hpermittedRest⟩, hopenRest, hnodupRest⟩

end Recorded

end Action

/-! ### The discipline -/

/-- **Every handle is closed exactly once.** Take any actions on any system that does not hand out
a handle that is open. Each call is made with an open handle, never with the one that stands for
none, and the open handles are those of the ports that are held, each held once. After a handle was
handed out it is passed to be closed at most once, and that once unless a port still holds it. A
path that is not opened is asked for once, and the ports stay what they were. -/
theorem handles_closed_once (sys : System σ) (s : σ) (actions : List Action)
    (hfresh : EachCall SystemCall.IsFresh []
      (Action.runAll sys.recorded [] actions (s, [])).state.2) :
    let run := Action.runAll sys.recorded [] actions (s, [])
    let trace := run.state.2
    EachCall SystemCall.IsPermitted [] trace ∧
    (∀ call ∈ trace, call.handle? ≠ some Handle.invalid) ∧
    (openHandles [] trace = run.result.map ComPort.handle ∧
      (run.result.map ComPort.handle).Nodup) ∧
    (∀ before call handle after, trace = before ++ .createFile call handle :: after →
      handle ≠ Handle.invalid →
        (closings handle after = 0 ∨ closings handle after = 1) ∧
        (closings handle after = 0 ↔ handle ∈ run.result.map ComPort.handle ∧
          ∀ call', .createFile call' handle ∉ after)) ∧
    ∀ path, (sys.createFile (ComPort.openCall path) run.state.1).1 = Handle.invalid →
      let next := (Action.acquire path).run sys.recorded run.result run.state
      next.result = run.result ∧
        next.state.2 = trace ++ [.createFile (ComPort.openCall path) Handle.invalid] := by
  intro run trace
  obtain ⟨calls, hcalls, hheld⟩ := Action.runAll_recorded sys [] s [] List.not_mem_nil actions
  obtain rfl : trace = calls := hcalls
  obtain ⟨hpermitted, hopen, hnodup⟩ := hheld List.nodup_nil hfresh
  refine ⟨hpermitted, handle?_ne_invalid List.not_mem_nil hpermitted, ⟨hopen, hnodup⟩, ?_, ?_⟩
  · intro before call handle after hsplit hhandle
    rw [← hopen]
    exact closings_of_opened hfresh hpermitted hsplit hhandle
  · intro path hinvalid next
    obtain ⟨e, he⟩ := ComPort.acquire_recorded_of_invalid sys run.state.1 trace hinvalid
    have hstate := ComPort.state_acquire_recorded sys run.state.1 trace path
    rw [hinvalid] at hstate
    exact ⟨congrArg (Action.takeIn run.result) he, congrArg Prod.snd hstate⟩

/-- A run on a machine that fails to close anything: two ports are opened, one is used and given
up, the other is closed, and a third is opened and held. -/
theorem handles_closed_once_failing :
    let sys := Machine.system fun _ => ""
    let start : Machine := { closeFailure := some 6 }
    let actions : List Action :=
      [.connect 1, .connect 2, .call 1 (.named .rs485), .close 0, .call 0 .snapshot, .drop 0,
        .connect 3]
    let trace := (Action.runAll sys.recorded [] actions (start, [])).state.2
    EachCall SystemCall.IsFresh [] trace ∧ EachCall SystemCall.IsPermitted [] trace ∧
      openHandles [] trace = [⟨12⟩] := by
  intro sys start actions trace
  have hfresh : EachCall SystemCall.IsFresh [] trace := by decide +kernel
  have hdiscipline := handles_closed_once sys start actions hfresh
  exact ⟨hfresh, hdiscipline.1, by decide +kernel⟩

end SerialCard.Win32
