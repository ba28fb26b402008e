import SerialCard.Port.Call
import SerialCard.Win32.ComPort

/-!
# Sessions

A session is a run of steps on at most one open port: open one, use it, close it or drop it. Opening
a port while another is open drops the other one, but only if the opening succeeds; closing uses the
port up whether or not the system agrees.
-/

namespace SerialCard.Win32

/-- A step of a session. -/
inductive Step where
  /-- Open the port of a number. -/
  | connect (number : UInt32)
  /-- Open a path. -/
  | acquire (path : String)
  /-- Close the port. -/
  | close
  /-- Give the port up. -/
  | drop
  /-- Open a path, send one request, and give the port up. -/
  | probe (path : String) (request : Request)
  /-- Use the port. -/
  | call (c : Call)

/-- What a step answers. -/
inductive StepAnswer where
  | done
  | bytes (reply : Bytes)
  | answer (a : Answer)
  /-- There is no port to use. -/
  | noPort

/-- A step's answer or error, and the port that is open after it. -/
structure StepResult where
  answer : Except PortError StepAnswer
  port : Option ComPort

variable {σ : Type} (sys : System σ)

namespace Step

/-- Gives up the port of a session, if there is one. -/
def dropAny : Option ComPort → Work σ Unit
  | some port => port.drop sys
  | none => return ()

/-- Takes in a port that was to be opened. -/
def install (opened : Except TransportError ComPort) (before : Option ComPort) :
    Work σ StepResult := do
  match opened with
  | .error e => return ⟨.error (.transport e), before⟩
  | .ok port =>
    dropAny sys before
    return ⟨.ok .done, some port⟩

/-- Takes a step. -/
def run (before : Option ComPort) : Step → Work σ StepResult
  | connect number => do install sys (← ComPort.connect sys number) before
  | acquire path => do install sys (← ComPort.acquire sys path) before
  | close => do
    match before with
    | none => return ⟨.ok .noPort, none⟩
    | some port =>
      match ← ((port.toPort sys).close).run with
      | .ok () => return ⟨.ok .done, none⟩
      | .error e => return ⟨.error e, none⟩
  | drop => do
    dropAny sys before
    return ⟨.ok .done, none⟩
  | probe path request => do
    match ← ComPort.acquire sys path with
    | .error e => return ⟨.error (.transport e), before⟩
    | .ok port =>
      let reply ← (port.toPort sys).ask request
      port.drop sys
      match reply with
      | .ok bytes => return ⟨.ok (.bytes bytes), before⟩
      | .error fault => return ⟨.error (.device request.code fault), before⟩
  | call c => do
    match before with
    | none => return ⟨.ok .noPort, none⟩
    | some port =>
      match ← ((port.toPort sys).call c).run with
      | .ok a => return ⟨.ok (.answer a), before⟩
      | .error e => return ⟨.error e, before⟩

/-- Takes steps one after the other, starting with the given port, and gives up at the end what is
still open. -/
def runAll (before : Option ComPort) : List Step → Work σ (List (Except PortError StepAnswer))
  | [] => do
    dropAny sys before
    return []
  | step :: rest => do
    let result ← run sys before step
    let answers ← runAll result.port rest
    return result.answer :: answers

end Step

end SerialCard.Win32
