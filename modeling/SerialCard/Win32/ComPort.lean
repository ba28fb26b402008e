import SerialCard.Port
import SerialCard.Win32.System

/-!
# Ports of the Windows system

`ComPort` is an open port: a handle and the path it was opened under. It is opened for reading and
writing, answers the requests of a channel one call each, and gives its handle back exactly once:
when it is closed, or else when it is dropped. Error numbers of the system become the kinds of
error a caller can tell apart.
-/

namespace SerialCard.Win32

/-! ### Error numbers -/

/-- There is no such file. -/
def fileNotFound : UInt32 := 2

/-- There is no such directory. -/
def pathNotFound : UInt32 := 3

/-- The device does not know the function. -/
def invalidFunction : UInt32 := 1

/-- The caller may not do this. -/
def accessDenied : UInt32 := 5

/-- The handle is not open. -/
def invalidHandle : UInt32 := 6

/-- The device does not support the request. -/
def notSupported : UInt32 := 50

variable {σ : Type} (sys : System σ)

/-- Why a path was not opened, from the number of the error. -/
def openError (path : String) (number : UInt32) : TransportError :=
  if number = fileNotFound ∨ number = pathNotFound then .notFound path
  else if number = accessDenied then .permissionDenied path
  else .io path (sys.osError number)

/-- Why a request failed, from the number of the error. -/
def deviceFault (number : UInt32) : DeviceFault :=
  if number = notSupported ∨ number = invalidFunction then .unsupported
  else if number = invalidHandle then .invalidHandle
  else if number = accessDenied then .permissionDenied
  else .os (sys.osError number)

/-! ### Open ports -/

/-- An open port. -/
structure ComPort where
  handle : Handle
  path : String
  deriving DecidableEq, Repr

namespace ComPort

/-- How a path is opened: for reading and writing, shared with others, and only if it exists. -/
def openCall (path : String) : OpenCall where
  name := Text.Utf16.encode path.toList ++ [0]
  access := 0xC0000000
  share := 3
  security := false
  disposition := 3
  attributes := 0x80
  template := false

/-- Opens a path. -/
def acquire (path : String) : Work σ (Except TransportError ComPort) := do
  let handle ← Work.step (sys.createFile (openCall path))
  if handle = Handle.invalid then
    let number ← Work.step fun s => (sys.lastError s, s)
    return .error (openError sys path number)
  else
    Work.log (.opened path)
    return .ok ⟨handle, path⟩

/-- Opens the port of a number. -/
def connect (number : UInt32) : Work σ (Except TransportError ComPort) :=
  acquire sys (devicePath number)

variable (port : ComPort)

/-- How a request is sent. A buffer of no bytes is not passed at all. -/
def controlCall (request : Request) : ControlCall where
  handle := port.handle
  code := request.code
  input := request.input
  inputSize := request.inputSize.toUInt32
  output := request.outputSize != 0
  outputSize := request.outputSize.toUInt32
  overlapped := false

/-- An output buffer of zeros after bytes were written to its front. -/
def buffer (size : Nat) (written : Bytes) : Bytes :=
  (written ++ List.replicate size 0).take size

/-- Sends a request. The answer is as many bytes of the output buffer as the driver says it
returned, or all of them if it says more. -/
def control (request : Request) (s : σ) : Reply × σ :=
  let answer := sys.deviceIoControl (port.controlCall request) s
  if answer.1.succeeded then
    (.ok ((buffer request.outputSize answer.1.written).take answer.1.returned.toNat), answer.2)
  else
    (.error (deviceFault sys (sys.lastError answer.2)), answer.2)

/-- Gives the port up. A handle it still has is closed; a failure to do so can only be logged. -/
def drop : Work σ Unit := do
  if port.handle = Handle.invalid then
    return ()
  else if ← Work.step (sys.closeHandle port.handle) then
    return ()
  else
    let number ← Work.step fun s => (sys.lastError s, s)
    Work.log (.closeFailed port.path (sys.osError number))

/-- Closes the port. The handle is taken out of it first, so that giving up what remains does not
close it again. -/
def close : Work σ (Except TransportError Unit) := do
  let emptied : ComPort := { port with handle := Handle.invalid }
  if ← Work.step (sys.closeHandle port.handle) then
    Work.log (.closed port.path)
    emptied.drop sys
    return .ok ()
  else
    let number ← Work.step fun s => (sys.lastError s, s)
    emptied.drop sys
    return .error (.io port.path (sys.osError number))

/-- An open port as a channel to the system. -/
def channel : Channel σ where
  control request := port.control sys request
  close := port.close sys

/-- An open port as a port with typed settings. -/
def toPort : Port σ := ⟨port.channel sys⟩

end ComPort

end SerialCard.Win32
