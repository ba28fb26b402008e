import SerialCard.Work
import SerialCard.Text.Utf16

/-!
# System calls

The three calls of the Windows system that a port is made of: one opens a device, one sends it a
control code, one closes its handle. `System σ` is a system whose states are `σ`, free to answer as
it likes; a call that fails leaves its reason in the last error. `System.recorded` also keeps the
list of all calls that were made.
-/

namespace SerialCard.Win32

/-- A handle to an open device. -/
structure Handle where
  value : UInt64
  deriving DecidableEq, Repr

/-- The handle that stands for none. -/
def Handle.invalid : Handle := ⟨0xFFFFFFFFFFFFFFFF⟩

/-- The arguments by which a device is opened. -/
structure OpenCall where
  /-- The name in 16-bit units, with a zero at the end. -/
  name : List UInt16
  access : UInt32
  share : UInt32
  /-- Whether security attributes are passed. -/
  security : Bool
  disposition : UInt32
  attributes : UInt32
  /-- Whether a template is passed. -/
  template : Bool
  deriving DecidableEq, Repr

/-- The arguments by which a control code is sent. -/
structure ControlCall where
  handle : Handle
  code : ControlCode
  /-- The input buffer, if one is passed. -/
  input : Option Bytes
  inputSize : UInt32
  /-- Whether an output buffer is passed. -/
  output : Bool
  outputSize : UInt32
  /-- Whether the call may outlast its return. -/
  overlapped : Bool
  deriving DecidableEq, Repr

/-- What comes of sending a control code. -/
structure ControlResult where
  succeeded : Bool
  /-- The bytes written to the front of the output buffer. -/
  written : Bytes
  /-- The number of bytes the driver says it returned. -/
  returned : UInt32
  deriving DecidableEq, Repr

/-- A system whose states are `σ`. -/
structure System (σ : Type) where
  /-- Opens a device. -/
  createFile : OpenCall → σ → Handle × σ
  /-- Sends a control code to a device. -/
  deviceIoControl : ControlCall → σ → ControlResult × σ
  /-- Closes a handle; says whether that worked. -/
  closeHandle : Handle → σ → Bool × σ
  /-- The number of the error of the last call that failed. -/
  lastError : σ → UInt32
  /-- The system's wording for the number of an error, taken with a sign. -/
  wording : Int32 → String

/-- A call that was made, with what came of it. -/
inductive SystemCall where
  | createFile (call : OpenCall) (handle : Handle)
  | deviceIoControl (call : ControlCall) (result : ControlResult)
  | closeHandle (handle : Handle) (succeeded : Bool)
  deriving DecidableEq, Repr

namespace System

variable {σ : Type} (sys : System σ)

/-- The system with a list of the calls made, the oldest first. -/
def recorded : System (σ × List SystemCall) where
  createFile call := fun (s, made) =>
    let r := sys.createFile call s
    (r.1, r.2, made ++ [.createFile call r.1])
  deviceIoControl call := fun (s, made) =>
    let r := sys.deviceIoControl call s
    (r.1, r.2, made ++ [.deviceIoControl call r.1])
  closeHandle handle := fun (s, made) =>
    let r := sys.closeHandle handle s
    (r.1, r.2, made ++ [.closeHandle handle r.1])
  lastError := fun (s, _) => sys.lastError s
  wording := sys.wording

/-- The error of a number, in the system's words. -/
def osError (number : UInt32) : OsError :=
  ⟨some number.toInt32, sys.wording number.toInt32⟩

end System

end SerialCard.Win32
