import SerialCard.Setting

/-!
# What can go wrong

`TransportError` covers opening and closing a port, `DeviceFault` says why a single request failed,
and `PortError` is what every access to a port may end with. `InvalidConfig` is what can be wrong
with a configuration that could be read. Each kind has a `message`, and a `PortError` also has the
messages of the causes behind it.
-/

namespace SerialCard

/-- An error of the operating system: its number, if it has one, and its wording. Numbers are kept
with a sign; a system that counts errors without one has the upper half of them shown as
negative. -/
structure OsError where
  number : Option Int32
  text : String
  deriving DecidableEq, Repr

/-- Why a port was not opened or closed. -/
inductive TransportError where
  /-- There is no such port. -/
  | notFound (target : String)
  /-- The port is not ours to open. -/
  | permissionDenied (target : String)
  /-- Anything else the system reports. -/
  | io (target : String) (error : OsError)
  deriving DecidableEq, Repr

namespace TransportError

/-- The wording of the error. -/
def message : TransportError → String
  | notFound target => "port '" ++ target ++ "' not found"
  | permissionDenied target => "insufficient permissions to open '" ++ target ++ "'"
  | io target error => "I/O error on '" ++ target ++ "': " ++ error.text

/-- The messages of the causes behind the error, the nearest first. -/
def causes : TransportError → List String
  | io _ error => [error.text]
  | _ => []

end TransportError

/-- Why a request was refused, or why its answer is of no use. -/
inductive DeviceFault where
  /-- The card has no such feature. -/
  | unsupported
  /-- The port is closed. -/
  | invalidHandle
  /-- The caller may not do this. -/
  | permissionDenied
  /-- The answer does not have the length it must have. -/
  | lengthMismatch (expected actual : Nat)
  /-- Anything else the system reports. -/
  | os (error : OsError)
  deriving DecidableEq, Repr

namespace DeviceFault

/-- The wording of the fault. -/
def message : DeviceFault → String
  | unsupported => "operation not supported by this card"
  | invalidHandle => "handle is closed or invalid"
  | permissionDenied => "insufficient privilege"
  | lengthMismatch expected actual =>
    "expected " ++ toString expected ++ " response byte(s), driver returned " ++ toString actual
  | os error => "OS error: " ++ error.text

/-- The messages of the causes behind the fault, the nearest first. -/
def causes : DeviceFault → List String
  | os error => [error.text]
  | _ => []

end DeviceFault

/-- Why an access to a port failed. -/
inductive PortError where
  /-- The port was not opened or closed. -/
  | transport (error : TransportError)
  /-- The request with this code failed. -/
  | device (code : ControlCode) (fault : DeviceFault)
  /-- The card reports a family that is not known. -/
  | unrecognizedCard (raw : UInt32)
  /-- The setting of this name cannot be read. -/
  | unreadable (name : String)
  deriving DecidableEq, Repr

namespace PortError

/-- The wording of the error. A transport error speaks for itself. -/
def message : PortError → String
  | transport error => error.message
  | device code fault => "control request " ++ code.text ++ " failed: " ++ fault.message
  | unrecognizedCard raw => "card reported unrecognized type " ++ toString raw.toNat
  | unreadable name => "'" ++ name ++ "' cannot be read back"

/-- The messages of the causes behind the error, the nearest first. A transport error stands for
itself and adds no cause. -/
def causes : PortError → List String
  | transport error => error.causes
  | device _ fault => fault.message :: fault.causes
  | _ => []

/-- The fault behind the error, if a request was made. -/
def fault? : PortError → Option DeviceFault
  | device _ fault => some fault
  | _ => none

/-- Whether the card lacks the feature that was asked for. -/
def isUnsupported (e : PortError) : Bool :=
  e.fault? == some .unsupported

/-- The error and its causes in one line. -/
def chain (e : PortError) : String :=
  ": ".intercalate (e.message :: e.causes)

end PortError

/-- What makes a configuration that could be read invalid. -/
inductive InvalidConfig where
  /-- There is no log level of this name. -/
  | level (name : String)
  /-- The port has neither a path nor a number. -/
  | noPort
  deriving DecidableEq, Repr

/-- The wording of the complaint. -/
def InvalidConfig.message : InvalidConfig → String
  | level name => "invalid log level '" ++ name ++ "'"
  | noPort => "[port] needs either `number` or `path`"

/-- The family of a reported number, or the complaint that there is none. -/
def CardKind.ofOrdinal (raw : UInt32) : Except PortError CardKind :=
  match CardKind.ofOrdinal? raw with
  | some kind => .ok kind
  | none => .error (.unrecognizedCard raw)

end SerialCard
