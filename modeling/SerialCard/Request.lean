import SerialCard.Fault
import SerialCard.Wire

/-!
# Requests and replies

A request carries a control code, bytes for the driver if it takes any, and the number of bytes
that are expected back. The reply is the bytes that came back, or a fault.
-/

namespace SerialCard

/-- One request to a driver. -/
structure Request where
  code : ControlCode
  input : Option Bytes
  outputSize : Nat
  deriving DecidableEq, Repr

/-- The number of bytes sent along. -/
def Request.inputSize (r : Request) : Nat :=
  (r.input.map List.length).getD 0

/-- The bytes a driver answers with, or its fault. -/
abbrev Reply := Except DeviceFault Bytes

end SerialCard
