/-!
# Control codes

A control code is the 32-bit word by which a driver is told what to do. Four fields are packed
into it:

| bits  | field       |
|-------|-------------|
| 31–16 | device type |
| 15–14 | access      |
| 13–2  | function    |
| 1–0   | method      |

`ControlCode.ofFields?` packs four numbers and refuses the first one that does not fit its bits;
`ControlCode.fields` takes a code apart again. Codes are ordered as numbers, which is the order of
the fields from the highest bit down.
-/

namespace SerialCard

/-- A 32-bit control code. -/
structure ControlCode where
  /-- The code as a number. -/
  raw : UInt32
  deriving DecidableEq, Repr, Inhabited

namespace ControlCode

/-- The four numbers a control code is made of. -/
structure Fields where
  /-- The kind of device the driver is registered for. -/
  deviceType : UInt32
  /-- The number of the operation. -/
  function : UInt32
  /-- How buffers are passed. -/
  method : UInt32
  /-- The access a caller needs. -/
  access : UInt32
  deriving DecidableEq, Repr

/-- The field that is too wide for its bits. -/
inductive FieldError where
  | deviceType
  | function
  | method
  | access
  deriving DecidableEq, Repr

/-- The complaint about a field that is too wide. -/
def FieldError.message : FieldError → String
  | deviceType => "device type must fit in 16 bits"
  | function => "function number must fit in 12 bits"
  | method => "method must fit in 2 bits"
  | access => "access must fit in 2 bits"

/-- The first field, in the order device type, function, method, access, that is too wide. -/
def Fields.misfit? (f : Fields) : Option FieldError :=
  if f.deviceType ≥ 0x10000 then some .deviceType
  else if f.function ≥ 0x1000 then some .function
  else if f.method ≥ 4 then some .method
  else if f.access ≥ 4 then some .access
  else none

/-- The fields laid side by side. Only fields that fit their bits come back out of it. -/
def ofFields (f : Fields) : ControlCode :=
  ⟨f.deviceType * 0x10000 + f.access * 0x4000 + f.function * 4 + f.method⟩

/-- The code of four fields that all fit their bits. -/
def ofFields? (f : Fields) : Except FieldError ControlCode :=
  match f.misfit? with
  | some e => .error e
  | none => .ok (ofFields f)

/-- The fields of a code. -/
def fields (c : ControlCode) : Fields where
  deviceType := c.raw / 0x10000
  function := c.raw / 4 % 0x1000
  method := c.raw % 4
  access := c.raw / 0x4000 % 4

/-- Codes are compared as numbers. -/
instance : Ord ControlCode where
  compare a b := compare a.raw b.raw

/-- The upper-case hexadecimal digit of a number below sixteen. -/
def hexDigit (n : Nat) : Char :=
  if n < 10 then Char.ofNat (48 + n) else Char.ofNat (55 + n)

/-- The eight upper-case hexadecimal digits of a code, the highest first. -/
def digits (c : ControlCode) : List Char :=
  [0x10000000, 0x1000000, 0x100000, 0x10000, 0x1000, 0x100, 0x10, 1].map fun unit =>
    hexDigit (c.raw.toNat / unit % 16)

end ControlCode

end SerialCard
