/-!
# Values on the wire

Every value that is sent to the driver or read from it has a fixed size: a truth value takes one
byte, a 32-bit number four bytes, the lowest first. `Wire.decode` accepts byte strings of exactly
that size, and any byte but zero counts as true.
-/

namespace SerialCard

/-- A byte string. -/
abbrev Bytes := List UInt8

/-- The size of a truth value on the wire. -/
def flagSize : Nat := 1

/-- The size of a 32-bit number on the wire. -/
def wordSize : Nat := 4

/-- Values with a wire form of fixed size. -/
class Wire (α : Type) where
  /-- The number of bytes of every value. -/
  size : Nat
  /-- The bytes of a value. -/
  encode : α → Bytes
  /-- The value of some bytes, if their number is right. -/
  decode : Bytes → Option α

/-- One byte, one for true and zero for false. -/
instance : Wire Bool where
  size := flagSize
  encode b := [if b then 1 else 0]
  decode
    | [b] => some (b != 0)
    | _ => none

/-- Four bytes, the lowest first. -/
instance : Wire UInt32 where
  size := wordSize
  encode w :=
    [w.toUInt8, (w / 0x100).toUInt8, (w / 0x10000).toUInt8, (w / 0x1000000).toUInt8]
  decode
    | [a, b, c, d] =>
      some (a.toUInt32 + b.toUInt32 * 0x100 + c.toUInt32 * 0x10000 + d.toUInt32 * 0x1000000)
    | _ => none

/-- The four bytes of the two's complement, the lowest first. -/
instance : Wire Int32 where
  size := wordSize
  encode n := Wire.encode n.toUInt32
  decode bytes := (Wire.decode bytes : Option UInt32).map UInt32.toInt32

end SerialCard
