/-!
# UTF-16

`Utf16.encode` writes characters as 16-bit units: one unit for a character below 65536, a pair of
surrogates for any other. `Utf16.decode` reads them back and refuses surrogates that do not pair
up. A buffer for a system that stops at the first zero unit is read by `Utf16.name?`.
-/

namespace SerialCard.Text.Utf16

/-- The units of a character. -/
def encodeChar (c : Char) : List UInt16 :=
  let n := c.toNat
  if n < 0x10000 then [n.toUInt16]
  else [(0xD800 + (n - 0x10000) / 0x400).toUInt16, (0xDC00 + (n - 0x10000) % 0x400).toUInt16]

/-- The units of some characters. -/
def encode (cs : List Char) : List UInt16 :=
  cs.flatMap encodeChar

/-- Whether a unit is the first of a pair. -/
def isHigh (u : UInt16) : Bool :=
  0xD800 ≤ u && u ≤ 0xDBFF

/-- Whether a unit is the second of a pair. -/
def isLow (u : UInt16) : Bool :=
  0xDC00 ≤ u && u ≤ 0xDFFF

/-- The character of a pair. -/
def pair (high low : UInt16) : Char :=
  Char.ofNat (0x10000 + (high.toNat - 0xD800) * 0x400 + (low.toNat - 0xDC00))

/-- The characters of some units, if every surrogate is part of a pair. -/
def decode : List UInt16 → Option (List Char)
  | [] => some []
  | [u] => if isHigh u || isLow u then none else some [Char.ofNat u.toNat]
  | u :: v :: rest =>
    if isHigh u then
      if isLow v then (decode rest).map (pair u v :: ·) else none
    else if isLow u then none
    else (decode (v :: rest)).map (Char.ofNat u.toNat :: ·)

/-- The units before the first zero. -/
def untilZero (units : List UInt16) : List UInt16 :=
  units.takeWhile (· != 0)

/-- The name in a buffer: the characters before the first zero. -/
def name? (buffer : List UInt16) : Option String :=
  (decode (untilZero buffer)).map String.ofList

end SerialCard.Text.Utf16
