/-!
# Binary numbers of 64 bits

`Binary64` is a number of the 64-bit binary format: a sign, a whole number below `2 ^ 53` and a
power of two, or one of the values that are no number. `Binary64.ofDecimal` takes the nearest one to
a decimal number, the even one of two that are equally near; a number beyond the largest becomes
infinite.
-/

namespace SerialCard

/-- A number of the 64-bit binary format. -/
inductive Binary64 where
  | nan
  | infinite (negative : Bool)
  /-- The number `mantissa * 2 ^ exponent`, or its opposite. -/
  | finite (negative : Bool) (mantissa : Nat) (exponent : Int)
  deriving DecidableEq, Repr

namespace Binary64

/-- The least exponent. -/
def minExponent : Int := -1074

/-- The greatest exponent. -/
def maxExponent : Int := 971

/-- The power `2 ^ n`; one for a negative `n`. -/
def pow2 (n : Int) : Nat :=
  Nat.pow 2 n.toNat

/-- The power `10 ^ n`; one for a negative `n`. -/
def pow10 (n : Int) : Nat :=
  Nat.pow 10 n.toNat

/-- The quotient of two numbers, to the nearest whole number, the even one of two. -/
def divNearest (num den : Nat) : Nat :=
  let k := num / den
  let r := num % den
  if 2 * r < den then k
  else if den < 2 * r then k + 1
  else k + k % 2

/-- The exponent of the greatest power of two that is not above `num / den`. -/
def log2Ratio (num den : Nat) : Int :=
  let guess : Int := (num.log2 : Int) - den.log2
  if den * pow2 guess ≤ num * pow2 (-guess) then guess else guess - 1

/-- The mantissa and exponent nearest to `num / den`, unless that is beyond the largest number. -/
def nearest? (num den : Nat) : Option (Nat × Int) :=
  if num = 0 then some (0, minExponent)
  else
    let q := max (log2Ratio num den - 52) minExponent
    let m := divNearest (num * pow2 (-q)) (den * pow2 q)
    let rounded := if m = pow2 53 then (pow2 52, q + 1) else (m, q)
    if rounded.2 > maxExponent then none else some rounded

/-- The number nearest to `digits * 10 ^ power`, or to its opposite. Numbers far beyond either end
of the format are not worked out. -/
def ofDecimal (negative : Bool) (digits : Nat) (power : Int) : Binary64 :=
  let magnitude : Int := (Nat.toDigits 10 digits).length + power
  if digits = 0 ∨ magnitude < -400 then finite negative 0 minExponent
  else if magnitude > 400 then infinite negative
  else
    match nearest? (digits * pow10 power) (pow10 (-power)) with
    | some (m, q) => finite negative m q
    | none => infinite negative

end Binary64

end SerialCard
