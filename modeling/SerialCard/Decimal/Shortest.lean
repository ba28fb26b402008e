import SerialCard.Decimal.Binary64

/-!
# The shortest decimal of a binary number

`Shortest.decimal` finds, for a positive binary number, the fewest decimal digits that read back as
it, and of those the nearest. For one digit, two digits and so on it looks at the two neighbours of
the number on the decimal grid of that many digits; the first grid with a neighbour that rounds back
to the number wins. `Binary64.text` writes the digits out in full, always with a point.
-/

namespace SerialCard

namespace Shortest

open Binary64 (pow2 pow10)

/-- A positive number between its bounds, in units of `scale / den`. Decimals between the bounds
read back as the number; the bounds themselves do if `closed` is set. -/
structure Interval where
  low : Nat
  middle : Nat
  high : Nat
  den : Nat
  closed : Bool

/-- The decimals that read back as `m * 2 ^ q`. The gap below a power of two is half as wide. -/
def interval (m : Nat) (q : Int) : Interval :=
  let scale := pow2 (q - 2)
  let below := if m = pow2 52 ∧ q > Binary64.minExponent then 1 else 2
  { low := (4 * m - below) * scale
    middle := 4 * m * scale
    high := (4 * m + 2) * scale
    den := pow2 (2 - q)
    closed := m % 2 == 0 }

/-- The exponent of the greatest power of ten that is not above `num / den`. -/
def log10Ratio (num den : Nat) : Int :=
  if den ≤ num then (Nat.toDigits 10 (num / den)).length - 1
  else -(((List.range 400).find? fun (j : Nat) => den ≤ num * pow10 j).getD 400 : Nat)

/-- The neighbour of the number on the grid of multiples of `10 ^ power` that reads back as it; of
two, the nearer, and the upper one if they are equally near. -/
def onGrid? (i : Interval) (power : Int) : Option Nat :=
  let up := pow10 (-power)
  let unit := i.den * pow10 power
  let d := i.middle * up / unit
  let lower := d * unit
  let upper := (d + 1) * unit
  let lowerReads := i.low * up < lower || (i.closed && i.low * up == lower)
  let upperReads := upper < i.high * up || (i.closed && upper == i.high * up)
  if lowerReads && (!upperReads || i.middle * up - lower < upper - i.middle * up) then some d
  else if upperReads then some (d + 1)
  else none

/-- Digits and a power of ten: the shortest decimal that reads back as `m * 2 ^ q`. Seventeen digits
always suffice. -/
def decimal (m : Nat) (q : Int) : Nat × Int :=
  let i := interval m q
  let top := log10Ratio i.middle i.den
  let found := (List.range 17).findSome? fun (n : Nat) =>
    (onGrid? i (top - n)).map fun d => (d, top - n)
  found.getD (0, 0)

/-- A decimal written out in full, with a point and at least one digit on either side of it. -/
def positional (digits : Nat) (power : Int) : List Char :=
  if 0 ≤ power then
    (if digits = 0 then ['0'] else Nat.toDigits 10 digits ++ List.replicate power.toNat '0')
      ++ ['.', '0']
  else
    let places := (-power).toNat
    let all := Nat.toDigits 10 digits
    let padded := List.replicate (places + 1 - all.length) '0' ++ all
    let fraction := padded.drop (padded.length - places)
    let trimmed := (fraction.reverse.dropWhile (· == '0')).reverse
    padded.take (padded.length - places) ++ ['.'] ++ (if trimmed.isEmpty then ['0'] else trimmed)

end Shortest

/-- A number as its shortest decimal, written out in full. -/
def Binary64.text : Binary64 → String
  | nan => "NaN"
  | infinite negative => if negative then "-inf" else "inf"
  | finite negative m q =>
    let shown :=
      if m = 0 then ['0', '.', '0']
      else
        let found := Shortest.decimal m q
        Shortest.positional found.1 found.2
    String.ofList (if negative then '-' :: shown else shown)

end SerialCard
