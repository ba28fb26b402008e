import SerialCard.Toml.Value
import SerialCard.Toml.Scan

/-!
# Moments

A moment is a date, a time of day, or a date and a time with or without an offset. The parts have
fixed numbers of digits, the day has to be one of its month, and a minute may have sixty seconds
and one more.
-/

namespace SerialCard.Toml.Moment

/-- A given number of decimal digits and their worth, after digits that are worth `sofar`. -/
def fixed : Nat → Nat → List Char → Option (Nat × List Char)
  | 0, sofar, s => some (sofar, s)
  | _ + 1, _, [] => none
  | n + 1, sofar, c :: rest =>
    if c.isDigit then fixed n (10 * sofar + (c.toNat - 48)) rest else none

/-- A number of two digits that is not above a bound. -/
def upTo (bound : Nat) (s : List Char) : Option (List Char) :=
  (fixed 2 0 s).bind fun (n, rest) => if n ≤ bound then some rest else none

/-- Whether a year has a 29 February. -/
def isLeap (year : Nat) : Bool :=
  year % 4 == 0 && (year % 100 != 0 || year % 400 == 0)

/-- The number of days of a month. -/
def daysIn (year month : Nat) : Nat :=
  if month = 2 then (if isLeap year then 29 else 28)
  else if month = 4 ∨ month = 6 ∨ month = 9 ∨ month = 11 then 30
  else 31

/-- What follows a date. -/
def date (s : List Char) : Option (List Char) := do
  let (year, s) ← fixed 4 0 s
  let s ← Scan.char '-' s
  let (month, s) ← fixed 2 0 s
  let s ← Scan.char '-' s
  let (day, s) ← fixed 2 0 s
  if 1 ≤ month ∧ month ≤ 12 ∧ 1 ≤ day ∧ day ≤ daysIn year month then some s else none

/-- What follows a fraction of a second, if there is one. -/
def fraction (s : List Char) : Option (List Char) :=
  match s with
  | '.' :: c :: rest => if c.isDigit then some (rest.dropWhile Char.isDigit) else none
  | '.' :: [] => none
  | _ => some s

/-- What follows a time of day. -/
def time (s : List Char) : Option (List Char) := do
  let s ← upTo 23 s
  let s ← Scan.char ':' s
  let s ← upTo 59 s
  let s ← Scan.char ':' s
  let s ← upTo 60 s
  fraction s

/-- What follows an offset, if there is one. -/
def offset (s : List Char) : Option (List Char) :=
  match s with
  | 'Z' :: rest | 'z' :: rest => some rest
  | '+' :: rest | '-' :: rest => do
    let s ← upTo 23 rest
    let s ← Scan.char ':' s
    upTo 59 s
  | _ => some s

/-- What follows a time of day and an offset after a date, if they are there. A space with anything
else behind it does not belong to the moment. -/
def timeAndOffset (s : List Char) : Option (List Char) :=
  match s with
  | c :: rest =>
    if c = 'T' ∨ c = 't' ∨ c = ' ' then
      match time rest with
      | some t => offset t
      | none => some s
    else some s
  | [] => some []

/-- Whether a date is to be expected: four digits and a hyphen. -/
def looksLikeDate (s : List Char) : Bool :=
  match fixed 4 0 s with
  | some (_, '-' :: _) => true
  | _ => false

/-- Whether a time of day is to be expected: two digits and a colon. -/
def looksLikeTime (s : List Char) : Bool :=
  match fixed 2 0 s with
  | some (_, ':' :: _) => true
  | _ => false

/-- A moment. -/
def any? (s : List Char) : Option (Value × List Char) := do
  let rest ← if looksLikeDate s then (date s).bind timeAndOffset else time s
  some (.moment (String.ofList (s.take (s.length - rest.length))), rest)

end SerialCard.Toml.Moment
