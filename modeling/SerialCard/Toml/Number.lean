import SerialCard.Toml.Value
import SerialCard.Toml.Scan

/-!
# Numbers

Whole numbers are written in decimal, or without a sign in base 16, 8 or 2 after `0x`, `0o` or
`0b`; they have to fit 64 bits. A number with a fraction or an exponent is read as the nearest
binary one, which must not be beyond the largest. Between two digits there may be an underscore.
-/

namespace SerialCard.Toml.Number

/-- The number a digit stands for, up to base 16 and in either case. -/
def digit? (base : Nat) (c : Char) : Option Nat :=
  let n :=
    if '0' ≤ c && c ≤ '9' then c.toNat - 48
    else if 'a' ≤ c && c ≤ 'f' then c.toNat - 87
    else if 'A' ≤ c && c ≤ 'F' then c.toNat - 55
    else base
  if n < base then some n else none

/-- Digits and what follows them, after digits that are worth `sofar`; `count` counts the digits,
and after an underscore there has to be one more. -/
def moreDigits (base : Nat) (pending : Bool) (count sofar : Nat) :
    List Char → Option ((Nat × Nat) × List Char)
  | [] => if pending then none else some ((count, sofar), [])
  | c :: rest =>
    match digit? base c with
    | some d => moreDigits base false (count + 1) (base * sofar + d) rest
    | none =>
      if pending then none
      else if c = '_' then moreDigits base true count sofar rest
      else some ((count, sofar), c :: rest)

/-- One or more digits: how many there are, and their worth. -/
def digits (base : Nat) : Scan (Nat × Nat)
  | [] => none
  | c :: rest => (digit? base c).bind fun d => moreDigits base false 1 d rest

/-- The sign of a number; plus if there is none. -/
def sign : List Char → Bool × List Char
  | '-' :: rest => (true, rest)
  | '+' :: rest => (false, rest)
  | s => (false, s)

/-- The digits of a whole number. Only zero begins with a zero, and it has no second digit. -/
def wholeDigits : Scan Nat
  | '0' :: rest => some (0, rest)
  | s => (digits 10 s).map fun ((_, n), rest) => (n, rest)

/-- A whole number of 64 bits. -/
def integer? (n : Int) : Option Value :=
  if -0x8000000000000000 ≤ n ∧ n < 0x8000000000000000 then some (.integer n) else none

/-- A whole number in another base, after its first two characters. -/
def based (base : Nat) (s : List Char) : Option (Value × List Char) :=
  match digits base s with
  | none => none
  | some ((_, n), rest) => (integer? n).map fun v => (v, rest)

/-- An exponent, after its letter. -/
def exponent (s : List Char) : Option (Int × List Char) :=
  let (negative, t) := sign s
  (digits 10 t).map fun ((_, n), rest) => (if negative then -(n : Int) else n, rest)

/-- The binary number nearest to a decimal one. A positive one must not be too large; an
overlarge negative one becomes minus infinity. -/
def float? (negative : Bool) (worth : Nat) (power : Int) : Option Value :=
  match Binary64.ofDecimal negative worth power with
  | .infinite false => none
  | x => some (.float x)

/-- What follows the digits of a whole number: nothing more, or what makes it a binary one. -/
def afterWhole (negative : Bool) (whole : Nat) : Scan Value
  | '.' :: rest =>
    match digits 10 rest with
    | none => none
    | some ((count, n), t) =>
      let worth := whole * Nat.pow 10 count + n
      match t with
      | 'e' :: u | 'E' :: u =>
        (exponent u).bind fun (e, v) => (float? negative worth (e - count)).map fun x => (x, v)
      | _ => (float? negative worth (-(count : Int))).map fun x => (x, t)
  | 'e' :: rest | 'E' :: rest =>
    (exponent rest).bind fun (e, t) => (float? negative whole e).map fun x => (x, t)
  | rest => (integer? (if negative then -(whole : Int) else whole)).map fun x => (x, rest)

/-- A number of any kind. -/
def any? (s : List Char) : Option (Value × List Char) :=
  match s with
  | '0' :: 'x' :: rest => based 16 rest
  | '0' :: 'o' :: rest => based 8 rest
  | '0' :: 'b' :: rest => based 2 rest
  | _ =>
    let (negative, t) := sign s
    match t with
    | 'i' :: 'n' :: 'f' :: rest => some (.float (.infinite negative), rest)
    | 'n' :: 'a' :: 'n' :: rest => some (.float .nan, rest)
    | _ => (wholeDigits t).bind fun (n, rest) => afterWhole negative n rest

end SerialCard.Toml.Number
