import SerialCard.Toml.Text

/-!
# Keys

A key is bare, made of letters, digits, underscores and hyphens of ASCII, or a text on one line
between quotes. Keys with dots between them lead from table to table.
-/

namespace SerialCard.Toml.Key

/-- Whether a character may stand in a bare key. -/
def isBare (c : Char) : Bool :=
  c.isAlphanum || c == '_' || c == '-'

/-- A single key. -/
def single : Scan String
  | '"' :: rest => Text.oneLine? ('"' :: rest)
  | '\'' :: rest => Text.oneLine? ('\'' :: rest)
  | s =>
    let bare := s.takeWhile isBare
    if bare.isEmpty then none else some (String.ofList bare, s.dropWhile isBare)

/-- The greatest number of keys that may be joined by dots. -/
def maxParts : Nat := 79

/-- At most `room` keys with dots between them, with spaces around each. -/
def dotted : Nat → Scan (List String)
  | 0, _ => none
  | room + 1, s =>
    match single (Scan.skipSpaces s) with
    | none => none
    | some (key, rest) =>
      match Scan.skipSpaces rest with
      | '.' :: more => (dotted room more).map fun (keys, t) => (key :: keys, t)
      | t => some ([key], t)

/-- Keys with dots between them. -/
def path : Scan (List String) :=
  dotted maxParts

end SerialCard.Toml.Key
