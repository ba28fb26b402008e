import SerialCard.Toml.Scan

/-!
# Texts

A text stands between double quotes, where a backslash begins an escape, or between single quotes,
where every character stands for itself. Between three quotes it may have several lines: a line end
right after the opening quotes does not count, a backslash at the end of a line joins the lines, and
up to two quotes may stand together inside, also right before the closing ones.
-/

namespace SerialCard.Toml.Text

/-- The number of a hexadecimal digit of either case. -/
def hexDigit? (c : Char) : Option Nat :=
  if '0' ≤ c && c ≤ '9' then some (c.toNat - 48)
  else if 'a' ≤ c && c ≤ 'f' then some (c.toNat - 87)
  else if 'A' ≤ c && c ≤ 'F' then some (c.toNat - 55)
  else none

/-- The character of a code point, unless it is a surrogate or beyond the last one. -/
def charOf? (n : Nat) : Option Char :=
  if n.isValidChar then some (Char.ofNat n) else none

/-- What a single letter after a backslash stands for. -/
def escape? (c : Char) : Option Char :=
  if c = 'b' then some '\x08'
  else if c = 't' then some '\t'
  else if c = 'n' then some '\n'
  else if c = 'f' then some '\x0c'
  else if c = 'r' then some '\r'
  else if c = '"' then some '"'
  else if c = '\\' then some '\\'
  else none

/-- Whether a character may stand for itself in a text: all but controls, tabs apart. -/
def isPlain (c : Char) : Bool :=
  Scan.isPlain c

/-- Puts a character in front of what was read. -/
def push (c : Char) (read : Option (List Char × List Char)) : Option (List Char × List Char) :=
  read.map fun (cs, rest) => (c :: cs, rest)

/-- Puts a number of double quotes in front of what was read. -/
def pushQuotes (n : Nat) (read : Option (List Char × List Char)) :
    Option (List Char × List Char) :=
  read.map fun (cs, rest) => (List.replicate n '"' ++ cs, rest)

/-- Where a reader stands inside double quotes. -/
inductive Position where
  /-- Between two characters. -/
  | plain
  /-- After a backslash. -/
  | escaped
  /-- Before the last `left + 1` digits of a code point that begins with `sofar`. -/
  | digits (left sofar : Nat)

/-- The rest of a text on one line, after its opening double quote. -/
def basic : Position → Scan (List Char)
  | _, [] => none
  | .plain, c :: rest =>
    if c = '"' then some ([], rest)
    else if c = '\\' then basic .escaped rest
    else if isPlain c then push c (basic .plain rest)
    else none
  | .escaped, c :: rest =>
    if c = 'u' then basic (.digits 3 0) rest
    else if c = 'U' then basic (.digits 7 0) rest
    else
      match escape? c with
      | some x => push x (basic .plain rest)
      | none => none
  | .digits left sofar, c :: rest =>
    match hexDigit? c with
    | none => none
    | some d =>
      match left with
      | left + 1 => basic (.digits left (16 * sofar + d)) rest
      | 0 =>
        match charOf? (16 * sofar + d) with
        | some x => push x (basic .plain rest)
        | none => none

/-- Where a reader stands inside three double quotes. -/
inductive LinesPosition where
  /-- Between two characters, after this many double quotes. -/
  | plain (quotes : Nat)
  /-- After a backslash. -/
  | escaped
  /-- After a backslash and spaces: the line has to end. -/
  | ending
  /-- After a line that was joined: spaces and line ends do not count. -/
  | joining
  /-- Before the last `left + 1` digits of a code point that begins with `sofar`. -/
  | digits (left sofar : Nat)

/-- The rest of a text of several lines, after its opening double quotes. -/
def basicLines : LinesPosition → Scan (List Char)
  | position, c :: rest =>
    let plain (quotes : Nat) : Option (List Char × List Char) :=
      if c = '"' then
        if quotes = 4 then some (['"', '"'], rest) else basicLines (.plain (quotes + 1)) rest
      else if quotes ≥ 3 then some (List.replicate (quotes - 3) '"', c :: rest)
      else if c = '\\' then pushQuotes quotes (basicLines .escaped rest)
      else if isPlain c || c == '\n' then pushQuotes quotes (push c (basicLines (.plain 0) rest))
      else none
    match position with
    | .plain quotes => plain quotes
    | .escaped =>
      if c = 'u' then basicLines (.digits 3 0) rest
      else if c = 'U' then basicLines (.digits 7 0) rest
      else if Scan.isSpace c then basicLines .ending rest
      else if c = '\n' then basicLines .joining rest
      else
        match escape? c with
        | some x => push x (basicLines (.plain 0) rest)
        | none => none
    | .ending =>
      if Scan.isSpace c then basicLines .ending rest
      else if c = '\n' then basicLines .joining rest
      else none
    | .joining =>
      if Scan.isSpace c || c == '\n' then basicLines .joining rest else plain 0
    | .digits left sofar =>
      match hexDigit? c with
      | none => none
      | some d =>
        match left with
        | left + 1 => basicLines (.digits left (16 * sofar + d)) rest
        | 0 =>
          match charOf? (16 * sofar + d) with
          | some x => push x (basicLines (.plain 0) rest)
          | none => none
  | .plain quotes, [] => if quotes ≥ 3 then some (List.replicate (quotes - 3) '"', []) else none
  | _, [] => none

/-- The rest of a text on one line, after its opening single quote. -/
def literal : Scan (List Char)
  | [] => none
  | c :: rest =>
    if c = '\'' then some ([], rest)
    else if isPlain c then push c (literal rest)
    else none

/-- The rest of a text of several lines, after its opening single quotes and this many more. -/
def literalLines (quotes : Nat) : Scan (List Char)
  | [] => if quotes ≥ 3 then some (List.replicate (quotes - 3) '\'', []) else none
  | c :: rest =>
    if c = '\'' then
      if quotes = 4 then some (['\'', '\''], rest) else literalLines (quotes + 1) rest
    else if quotes ≥ 3 then some (List.replicate (quotes - 3) '\'', c :: rest)
    else if isPlain c || c == '\n' then
      (push c (literalLines 0 rest)).map fun (cs, t) => (List.replicate quotes '\'' ++ cs, t)
    else none

/-- A line end right after opening quotes, which does not count. -/
def dropLineEnd : List Char → List Char
  | '\n' :: rest => rest
  | s => s

/-- A text on one line, between quotes of either kind. -/
def oneLine? : Scan String
  | '"' :: rest => (basic .plain rest).map fun (cs, t) => (String.ofList cs, t)
  | '\'' :: rest => (literal rest).map fun (cs, t) => (String.ofList cs, t)
  | _ => none

/-- A text between quotes of any kind. -/
def any? : Scan String
  | '"' :: '"' :: '"' :: rest =>
    (basicLines (.plain 0) (dropLineEnd rest)).map fun (cs, t) => (String.ofList cs, t)
  | '\'' :: '\'' :: '\'' :: rest =>
    (literalLines 0 (dropLineEnd rest)).map fun (cs, t) => (String.ofList cs, t)
  | s => oneLine? s

end SerialCard.Toml.Text
