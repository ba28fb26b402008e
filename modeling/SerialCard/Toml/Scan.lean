/-!
# Scanning text

A `Scan` reads something at the front of a text and hands back the rest; it has no result if the
text does not begin with what it reads. Lines end with a line feed: `unifyLines` brings a text into
that form and refuses carriage returns anywhere else.
-/

namespace SerialCard.Toml

/-- A reader of something at the front of a text. -/
abbrev Scan (α : Type) := List Char → Option (α × List Char)

/-- The text with a line feed at the end of each line, if carriage returns stand nowhere else. -/
def unifyLines : List Char → Option (List Char)
  | [] => some []
  | '\r' :: rest =>
    match rest with
    | '\n' :: _ => unifyLines rest
    | _ => none
  | c :: rest => (unifyLines rest).map (c :: ·)

namespace Scan

/-- Whether a character is a space or a tab. -/
def isSpace (c : Char) : Bool :=
  c == ' ' || c == '\t'

/-- Whether a character may stand in a comment: all but controls, tabs apart. -/
def isPlain (c : Char) : Bool :=
  c == '\t' || (' ' ≤ c && c != '\x7f')

/-- Spaces and tabs. -/
def skipSpaces (s : List Char) : List Char :=
  s.dropWhile isSpace

/-- A comment up to the end of its line. -/
def skipComment (s : List Char) : List Char :=
  match s with
  | '#' :: rest => rest.dropWhile isPlain
  | _ => s

/-- What may follow an item on its line: spaces, a comment, and the end of the line or text. -/
def endOfLine (s : List Char) : Option (List Char) :=
  match skipComment (skipSpaces s) with
  | [] => some []
  | '\n' :: rest => some rest
  | _ => none

/-- Spaces, line ends and comments, in any number. A comment ends with its line; one at the end of
the text counts only if `lastLine` is set. -/
def skipBlank (lastLine inComment : Bool) : List Char → Option (List Char)
  | [] => if inComment && !lastLine then none else some []
  | c :: rest =>
    if inComment then
      if c = '\n' then skipBlank lastLine false rest
      else if isPlain c then skipBlank lastLine true rest
      else none
    else if isSpace c || c == '\n' then skipBlank lastLine false rest
    else if c = '#' then skipBlank lastLine true rest
    else some (c :: rest)

/-- A given character. -/
def char (c : Char) : List Char → Option (List Char)
  | [] => none
  | d :: rest => if d = c then some rest else none

/-- Items with commas between them, up to the closing character. Around an item there may be what
`blank` skips; a comma may stand before the closing character if `trailing` is set. -/
def list {α : Type} (blank : List Char → Option (List Char)) (item : Scan α) (trailing : Bool)
    (closing : Char) (first : Bool) (s : List Char) : Option (List α × List Char) :=
  match blank s with
  | none => none
  | some t =>
    match char closing t with
    | some rest => if first || trailing then some ([], rest) else none
    | none =>
      match item t with
      | none => none
      | some (a, u) =>
        match blank u with
        | none => none
        | some v =>
          match char closing v, char ',' v with
          | some rest, _ => some ([a], rest)
          | none, some w =>
            if w.length < s.length then
              (list blank item trailing closing false w).map fun (as, rest) => (a :: as, rest)
            else none
          | none, none => none
termination_by s.length

end Scan

end SerialCard.Toml
