import SerialCard.Toml.Key
import SerialCard.Toml.Moment
import SerialCard.Toml.Number
import SerialCard.Toml.Tree

/-!
# Documents

A document is a sequence of statements, each on a line of its own but for values that span several:
a key with its value, or the header of a table or of an element of an array. `Document.read?` is the
tree of a document, or nothing if the text is none.
-/

namespace SerialCard.Toml

/-! ### Values -/

/-- A value that holds no others. -/
def scalar (s : List Char) : Option (Value × List Char) :=
  match s with
  | 't' :: 'r' :: 'u' :: 'e' :: rest => some (.boolean true, rest)
  | 'f' :: 'a' :: 'l' :: 's' :: 'e' :: rest => some (.boolean false, rest)
  | '"' :: _ | '\'' :: _ => (Text.any? s).map fun (t, rest) => (.text t, rest)
  | _ =>
    if Moment.looksLikeDate s || Moment.looksLikeTime s then Moment.any? s else Number.any? s

/-- A key with its value, and the keys that lead to it. -/
structure Assignment where
  path : List String
  key : String
  value : Value

/-- A key, an equals sign and a value. -/
def assignment (value : Scan Value) : Scan Assignment := fun s => do
  let (keys, rest) ← Key.path s
  let key ← keys.getLast?
  let rest ← Scan.char '=' rest
  let (v, rest) ← value (Scan.skipSpaces rest)
  some (⟨keys.dropLast, key, v⟩, rest)

/-- The table that assignments in braces make. -/
def inlineTable? (assignments : List Assignment) : Option Value :=
  (assignments.foldlM (fun fields a => Node.assign a.path a.key a.value fields) []).map
    fun fields => .table (Node.finishFields fields)

/-- A value that holds others to a depth of at most `room`. -/
def value : Nat → Scan Value
  | 0, s => scalar s
  | room + 1, s =>
    match s with
    | '[' :: rest =>
      (Scan.list (Scan.skipBlank false false) (value room) true ']' true rest).map
        fun (items, t) => (.array items, t)
    | '{' :: rest => do
      let (assignments, t) ←
        Scan.list (fun u => some (Scan.skipSpaces u)) (assignment (value room)) false '}' true rest
      let v ← inlineTable? assignments
      some (v, t)
    | _ => scalar s

/-- The greatest depth to which values may hold others. -/
def maxDepth : Nat := 79

/-! ### Statements -/

/-- A statement of a document. -/
inductive Statement where
  | assign (a : Assignment)
  | table (path : List String) (key : String)
  | element (path : List String) (key : String)

/-- The keys of a header and what follows its closing brackets. -/
def header (make : List String → String → Statement) (closing : List Char) : Scan Statement :=
  fun s => do
    let (keys, rest) ← Key.path s
    let key ← keys.getLast?
    let rest ← closing.foldlM (fun t c => Scan.char c t) rest
    some (make keys.dropLast key, rest)

/-- A statement with the end of its line. -/
def statement (s : List Char) : Option (Statement × List Char) := do
  let (st, rest) ←
    match s with
    | '[' :: '[' :: t => header .element [']', ']'] t
    | '[' :: t => header .table [']'] t
    | _ => (assignment (value maxDepth) s).map fun (a, t) => (.assign a, t)
  let rest ← Scan.endOfLine rest
  some (st, rest)

/-- The statements of a text, in order. -/
def statements (s : List Char) : Option (List Statement) :=
  match Scan.skipBlank true false s with
  | none => none
  | some [] => some []
  | some t =>
    match statement t with
    | none => none
    | some (st, rest) =>
      if rest.length < s.length then (statements rest).map (st :: ·) else none
termination_by s.length

/-- A document under construction, and the keys that lead to the table of the latest header. -/
structure Draft where
  fields : Node.Fields := []
  cursor : List String := []

/-- Enters a statement into a draft. -/
def Draft.enter (draft : Draft) : Statement → Option Draft
  | .assign a =>
    (Node.inside draft.cursor (Node.assign a.path a.key a.value) draft.fields).map
      fun fields => { draft with fields }
  | .table path key =>
    (Node.open? path key draft.fields).map fun fields => ⟨fields, path ++ [key]⟩
  | .element path key =>
    (Node.append? path key draft.fields).map fun fields => ⟨fields, path ++ [key]⟩

/-- A byte-order mark at the front of a text does not count. -/
def dropMark : List Char → List Char
  | '\ufeff' :: rest => rest
  | s => s

/-- The tree of a document. -/
def Document.read? (text : String) : Option Entries := do
  let lines ← unifyLines (dropMark text.toList)
  let found ← statements lines
  let draft ← found.foldlM Draft.enter {}
  some (Node.finishFields draft.fields)

end SerialCard.Toml
