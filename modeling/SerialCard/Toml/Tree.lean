import SerialCard.Toml.Value

/-!
# Putting a document together

Statements of a document write into a tree whose tables remember how they came about: `implied` by
a key or header that leads through them, and `dotted` if it was a dotted key. The rules by which a
table may be written again depend on that:

* a dotted key leads through tables that are implied, and ends in one made by dotted keys;
* a header may name a table once more only if so far it was implied by other headers; the table then
  moves to the end of the one it is in;
* a header of an array appends a table to it, and keys and headers that lead through an array go to
  its last table.

Nothing is ever written twice.
-/

namespace SerialCard.Toml

/-- A part of a document under construction. -/
inductive Node where
  /-- A value that was written as one; it is complete. -/
  | value (v : Value)
  /-- A table of its own. -/
  | table (implied dotted : Bool) (entries : List (String × Node))
  /-- An array of tables made by headers, the last first. -/
  | tables (last : List (String × Node)) (before : List Node)

namespace Node

/-- The entries of a table under construction. -/
abbrev Fields := List (String × Node)

/-- The entries with the node of a key replaced by the outcome of `f`, in its place; a new key comes
last. -/
def modify (key : String) (f : Option Node → Option Node) : Fields → Option Fields
  | [] => (f none).map fun node => [(key, node)]
  | (k, node) :: rest =>
    if k = key then (f (some node)).map fun new => (k, new) :: rest
    else (modify key f rest).map fun fields => (k, node) :: fields

/-- Writes into the table that keys lead to, with `write`, which is told whether dotted keys made
that table. Missing tables are made on the way. -/
def descend (dotted : Bool) (write : Bool → Fields → Option Fields) :
    List String → Bool → Fields → Option Fields
  | [], here, fields => write here fields
  | key :: path, _, fields =>
    modify key (fun found =>
      match found with
      | none => (descend dotted write path dotted []).map fun inner => table true dotted inner
      | some (value _) => none
      | some (tables last before) =>
        (descend dotted write path false last).map fun inner => tables inner before
      | some (table implied made inner) =>
        if dotted && !implied then none
        else (descend dotted write path made inner).map fun inner => table implied made inner)
      fields

/-- Writes a key with its value, under the keys that lead to it. -/
def assign (path : List String) (key : String) (v : Value) (fields : Fields) : Option Fields :=
  descend true (fun made inner =>
    if made == path.isEmpty then none
    else modify key (fun found => if found.isSome then none else some (value v)) inner)
    path false fields

/-- The entries without a key. -/
def without (key : String) (fields : Fields) : Fields :=
  fields.filter fun (k, _) => k != key

/-- Makes the table of a header. -/
def open? (path : List String) (key : String) (fields : Fields) : Option Fields :=
  descend false (fun _ inner =>
    match inner.lookup key with
    | none => some (inner ++ [(key, table false false [])])
    | some (table true false entries) =>
      some (without key inner ++ [(key, table false false entries)])
    | some _ => none)
    path false fields

/-- Appends a table to the array of a header. -/
def append? (path : List String) (key : String) (fields : Fields) : Option Fields :=
  descend false (fun _ inner =>
    modify key (fun found =>
      match found with
      | none => some (tables [] [])
      | some (tables last before) => some (tables [] (table false false last :: before))
      | some _ => none) inner)
    path false fields

/-- Writes into the table of the latest header, to which `cursor` leads. -/
def inside (cursor : List String) (write : Fields → Option Fields) (fields : Fields) :
    Option Fields :=
  descend false (fun _ inner => write inner) cursor false fields

mutual

/-- The finished value of a part. -/
def finish : Node → Value
  | value v => v
  | table _ _ entries => .table (finishFields entries)
  | tables last before => .array ((finishAll before).reverse ++ [.table (finishFields last)])

/-- The finished entries of a table. -/
def finishFields : List (String × Node) → Entries
  | [] => []
  | (key, node) :: rest => (key, finish node) :: finishFields rest

/-- The finished values of parts. -/
def finishAll : List Node → List Value
  | [] => []
  | node :: rest => finish node :: finishAll rest

end

end Node

end SerialCard.Toml
