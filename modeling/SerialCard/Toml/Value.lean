import SerialCard.Decimal.Binary64

/-!
# Documents as trees

A TOML document is a table: keys with values, in the order in which they were first written. Values
are texts, numbers, truth values, moments, arrays and tables.
-/

namespace SerialCard.Toml

/-- A value of a document. -/
inductive Value where
  | text (s : String)
  | integer (n : Int)
  | float (x : Binary64)
  | boolean (b : Bool)
  /-- A date, a time of day, or both, as it was written. -/
  | moment (written : String)
  | array (items : List Value)
  | table (entries : List (String × Value))
  deriving Repr

/-- The keys of a table with their values, in order. -/
abbrev Entries := List (String × Value)

end SerialCard.Toml
