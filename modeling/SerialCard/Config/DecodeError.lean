import SerialCard.Decimal.Shortest
import SerialCard.Text.Quoted
import SerialCard.Toml.Value

/-!
# What can be wrong with a document

A document that is well formed may still not fit what is expected of it. `DecodeError` names the
first thing that does not, and `DecodeError.message` words it.
-/

namespace SerialCard

open Toml (Value)

/-- What stands in a document where something else was expected. -/
inductive Found where
  | integer (n : Int)
  | float (x : Binary64)
  | boolean (b : Bool)
  | text (s : String)
  | sequence
  | map
  deriving DecidableEq, Repr

namespace Found

/-- What a value is. A moment counts as a table. -/
def ofValue : Value → Found
  | .text s => text s
  | .integer n => integer n
  | .float x => float x
  | .boolean b => boolean b
  | .moment _ => map
  | .array _ => sequence
  | .table _ => map

/-- What was found, with its value if it is a single one. -/
def description : Found → String
  | integer n => "integer `" ++ toString n ++ "`"
  | float x => "floating point `" ++ x.text ++ "`"
  | boolean b => "boolean `" ++ toString b ++ "`"
  | text s => "string " ++ Text.quoted s
  | sequence => "sequence"
  | map => "map"

end Found

/-- What was expected. -/
inductive Expected where
  | word
  | signed
  | boolean
  | text
  /-- The fields of the structure with this title. -/
  | fields (title : String)
  deriving DecidableEq, Repr

/-- What was expected, by the name of its type. -/
def Expected.description : Expected → String
  | word => "u32"
  | signed => "i32"
  | boolean => "a boolean"
  | text => "a string"
  | fields title => "struct " ++ title

/-- Why a document does not fit. -/
inductive DecodeError where
  /-- A value is of another type. -/
  | wrongType (found : Found) (expected : Expected)
  /-- A number is out of range. -/
  | outOfRange (n : Int) (expected : Expected)
  /-- A field that has to be there is not. -/
  | missingField (name : String)
  /-- There is no field of this name. -/
  | unknownField (name : String) (declared : List String)
  /-- An array has too few elements for the fields of a structure. -/
  | tooShort (length : Nat) (title : String) (count : Nat)
  /-- A mode is to be enabled without a value. -/
  | valueRequired
  deriving DecidableEq, Repr

namespace DecodeError

/-- Names between backquotes, in a sentence. -/
def alternatives (names : List String) : String :=
  match names.map fun n => "`" ++ n ++ "`" with
  | [] => "there are no fields"
  | [a] => "expected " ++ a
  | [a, b] => "expected " ++ a ++ " or " ++ b
  | several => "expected one of " ++ String.intercalate ", " several

/-- The wording of the error. -/
def message : DecodeError → String
  | wrongType found expected =>
    "invalid type: " ++ found.description ++ ", expected " ++ expected.description
  | outOfRange n expected =>
    "invalid value: " ++ (Found.integer n).description ++ ", expected " ++ expected.description
  | missingField name => "missing field `" ++ name ++ "`"
  | unknownField name declared => "unknown field `" ++ name ++ "`, " ++ alternatives declared
  | tooShort length title count =>
    "invalid length " ++ toString length ++ ", expected struct " ++ title ++ " with "
      ++ toString count ++ " elements"
  | valueRequired => "`value` is required when `enabled = true`"

end DecodeError

end SerialCard
