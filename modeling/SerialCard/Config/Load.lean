import SerialCard.Config.Decode
import SerialCard.Toml.Document

/-!
# Loading configurations

`Config.parse` reads the text of a configuration and checks that it is valid, so that later uses of
it cannot fail. `Config.load` reads the text from a file first.
-/

namespace SerialCard

/-- Why there is no configuration. -/
inductive ConfigError where
  /-- The file could not be read. -/
  | io (error : OsError)
  /-- The text is no document. -/
  | malformed
  /-- The document is no configuration. -/
  | decode (error : DecodeError)
  /-- The configuration is not valid. -/
  | invalid (cause : InvalidConfig)
  deriving DecidableEq, Repr

/-- The wording of the error. That a text is no document is said without the place. -/
def ConfigError.message : ConfigError → String
  | io error => "I/O error: " ++ error.text
  | malformed => "TOML parse error: not a document"
  | decode error => "TOML parse error: " ++ error.message
  | invalid cause => cause.message

/-- Reads a text as a structure of the given schema. -/
def Schema.ofText {δ α : Type} (schema : Schema δ α) (text : String) : Except ConfigError α :=
  match Toml.Document.read? text with
  | none => .error .malformed
  | some entries => (schema.ofEntries entries).mapError .decode

namespace Config

/-- The configuration of a document. -/
def ofEntries (entries : Toml.Entries) : Except ConfigError Config := do
  let config ← (schema.ofEntries entries).mapError .decode
  config.validate.mapError .invalid
  return config

/-- Reads a configuration and checks that it is valid. -/
def parse (text : String) : Except ConfigError Config :=
  match Toml.Document.read? text with
  | none => .error .malformed
  | some entries => ofEntries entries

/-- A file that is not UTF-8. -/
def notUtf8 : OsError := ⟨none, "stream did not contain valid UTF-8"⟩

/-- The text of a file. -/
def textOf (file : Except OsError ByteArray) : Except OsError String := do
  match String.fromUTF8? (← file) with
  | some text => .ok text
  | none => .error notUtf8

/-- Loads the configuration of a path, given what the file holds, and logs that it does so. -/
def load {σ : Type} (path : String) (file : Except OsError ByteArray) :
    Work σ (Except ConfigError Config) := do
  Work.log (.reading path)
  match textOf file with
  | .error e => return .error (.io e)
  | .ok text =>
    match parse text with
    | .error e => return .error e
    | .ok config =>
      Work.log (.loaded path)
      return .ok config

end Config

end SerialCard
