import SerialCard.Profile
import SerialCard.Text.Uppercase

/-!
# Configurations

A configuration says where the log goes, which port to use, and which profile to write to it. The
log level is a name in any case; a port is given by its path or by its number, and the path wins.
-/

namespace SerialCard

/-- What the log shall be. -/
structure LoggingConfig where
  /-- Write the log to a file as well. -/
  enable : Bool := false
  /-- The file to write it to. -/
  file : Option String := none
  /-- The name of the filter. -/
  level : String := "INFO"
  deriving DecidableEq, Repr

/-- Which port to use. -/
structure PortConfig where
  number : Option UInt32 := none
  path : Option String := none
  deriving DecidableEq, Repr

/-- A configuration. -/
structure Config where
  logging : LoggingConfig
  port : PortConfig
  profile : Profile
  deriving DecidableEq, Repr

/-- The filter of a name, whatever its case. -/
def LoggingConfig.filter (logging : LoggingConfig) : Except InvalidConfig Filter :=
  match Filter.all.find? fun f => f.name == Text.uppercase logging.level with
  | some f => .ok f
  | none => .error (.level logging.level)

/-- The device path of the port. -/
def PortConfig.target (port : PortConfig) : Except InvalidConfig String :=
  match port.path, port.number with
  | some path, _ => .ok path
  | none, some number => .ok (devicePath number)
  | none, none => .error .noPort

/-- Whether a configuration is valid; the level is looked at first. -/
def Config.validate (config : Config) : Except InvalidConfig Unit := do
  let _ ← config.logging.filter
  let _ ← config.port.target

end SerialCard
