import SerialCard.Config.Load
import SerialCard.FileTree
import SerialCard.Win32.ComPort

/-!
# The program

The program reads its configuration, sets up the log, opens the port, writes the profile, logs the
values of all settings, and closes the port. A failure before the log is set up is reported on the
error output; any later one is the last record of the log. On a system without the driver, the
program fails as soon as the log is set up.

A run is given the files it can get at and, if there is one, the system that has the driver; it is
otherwise a function of its arguments. `Outcome` is all that a run leaves behind. One exit is left
out: a program that cannot find out which directory it lies in stops at once, before it does
anything that is described here. The directory of a run is given.
-/

namespace SerialCard

open Win32 (System ComPort)

namespace Program

/-- What a run can see. -/
structure Environment where
  /-- The directory the program lies in. -/
  directory : String
  /-- The arguments after the program's name. -/
  arguments : List String
  /-- The files, with the rule by which their paths are made. -/
  files : Files

namespace Environment

/-- The path of the configuration: the first argument, or a file beside the program. -/
def configPath (env : Environment) : String :=
  env.arguments.head?.getD (env.files.join env.directory "serialfc.toml")

/-- The path of the log file, if one is asked for. -/
def logPath (env : Environment) (logging : LoggingConfig) : Option String :=
  if logging.enable then some (env.files.join env.directory (logging.file.getD "serialfc.log"))
  else none

end Environment

/-- The system a run is made on. -/
inductive Platform (σ : Type) where
  /-- A Windows system, which has the driver. -/
  | windows (system : System σ)
  /-- Any other system. -/
  | other

/-- A message on the error output. -/
structure Report where
  context : String
  message : String
  deriving DecidableEq, Repr

/-- The line in which a report is written. -/
def Report.line (time : String) (r : Report) : String :=
  "[" ++ time ++ "][ERROR][" ++ r.context ++ "] " ++ r.message

/-- What a run leaves behind. -/
structure Outcome (σ : Type) where
  exitCode : UInt32
  /-- The records of the log, written or not. -/
  records : List Record
  /-- The records on the standard output. -/
  stdout : List Record
  /-- The log file and the records appended to it. -/
  logFile : Option (String × List Record)
  /-- The message on the error output. -/
  stderr : Option Report
  /-- The state of the system. -/
  state : σ

/-! ### Working on the port -/

variable {σ : Type}

/-- Logs the values of settings. -/
def logValues : List (String × Except PortError SettingValue) → Work σ Unit
  | [] => return ()
  | (name, .ok v) :: rest => do
    Work.log (.value name v)
    logValues rest
  | (name, .error e) :: rest => do
    Work.log (.unreadable name e)
    logValues rest

/-- Opens the port of a path, writes a profile, logs the settings and closes the port. A port that
cannot be brought to take the profile is given up. -/
def drive (sys : System σ) (path : String) (profile : Profile) : Work σ (Except Failure Unit) := do
  match ← ComPort.acquire sys path with
  | .error e => return .error (.port (.opening path) (.transport e))
  | .ok com =>
    let port := com.toPort sys
    match ← (port.apply profile).run with
    | .error e =>
      com.drop sys
      return .error (.port .applying e)
    | .ok _ =>
      logValues (← port.snapshot)
      match ← port.close.run with
      | .error e => return .error (.port (.closing path) e)
      | .ok () => return .ok ()

/-- What a run does once its log is set up. -/
def work (platform : Platform σ) (config : Config) : Work σ (Except Failure Unit) :=
  match platform with
  | .other => return .error .unavailable
  | .windows sys =>
    match config.port.target with
    | .error cause => return .error (.config cause)
    | .ok path => drive sys path config.profile

/-- All that is logged, from the first record to the last, and whether the run succeeded. -/
def logged (platform : Platform σ) (configPath : String) (config : Config) : Work σ Bool := do
  Work.log (.started configPath)
  match ← work platform config with
  | .ok () =>
    Work.log .done
    return true
  | .error failure =>
    Work.log (.failed failure)
    return false

/-! ### A whole run -/

/-- A run that ends before the log is set up. -/
def Outcome.reported (context message : String) (state : σ) : Outcome σ where
  exitCode := 1
  records := []
  stdout := []
  logFile := none
  stderr := some ⟨context, message⟩
  state := state

/-- The log set up: the filter, and the file if there is one. -/
structure Logging where
  filter : Filter
  file : Option String

/-- Sets up the log. -/
def setUp (env : Environment) (logging : LoggingConfig) : Except String Logging := do
  let filter ← logging.filter.mapError InvalidConfig.message
  match env.logPath logging with
  | none => return ⟨filter, none⟩
  | some path =>
    (env.files.append path).mapError fun e => "opening " ++ path ++ ": " ++ e.text
    return ⟨filter, some path⟩

/-- A run of the program. What the configuration's loading would log is lost, since there is no log
yet. -/
def run (env : Environment) (platform : Platform σ) (state : σ) : Outcome σ :=
  let path := env.configPath
  match (Config.load path (env.files.read path) state).result with
  | .error e => .reported "config" (path ++ ": " ++ e.message) state
  | .ok config =>
    match setUp env config.logging with
    | .error message => .reported "logging" message state
    | .ok logging =>
      let done := logged platform path config state
      let written := done.records.filter fun r => logging.filter.passes r.level
      { exitCode := if done.result then 0 else 1
        records := done.records
        stdout := written
        logFile := logging.file.map fun file => (file, written)
        stderr := none
        state := done.state }

end Program

end SerialCard
