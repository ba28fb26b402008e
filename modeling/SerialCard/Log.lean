import SerialCard.Request
import SerialCard.Text.Quoted

/-!
# The log

A `Record` says what happened; its level, the part of the program it belongs to and its wording
follow from that. A `Filter` lets pass the records that are severe enough, and `Record.line` is the
line in which a record is written.
-/

namespace SerialCard

/-- How severe a record is. -/
inductive Level where
  | error
  | warn
  | info
  | debug
  | trace
  deriving DecidableEq, Repr

namespace Level

/-- Levels by falling severity. -/
def rank : Level → Nat
  | error => 1
  | warn => 2
  | info => 3
  | debug => 4
  | trace => 5

/-- The name of a level, as it stands in a line of the log. -/
def name : Level → String
  | error => "ERROR"
  | warn => "WARN"
  | info => "INFO"
  | debug => "DEBUG"
  | trace => "TRACE"

end Level

/-- Which records are written: none, or those of a level and all more severe ones. -/
inductive Filter where
  | off
  | upTo (level : Level)
  deriving DecidableEq, Repr

namespace Filter

/-- The name of a filter, as a configuration gives it in upper case. -/
def name : Filter → String
  | off => "OFF"
  | upTo level => level.name

/-- Whether records of a level are written. -/
def passes : Filter → Level → Bool
  | off, _ => false
  | upTo bound, level => level.rank ≤ bound.rank

/-- Every filter. -/
def all : List Filter :=
  [off, upTo .error, upTo .warn, upTo .info, upTo .debug, upTo .trace]

end Filter

/-- The stage of a run at which it failed. -/
inductive Stage where
  /-- Opening the port of this path. -/
  | opening (path : String)
  /-- Writing the profile. -/
  | applying
  /-- Closing the port of this path. -/
  | closing (path : String)
  deriving DecidableEq, Repr

/-- What the run was about to do, with the path if there is one. -/
def Stage.context : Stage → String
  | opening path => "opening " ++ path
  | applying => "applying profile"
  | closing path => "closing " ++ path

/-- Why a run failed after its log was set up. -/
inductive Failure where
  /-- An access to the port failed at this stage. -/
  | port (stage : Stage) (error : PortError)
  /-- The configuration is not valid. -/
  | config (cause : InvalidConfig)
  /-- There is no driver to talk to on this system. -/
  | unavailable
  deriving DecidableEq, Repr

/-- The wording of the failure; one of the port comes with its stage and all its causes. -/
def Failure.message : Failure → String
  | port stage error => stage.context ++ ": " ++ error.chain
  | config cause => cause.message
  | unavailable => "the SerialFC driver interface is only available on Windows"

/-- What can be noted in the log. -/
inductive Record where
  /-- A request goes out. -/
  | sent (request : Request)
  /-- The request with this code was answered with a fault. -/
  | rejected (code : ControlCode) (fault : DeviceFault)
  /-- The request with this code was answered with the wrong number of bytes. -/
  | wrongLength (code : ControlCode) (actual expected : Nat)
  /-- A setting the card lacks was left out. -/
  | skipped (name : String) (error : PortError)
  /-- A profile was applied. -/
  | applied (written omitted : Nat)
  /-- A port was opened. -/
  | opened (path : String)
  /-- A port was closed. -/
  | closed (path : String)
  /-- A port that was given up could not be closed. -/
  | closeFailed (path : String) (error : OsError)
  /-- The configuration is about to be read. -/
  | reading (path : String)
  /-- The configuration was read and is valid. -/
  | loaded (path : String)
  /-- The run starts with this configuration. -/
  | started (path : String)
  /-- A setting has this value. -/
  | value (name : String) (v : SettingValue)
  /-- A setting could not be read. -/
  | unreadable (name : String) (error : PortError)
  /-- The run failed. -/
  | failed (failure : Failure)
  /-- The run is over. -/
  | done
  deriving DecidableEq, Repr

namespace Record

/-- How severe a record is. -/
def level : Record → Level
  | sent _ | rejected .. | reading _ => .debug
  | applied .. | opened _ | closed _ | loaded _ | started _ | value .. | done => .info
  | wrongLength .. | skipped .. | closeFailed .. | unreadable .. => .warn
  | failed _ => .error

/-- The part of the program a record belongs to. -/
def target : Record → String
  | sent _ | rejected .. | wrongLength .. => "serialfc::port"
  | skipped .. | applied .. => "serialfc::port::profile"
  | opened _ | closed _ | closeFailed .. => "serialfc::comms::ioctl"
  | reading _ | loaded _ => "serialfc::config::loader"
  | started _ | value .. | unreadable .. | failed _ | done => "serialfc"

/-- The wording of a record. -/
def message : Record → String
  | sent request =>
    request.code.text ++ ": " ++ toString request.inputSize ++ " byte(s) in, "
      ++ toString request.outputSize ++ " expected"
  | rejected code fault => code.text ++ " rejected: " ++ fault.message
  | wrongLength code actual expected =>
    code.text ++ " returned " ++ toString actual ++ " byte(s), expected " ++ toString expected
  | skipped name error => "Skipping " ++ name ++ ": " ++ error.message
  | applied written omitted =>
    "Profile applied: " ++ toString written ++ " setting(s) written, " ++ toString omitted
      ++ " skipped"
  | opened path => "Opened " ++ path
  | closed path => "Closed " ++ path
  | closeFailed path error => "CloseHandle on " ++ path ++ " failed: " ++ error.text
  | reading path => "Reading config from " ++ Text.quoted path
  | loaded path => "Loaded config from " ++ Text.quoted path
  | started path => "Using configuration " ++ path
  | value name v => name ++ " = " ++ v.text
  | unreadable name error => name ++ ": " ++ error.message
  | failed failure => failure.message
  | done => "Done"

end Record

/-- What a line of the log says of the moment and the process that wrote it. -/
structure Stamp where
  time : String
  process : String
  thread : String

/-- The line in which a record is written. The level is padded to five characters. -/
def Record.line (stamp : Stamp) (r : Record) : String :=
  let level := r.level.name
  "[" ++ stamp.time ++ "][" ++ level ++ "".pushn ' ' (5 - level.length) ++ "][" ++ r.target
    ++ "][pid=" ++ stamp.process ++ "][tid=" ++ stamp.thread ++ "] " ++ r.message

end SerialCard
