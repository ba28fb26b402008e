import SerialCard.Program
import Std.Time

/-!
# The command line

Runs the program on the files of this system. The driver is out of reach from here, so a run ends
once its log is set up.
-/

namespace SerialCard.Program

/-- An error of the running system, in its words. -/
def systemError (e : IO.Error) : OsError :=
  match e with
  | .noFileOrDirectory _ code details | .noSuchThing (some _) code details
  | .inappropriateType (some _) code details | .permissionDenied (some _) code details
  | .invalidArgument (some _) code details | .resourceExhausted (some _) code details =>
    ⟨some code.toInt32, details ++ " (os error " ++ toString code.toInt32.toInt ++ ")"⟩
  | other => ⟨none, toString other⟩

/-- The outcome of an action on the running system. -/
def outcomeOf {α : Type} (action : IO α) : IO (Except OsError α) := do
  match ← action.toBaseIO with
  | .ok a => return .ok a
  | .error e => return .error (systemError e)

/-- The current time. -/
def timeText : IO String := do
  return (← Std.Time.DateTime.now).format "uuuu-MM-dd'T'HH:mm:ss.SSSSSSSSSxxx"

/-- The number of this process. -/
def processText : IO String := do
  match ← (IO.FS.readFile "/proc/self/stat").toBaseIO with
  | .ok text => return String.ofList (text.toList.takeWhile Char.isDigit)
  | .error _ => return "0"

/-- Opens a file for appending and appends a text to it. -/
def appendTo (path text : String) : IO Unit := do
  let file ← IO.FS.Handle.mk path .append
  file.putStr text

/-- Runs the program with the given arguments. The run is worked out twice: once to learn which file
it will log to, and again with what came of opening that file. -/
def execute (arguments : List String) : IO UInt32 := do
  let directory := ((← IO.appPath).parent.map toString).getD ""
  let blind : Environment :=
    ⟨directory, arguments, ⟨fun _ => .ok .empty, fun _ => .ok (), joinPath⟩⟩
  let contents ← outcomeOf (IO.FS.readBinFile blind.configPath)
  let files : Files := { blind.files with read := fun _ => contents }
  let planned := run { blind with files } (.other : Platform Unit) ()
  let opened ←
    match planned.logFile with
    | some (path, _) => outcomeOf (appendTo path "")
    | none => pure (.ok ())
  let env : Environment := { blind with files := { files with append := fun _ => opened } }
  let outcome := run env (.other : Platform Unit) ()
  let stamp : Stamp := ⟨← timeText, ← processText, "ThreadId(1)"⟩
  for record in outcome.stdout do
    IO.println (record.line stamp)
  match outcome.logFile with
  | some (path, records) =>
    appendTo path (String.join (records.map fun r => r.line stamp ++ "\n"))
  | none => pure ()
  match outcome.stderr with
  | some report => IO.eprintln (report.line stamp.time)
  | none => pure ()
  return outcome.exitCode

end SerialCard.Program

/-- Runs the program. -/
def main (arguments : List String) : IO UInt32 :=
  SerialCard.Program.execute arguments
