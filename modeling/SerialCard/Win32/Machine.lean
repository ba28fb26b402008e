import SerialCard.Card
import SerialCard.Win32.System

/-!
# A machine with one card

`Machine` is a system behind which there is a card, as loose as that of a `Desk`. Its handles are 4,
8, 12 and so on, one for each time a device is opened. Opening and closing fail with a given error
number from when they are told to. A request goes to the card; what the card gives back is cut to
the size of the buffer, and its refusals are error numbers.
-/

namespace SerialCard.Win32

/-- A system with one card. -/
structure Machine where
  /-- The card; it refuses by error numbers. -/
  card : Card UInt32 := {}
  /-- How many devices have been opened. -/
  openings : Nat := 0
  /-- What opening fails with, if it does. -/
  openFailure : Option UInt32 := none
  /-- What closing fails with, if it does. -/
  closeFailure : Option UInt32 := none
  /-- The number of the last error. -/
  lastError : UInt32 := 0

namespace Machine

/-- Opens a device: each opening has a handle of its own. -/
def createFile (_ : OpenCall) (m : Machine) : Handle × Machine :=
  match m.openFailure with
  | some number => (Handle.invalid, { m with lastError := number })
  | none => (⟨(4 * (m.openings + 1)).toUInt64⟩, { m with openings := m.openings + 1 })

/-- Asks the card. -/
def deviceIoControl (call : ControlCall) (m : Machine) : ControlResult × Machine :=
  let request : Request := ⟨call.code, call.input, call.outputSize.toNat⟩
  let answer := m.card.answer Operation.looseEffect 50 request
  match answer.1 with
  | .error number => (⟨false, [], 0⟩, { m with card := answer.2, lastError := number })
  | .ok output =>
    let written := output.bytes.take call.outputSize.toNat
    (⟨true, written, output.claimed.getD written.length.toUInt32⟩, { m with card := answer.2 })

/-- Closes a handle. -/
def closeHandle (_ : Handle) (m : Machine) : Bool × Machine :=
  match m.closeFailure with
  | some number => (false, { m with lastError := number })
  | none => (true, m)

/-- The machine as a system that words its errors in the given way. -/
def system (wording : Int32 → String) : System Machine where
  createFile := createFile
  deviceIoControl := deviceIoControl
  closeHandle := closeHandle
  lastError := lastError
  wording := wording

end Machine

end SerialCard.Win32
