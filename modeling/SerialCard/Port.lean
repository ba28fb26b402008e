import SerialCard.Channel

/-!
# Ports

A port turns the settings of a card into typed reads and writes. How a shape of setting is
requested is written once (`Port.flag`, `Port.setRegister`, `Port.enableMode`, …); the named
accessors pick a descriptor from the table. Every access is exactly one request: nothing is tried
again and nothing is remembered. An answer of the wrong length is an error, whatever it says.
-/

namespace SerialCard

/-- A port on a channel. -/
structure Port (σ : Type) where
  channel : Channel σ

namespace Port

variable {σ : Type} (p : Port σ)

/-- Gives the port up and closes its channel. -/
def close : Task σ Unit := ExceptT.mk do
  match ← p.channel.close with
  | .ok () => return .ok ()
  | .error e => return .error (.transport e)

/-! ### One request -/

/-- Passes a request on and takes note of the exchange. -/
def ask (request : Request) : Work σ Reply := fun s =>
  let answer := p.channel.control request s
  ⟨answer.1, answer.2, [.exchanged request answer.1]⟩

/-- Sends a request and insists on an answer of exactly `expected` bytes. -/
def exchange (code : ControlCode) (input : Option Bytes) (expected : Nat) : Task σ Bytes :=
  ExceptT.mk do
    let request : Request := ⟨code, input, expected⟩
    Work.log (.sent request)
    match ← p.ask request with
    | .error fault =>
      Work.log (.rejected code fault)
      return .error (.device code fault)
    | .ok bytes =>
      if bytes.length = expected then
        return .ok bytes
      else
        Work.log (.wrongLength code bytes.length expected)
        return .error (.device code (.lengthMismatch expected bytes.length))

/-- Sends a request that nothing comes back from. -/
def command (code : ControlCode) (input : Option Bytes) : Task σ Unit := do
  let _ ← p.exchange code input 0

/-- Asks for a value. -/
def query (α : Type) [Wire α] (code : ControlCode) : Task σ α := do
  let bytes ← p.exchange code none (Wire.size α)
  match Wire.decode bytes with
  | some a => return a
  | none => throw (.device code (.lengthMismatch (Wire.size α) bytes.length))

/-! ### Settings by their shape -/

/-- Whether a flag is on. -/
def flag (setting : Flag) : Task σ Bool :=
  p.query Bool setting.get

/-- Switches a flag. The code alone says which way. -/
def setFlag (setting : Flag) (on : Bool) : Task σ Unit :=
  p.command (if on then setting.enable else setting.disable) none

/-- The number in a register. -/
def register (setting : Register) : Task σ UInt32 :=
  p.query UInt32 setting.get

/-- Puts a number into a register. -/
def setRegister (setting : Register) (value : UInt32) : Task σ Unit :=
  p.command setting.set (some (Wire.encode value))

/-- Sets a number that cannot be read. -/
def writeOnly (setting : WriteOnly) (value : UInt32) : Task σ Unit :=
  p.command setting.set (some (Wire.encode value))

/-- The number of a mode as the driver reports it, also when the mode is off. -/
def mode (setting : Mode) : Task σ Int32 :=
  p.query Int32 setting.get

/-- Turns a mode on, with its number. -/
def enableMode (setting : Mode) (value : Int32) : Task σ Unit :=
  p.command setting.enable (some (Wire.encode value))

/-- Turns a mode off. -/
def disableMode (setting : Mode) : Task σ Unit :=
  p.command setting.disable none

/-- The family a card reports, if it is one that is known. -/
def classify (setting : Classification) : Task σ CardKind := do
  let raw ← p.query UInt32 setting.get
  match CardKind.ofOrdinal raw with
  | .ok kind => return kind
  | .error e => throw e

/-- Reads a setting of any shape. One that cannot be read fails without a request. -/
def read : Setting → Task σ SettingValue
  | .flag s => .flag <$> p.flag s
  | .register s => .word <$> p.register s
  | .writeOnly s => throw (.unreadable s.name)
  | .mode s => .mode <$> p.mode s
  | .classification s => .card <$> p.classify s

/-- Reads every setting of a list, one result each, whatever becomes of the others. -/
def readAll : List Setting → Work σ (List (String × Except PortError SettingValue))
  | [] => pure []
  | s :: rest => do
    let result ← (p.read s).run
    let results ← readAll rest
    return (s.name, result) :: results

/-- Reads every setting of the table that can be read. -/
def snapshot : Work σ (List (String × Except PortError SettingValue)) :=
  p.readAll (Setting.all.filter Setting.isReadable)

/-! ### Settings by their name -/

/-- Whether lines are driven as RS-485. -/
def rs485 : Task σ Bool := p.flag .rs485

/-- Switches RS-485 line driving. -/
def setRs485 (on : Bool) : Task σ Unit := p.setFlag .rs485 on

/-- Whether the card drops what it hears of its own transmission. -/
def echoCancel : Task σ Bool := p.flag .echoCancel

/-- Switches echo cancellation. -/
def setEchoCancel (on : Bool) : Task σ Unit := p.setFlag .echoCancel on

/-- Whether lines are terminated. -/
def termination : Task σ Bool := p.flag .termination

/-- Switches line termination. -/
def setTermination (on : Bool) : Task σ Unit := p.setFlag .termination on

/-- Whether the nine-bit protocol is on. -/
def nineBit : Task σ Bool := p.flag .nineBit

/-- Switches the nine-bit protocol. -/
def setNineBit (on : Bool) : Task σ Unit := p.setFlag .nineBit on

/-- The number of samples per bit. -/
def sampleRate : Task σ UInt32 := p.register .sampleRate

/-- Sets the number of samples per bit. -/
def setSampleRate (rate : UInt32) : Task σ Unit := p.setRegister .sampleRate rate

/-- The fill level at which the transmit queue asks for more. -/
def txTrigger : Task σ UInt32 := p.register .txTrigger

/-- Sets the fill level of the transmit queue. -/
def setTxTrigger (level : UInt32) : Task σ Unit := p.setRegister .txTrigger level

/-- The fill level at which the receive queue is to be emptied. -/
def rxTrigger : Task σ UInt32 := p.register .rxTrigger

/-- Sets the fill level of the receive queue. -/
def setRxTrigger (level : UInt32) : Task σ Unit := p.setRegister .rxTrigger level

/-- The number of characters per frame. -/
def frameLength : Task σ UInt32 := p.register .frameLength

/-- Sets the number of characters per frame. -/
def setFrameLength (characters : UInt32) : Task σ Unit := p.setRegister .frameLength characters

/-- Sets the clock generator, in hertz. There is no way to read it. -/
def setClockRate (rate : UInt32) : Task σ Unit := p.writeOnly .clockRate rate

/-- The clock selection of isochronous transfer. -/
def isochronous : Task σ Int32 := p.mode .isochronous

/-- Turns isochronous transfer on with a clock selection. -/
def enableIsochronous (clocks : Int32) : Task σ Unit := p.enableMode .isochronous clocks

/-- Turns isochronous transfer off. -/
def disableIsochronous : Task σ Unit := p.disableMode .isochronous

/-- The number of frames of external transmission. -/
def externalTransmit : Task σ Int32 := p.mode .externalTransmit

/-- Lets an external signal send a number of frames. -/
def enableExternalTransmit (frames : Int32) : Task σ Unit := p.enableMode .externalTransmit frames

/-- Turns external transmission off. -/
def disableExternalTransmit : Task σ Unit := p.disableMode .externalTransmit

/-- The fixed rate, in bits per second. -/
def fixedBaudRate : Task σ Int32 := p.mode .fixedBaudRate

/-- Fixes the rate, in bits per second. -/
def enableFixedBaudRate (rate : Int32) : Task σ Unit := p.enableMode .fixedBaudRate rate

/-- Gives the fixed rate up. -/
def disableFixedBaudRate : Task σ Unit := p.disableMode .fixedBaudRate

/-- The family of the card. -/
def cardType : Task σ CardKind := p.classify .cardType

end Port

end SerialCard
