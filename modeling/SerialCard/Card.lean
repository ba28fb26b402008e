import SerialCard.Channel

/-!
# A faithful card

`Card` keeps a cell of bytes per operation that reads a setting. A flag is switched by storing a
fixed byte. What is set, and the number a mode is enabled with, are stored as they are sent; a mode
is disabled by storing a fixed number. Reading gives the bytes of the cell, or zeros if nothing was
ever stored. The clock rate is not kept, since nothing would read it. A card can be told to refuse
some codes, and to answer the next requests with given answers instead of doing anything. What a
refusal looks like is left open, since a driver reports it in its own way.

`Operation.effect` says all this of a faithful card, which is `Card.channel`. The card of a `Desk`
is looser in what it takes to turn something on (`Operation.looseEffect`). A port never makes a
request that would tell the two apart.
-/

namespace SerialCard

/-- What an operation does to the cells of a card. -/
inductive Effect where
  /-- Nothing is kept. -/
  | forget
  /-- The cell takes these bytes, whatever is sent. -/
  | store (cell : Operation) (bytes : Bytes)
  /-- The cell takes what is sent. If nothing is sent, it is empty. -/
  | storeInput (cell : Operation)
  /-- The cell is read. -/
  | read
  deriving DecidableEq, Repr

namespace Operation

/-- What a mode reads as when it is off: minus one. -/
def modeOff : Bytes := [0xFF, 0xFF, 0xFF, 0xFF]

/-- What an operation does to the cells of a faithful card. -/
def effect : Operation → Effect
  | enableRs485 => .store getRs485 [1]
  | disableRs485 => .store getRs485 [0]
  | enableEchoCancel => .store getEchoCancel [1]
  | disableEchoCancel => .store getEchoCancel [0]
  | enableTermination => .store getTermination [1]
  | disableTermination => .store getTermination [0]
  | enableNineBit => .store getNineBit [1]
  | disableNineBit => .store getNineBit [0]
  | setSampleRate => .storeInput getSampleRate
  | setTxTrigger => .storeInput getTxTrigger
  | setRxTrigger => .storeInput getRxTrigger
  | setFrameLength => .storeInput getFrameLength
  | setClockRate => .forget
  | enableIsochronous => .storeInput getIsochronous
  | disableIsochronous => .store getIsochronous modeOff
  | enableExternalTransmit => .storeInput getExternalTransmit
  | disableExternalTransmit => .store getExternalTransmit modeOff
  | enableFixedBaudRate => .storeInput getFixedBaudRate
  | disableFixedBaudRate => .store getFixedBaudRate modeOff
  | getRs485 | getEchoCancel | getTermination | getNineBit | getSampleRate | getTxTrigger
  | getRxTrigger | getFrameLength | getIsochronous | getExternalTransmit | getFixedBaudRate
  | getCardType => .read

/-- The operation that reads what an operation turns on. -/
def turnedOn? : Operation → Option Operation
  | enableRs485 => some getRs485
  | enableEchoCancel => some getEchoCancel
  | enableTermination => some getTermination
  | enableNineBit => some getNineBit
  | enableIsochronous => some getIsochronous
  | enableExternalTransmit => some getExternalTransmit
  | enableFixedBaudRate => some getFixedBaudRate
  | _ => none

/-- What an operation does to the cells of a card that does not tell flags from modes when they are
turned on: what is sent is stored, or a one if nothing is sent. -/
def looseEffect (op : Operation) (request : Request) : Effect :=
  match op.turnedOn?, request.input with
  | some cell, some _ => .storeInput cell
  | some cell, none => .store cell [1]
  | none, _ => op.effect

end Operation

/-- What a card gives back: bytes, and how many it says there are, if that is another number. -/
structure Card.Output where
  bytes : Bytes
  claimed : Option UInt32 := none
  deriving DecidableEq, Repr

/-- A card whose refusals are of kind `φ`. -/
structure Card (φ : Type) where
  /-- The bytes stored for each operation that reads. -/
  cells : Operation → Option Bytes := fun _ => none
  /-- The codes that are refused. -/
  refusals : ControlCode → Option φ := fun _ => none
  /-- The answers to the next requests. -/
  queued : List (Except φ Card.Output) := []

namespace Card

variable {φ : Type}

/-- Stores bytes in a cell. -/
def put (card : Card φ) (cell : Operation) (bytes : Bytes) : Card φ :=
  { card with cells := fun op => if op = cell then some bytes else card.cells op }

/-- Refuses a code from now on. -/
def refuse (card : Card φ) (code : ControlCode) (fault : φ) : Card φ :=
  { card with refusals := fun c => if c = code then some fault else card.refusals c }

/-- Takes a code again. -/
def accept (card : Card φ) (code : ControlCode) : Card φ :=
  { card with refusals := fun c => if c = code then none else card.refusals c }

/-- Answers one more of the requests to come with a given answer. -/
def enqueue (card : Card φ) (output : Except φ Output) : Card φ :=
  { card with queued := card.queued ++ [output] }

/-- Carries out an operation that has an effect. -/
def carryOut (card : Card φ) (effect : Effect) (op : Operation) (request : Request) :
    Bytes × Card φ :=
  match effect with
  | .forget => ([], card)
  | .store cell bytes => ([], card.put cell bytes)
  | .storeInput cell => ([], card.put cell (request.input.getD []))
  | .read => ((card.cells op).getD (List.replicate request.outputSize 0), card)

/-- Answers a request by the effects that operations have. A queued answer goes out first; then a
refused code is refused, and a code that is no operation is `unsupported`. -/
def answer (effect : Operation → Request → Effect) (unsupported : φ) (request : Request)
    (card : Card φ) : Except φ Output × Card φ :=
  match card.queued with
  | output :: rest => (output, { card with queued := rest })
  | [] =>
    match card.refusals request.code with
    | some fault => (.error fault, card)
    | none =>
      match Operation.ofCode? request.code with
      | none => (.error unsupported, card)
      | some op =>
        let result := card.carryOut (effect op request) op request
        (.ok ⟨result.1, none⟩, result.2)

/-- The bytes of an answer; what the card claims beside them does not count. -/
def reply : Except DeviceFault Output → Reply
  | .ok output => .ok output.bytes
  | .error fault => .error fault

/-- A faithful card as a channel. There is nothing to close. -/
def channel : Channel (Card DeviceFault) where
  control request := fun card =>
    let result := card.answer (fun op _ => op.effect) .unsupported request
    (reply result.1, result.2)

end Card

/-- A loose card whose port may fail to close. -/
structure Desk where
  card : Card DeviceFault := {}
  /-- What closing fails with, if it does. -/
  closeFailure : Option TransportError := none

namespace Desk

/-- A card behind a port that can be closed. -/
def channel : Channel Desk where
  control request := fun desk =>
    let result := desk.card.answer Operation.looseEffect .unsupported request
    (Card.reply result.1, { desk with card := result.2 })
  close := fun desk =>
    match desk.closeFailure with
    | some e => ⟨.error e, desk, []⟩
    | none => ⟨.ok (), desk, []⟩

end Desk

end SerialCard
