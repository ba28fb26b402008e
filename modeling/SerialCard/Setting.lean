import SerialCard.Operation

/-!
# The settings of a card

A setting belongs to one of five shapes, and the shape says what can be asked of it:

| shape            | write                         | read             |
|------------------|-------------------------------|------------------|
| `Flag`           | enable or disable, no input   | one byte         |
| `Register`       | set, a 32-bit word            | a 32-bit word    |
| `WriteOnly`      | set, a 32-bit word            |                  |
| `Mode`           | enable with a number, disable | a 32-bit number  |
| `Classification` |                               | a 32-bit word    |

`Setting.all` is the table of the thirteen settings there are; a caller may use descriptors of its
own as well.
-/

namespace SerialCard

/-- A setting that is on or off. -/
structure Flag where
  name : String
  enable : ControlCode
  disable : ControlCode
  get : ControlCode
  deriving DecidableEq, Repr

/-- A number that can be set and read. -/
structure Register where
  name : String
  set : ControlCode
  get : ControlCode
  deriving DecidableEq, Repr

/-- A number that can be set and not read. -/
structure WriteOnly where
  name : String
  set : ControlCode
  deriving DecidableEq, Repr

/-- A setting that is off, or on with a number. -/
structure Mode where
  name : String
  enable : ControlCode
  disable : ControlCode
  get : ControlCode
  deriving DecidableEq, Repr

/-- What kind of card there is; it can only be read. -/
structure Classification where
  name : String
  get : ControlCode
  deriving DecidableEq, Repr

/-! ### The table -/

namespace Flag

/-- RS-485 line driving. -/
def rs485 : Flag :=
  ⟨"rs485", Operation.enableRs485.code, Operation.disableRs485.code, Operation.getRs485.code⟩

/-- Dropping what the card hears of its own transmission. -/
def echoCancel : Flag :=
  ⟨"echo_cancel", Operation.enableEchoCancel.code, Operation.disableEchoCancel.code,
    Operation.getEchoCancel.code⟩

/-- Line termination, which only one family of cards can switch. -/
def termination : Flag :=
  ⟨"termination", Operation.enableTermination.code, Operation.disableTermination.code,
    Operation.getTermination.code⟩

/-- The nine-bit protocol. -/
def nineBit : Flag :=
  ⟨"nine_bit", Operation.enableNineBit.code, Operation.disableNineBit.code,
    Operation.getNineBit.code⟩

end Flag

namespace Register

/-- Samples per bit. -/
def sampleRate : Register :=
  ⟨"sample_rate", Operation.setSampleRate.code, Operation.getSampleRate.code⟩

/-- The fill level at which the transmit queue asks for more. -/
def txTrigger : Register :=
  ⟨"tx_trigger", Operation.setTxTrigger.code, Operation.getTxTrigger.code⟩

/-- The fill level at which the receive queue is to be emptied. -/
def rxTrigger : Register :=
  ⟨"rx_trigger", Operation.setRxTrigger.code, Operation.getRxTrigger.code⟩

/-- Characters per frame. -/
def frameLength : Register :=
  ⟨"frame_length", Operation.setFrameLength.code, Operation.getFrameLength.code⟩

end Register

/-- The rate of the clock generator, in hertz. -/
def WriteOnly.clockRate : WriteOnly :=
  ⟨"clock_rate", Operation.setClockRate.code⟩

namespace Mode

/-- Isochronous transfer; the number selects the sources of the clocks. -/
def isochronous : Mode :=
  ⟨"isochronous", Operation.enableIsochronous.code, Operation.disableIsochronous.code,
    Operation.getIsochronous.code⟩

/-- Transmission on an external signal; the number counts frames. -/
def externalTransmit : Mode :=
  ⟨"external_transmit", Operation.enableExternalTransmit.code,
    Operation.disableExternalTransmit.code, Operation.getExternalTransmit.code⟩

/-- A fixed rate; the number counts bits per second. -/
def fixedBaudRate : Mode :=
  ⟨"fixed_baud_rate", Operation.enableFixedBaudRate.code, Operation.disableFixedBaudRate.code,
    Operation.getFixedBaudRate.code⟩

end Mode

/-- The family the card belongs to. -/
def Classification.cardType : Classification :=
  ⟨"card_type", Operation.getCardType.code⟩

/-- A setting of any shape. -/
inductive Setting where
  | flag (setting : Flag)
  | register (setting : Register)
  | writeOnly (setting : WriteOnly)
  | mode (setting : Mode)
  | classification (setting : Classification)
  deriving DecidableEq, Repr

namespace Setting

/-- The settings of a card, in the order in which they are listed. -/
def all : List Setting :=
  [flag .rs485, flag .echoCancel, flag .termination, flag .nineBit, register .sampleRate,
    register .txTrigger, register .rxTrigger, register .frameLength, writeOnly .clockRate,
    mode .isochronous, mode .externalTransmit, mode .fixedBaudRate, classification .cardType]

/-- The name of a setting. -/
def name : Setting → String
  | flag s => s.name
  | register s => s.name
  | writeOnly s => s.name
  | mode s => s.name
  | classification s => s.name

/-- The code that reads a setting, if it can be read. -/
def getCode : Setting → Option ControlCode
  | flag s => some s.get
  | register s => some s.get
  | writeOnly _ => none
  | mode s => some s.get
  | classification s => some s.get

/-- Whether a setting can be read. -/
def isReadable (s : Setting) : Bool :=
  s.getCode.isSome

/-- Every code of a setting, writes before the read. -/
def codes : Setting → List ControlCode
  | flag s => [s.enable, s.disable, s.get]
  | register s => [s.set, s.get]
  | writeOnly s => [s.set]
  | mode s => [s.enable, s.disable, s.get]
  | classification s => [s.get]

end Setting

/-! ### Values -/

/-- The families of cards. -/
inductive CardKind where
  | pci
  | pcie
  | fscc
  | unknown
  deriving DecidableEq, Repr

namespace CardKind

/-- The number a card reports for its family. -/
def ordinal : CardKind → UInt32
  | pci => 0
  | pcie => 1
  | fscc => 2
  | unknown => 3

/-- The family of a reported number. -/
def ofOrdinal? (raw : UInt32) : Option CardKind :=
  if raw = 0 then some pci
  else if raw = 1 then some pcie
  else if raw = 2 then some fscc
  else if raw = 3 then some unknown
  else none

/-- The name of a family. -/
def text : CardKind → String
  | pci => "PCI"
  | pcie => "PCIe"
  | fscc => "FSCC"
  | unknown => "Unknown"

end CardKind

/-- The value of a setting that can be read. -/
inductive SettingValue where
  | flag (on : Bool)
  | word (value : UInt32)
  | mode (value : Int32)
  | card (kind : CardKind)
  deriving DecidableEq, Repr

/-- A value as it is shown. -/
def SettingValue.text : SettingValue → String
  | flag on => if on then "on" else "off"
  | word value => toString value.toNat
  | mode value => toString value.toInt
  | card kind => kind.text

end SerialCard
