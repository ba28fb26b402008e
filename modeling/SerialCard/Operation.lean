import SerialCard.ControlCode

/-!
# The operations of the card's driver

The driver understands 31 operations, numbered one after the other from `functionBase`. The code
of an operation has the driver's device type, the operation's number, and zero for the method and
the access. `Operation.ofCode?` finds the operation of a code, and `ControlCode.text` writes a code
with the name of its operation in front, if it has one.
-/

namespace SerialCard

/-- The device type the driver is registered under. -/
def deviceType : UInt32 := 0x8019

/-- The method of every operation: input and output are buffered. -/
def bufferedMethod : UInt32 := 0

/-- The access of every operation: any will do. -/
def anyAccess : UInt32 := 0

/-- The number of the first operation. -/
def functionBase : UInt32 := 0x800

/-- What the driver can be asked to do. -/
inductive Operation where
  | enableRs485
  | disableRs485
  | getRs485
  | enableEchoCancel
  | disableEchoCancel
  | getEchoCancel
  | enableTermination
  | disableTermination
  | getTermination
  | setSampleRate
  | getSampleRate
  | setTxTrigger
  | getTxTrigger
  | setRxTrigger
  | getRxTrigger
  | setClockRate
  | enableIsochronous
  | disableIsochronous
  | getIsochronous
  | enableExternalTransmit
  | disableExternalTransmit
  | getExternalTransmit
  | setFrameLength
  | getFrameLength
  | getCardType
  | enableNineBit
  | disableNineBit
  | getNineBit
  | enableFixedBaudRate
  | disableFixedBaudRate
  | getFixedBaudRate
  deriving DecidableEq, Repr

namespace Operation

/-- Every operation, in the order of their numbers. -/
def all : List Operation :=
  [enableRs485, disableRs485, getRs485, enableEchoCancel, disableEchoCancel, getEchoCancel,
    enableTermination, disableTermination, getTermination, setSampleRate, getSampleRate,
    setTxTrigger, getTxTrigger, setRxTrigger, getRxTrigger, setClockRate, enableIsochronous,
    disableIsochronous, getIsochronous, enableExternalTransmit, disableExternalTransmit,
    getExternalTransmit, setFrameLength, getFrameLength, getCardType, enableNineBit,
    disableNineBit, getNineBit, enableFixedBaudRate, disableFixedBaudRate, getFixedBaudRate]

/-- The number of an operation. -/
def function : Operation → UInt32
  | enableRs485 => 0x800
  | disableRs485 => 0x801
  | getRs485 => 0x802
  | enableEchoCancel => 0x803
  | disableEchoCancel => 0x804
  | getEchoCancel => 0x805
  | enableTermination => 0x806
  | disableTermination => 0x807
  | getTermination => 0x808
  | setSampleRate => 0x809
  | getSampleRate => 0x80A
  | setTxTrigger => 0x80B
  | getTxTrigger => 0x80C
  | setRxTrigger => 0x80D
  | getRxTrigger => 0x80E
  | setClockRate => 0x80F
  | enableIsochronous => 0x810
  | disableIsochronous => 0x811
  | getIsochronous => 0x812
  | enableExternalTransmit => 0x813
  | disableExternalTransmit => 0x814
  | getExternalTransmit => 0x815
  | setFrameLength => 0x816
  | getFrameLength => 0x817
  | getCardType => 0x818
  | enableNineBit => 0x819
  | disableNineBit => 0x81A
  | getNineBit => 0x81B
  | enableFixedBaudRate => 0x81C
  | disableFixedBaudRate => 0x81D
  | getFixedBaudRate => 0x81E

/-- The name of an operation in the vendor's headers. -/
def name : Operation → String
  | enableRs485 => "IOCTL_FASTCOM_ENABLE_RS485"
  | disableRs485 => "IOCTL_FASTCOM_DISABLE_RS485"
  | getRs485 => "IOCTL_FASTCOM_GET_RS485"
  | enableEchoCancel => "IOCTL_FASTCOM_ENABLE_ECHO_CANCEL"
  | disableEchoCancel => "IOCTL_FASTCOM_DISABLE_ECHO_CANCEL"
  | getEchoCancel => "IOCTL_FASTCOM_GET_ECHO_CANCEL"
  | enableTermination => "IOCTL_FASTCOM_ENABLE_TERMINATION"
  | disableTermination => "IOCTL_FASTCOM_DISABLE_TERMINATION"
  | getTermination => "IOCTL_FASTCOM_GET_TERMINATION"
  | setSampleRate => "IOCTL_FASTCOM_SET_SAMPLE_RATE"
  | getSampleRate => "IOCTL_FASTCOM_GET_SAMPLE_RATE"
  | setTxTrigger => "IOCTL_FASTCOM_SET_TX_TRIGGER"
  | getTxTrigger => "IOCTL_FASTCOM_GET_TX_TRIGGER"
  | setRxTrigger => "IOCTL_FASTCOM_SET_RX_TRIGGER"
  | getRxTrigger => "IOCTL_FASTCOM_GET_RX_TRIGGER"
  | setClockRate => "IOCTL_FASTCOM_SET_CLOCK_RATE"
  | enableIsochronous => "IOCTL_FASTCOM_ENABLE_ISOCHRONOUS"
  | disableIsochronous => "IOCTL_FASTCOM_DISABLE_ISOCHRONOUS"
  | getIsochronous => "IOCTL_FASTCOM_GET_ISOCHRONOUS"
  | enableExternalTransmit => "IOCTL_FASTCOM_ENABLE_EXTERNAL_TRANSMIT"
  | disableExternalTransmit => "IOCTL_FASTCOM_DISABLE_EXTERNAL_TRANSMIT"
  | getExternalTransmit => "IOCTL_FASTCOM_GET_EXTERNAL_TRANSMIT"
  | setFrameLength => "IOCTL_FASTCOM_SET_FRAME_LENGTH"
  | getFrameLength => "IOCTL_FASTCOM_GET_FRAME_LENGTH"
  | getCardType => "IOCTL_FASTCOM_GET_CARD_TYPE"
  | enableNineBit => "IOCTL_FASTCOM_ENABLE_9BIT"
  | disableNineBit => "IOCTL_FASTCOM_DISABLE_9BIT"
  | getNineBit => "IOCTL_FASTCOM_GET_9BIT"
  | enableFixedBaudRate => "IOCTL_FASTCOM_ENABLE_FIXED_BAUD_RATE"
  | disableFixedBaudRate => "IOCTL_FASTCOM_DISABLE_FIXED_BAUD_RATE"
  | getFixedBaudRate => "IOCTL_FASTCOM_GET_FIXED_BAUD_RATE"

/-- The control code of an operation. -/
def code (op : Operation) : ControlCode :=
  .ofFields
    { deviceType := deviceType, function := op.function, method := bufferedMethod,
      access := anyAccess }

/-- The operation a code stands for, if any. -/
def ofCode? (c : ControlCode) : Option Operation :=
  all.find? fun op => op.code == c

end Operation

/-- The code as hexadecimal digits, after the name of its operation if it has one. -/
def ControlCode.text (c : ControlCode) : String :=
  let number := "0x" ++ String.ofList c.digits
  match Operation.ofCode? c with
  | some op => op.name ++ " (" ++ number ++ ")"
  | none => number

/-- Names of devices start with this, for the port numbers that follow. -/
def comPrefix : String := "\\\\.\\COM"

/-- The device path of a numbered port. -/
def devicePath (port : UInt32) : String :=
  comPrefix ++ toString port.toNat

end SerialCard
