import SerialCard.Profile

/-!
# Calls on a port

The ways in which a port can be used, as data: `Accessor` lists the named accessors, `Call` adds
the accesses by descriptor and those that touch several settings. `Port.call` makes a call.
-/

namespace SerialCard

/-- The named accessors of a port. -/
inductive Accessor where
  | rs485
  | setRs485 (on : Bool)
  | echoCancel
  | setEchoCancel (on : Bool)
  | termination
  | setTermination (on : Bool)
  | nineBit
  | setNineBit (on : Bool)
  | sampleRate
  | setSampleRate (rate : UInt32)
  | txTrigger
  | setTxTrigger (level : UInt32)
  | rxTrigger
  | setRxTrigger (level : UInt32)
  | frameLength
  | setFrameLength (characters : UInt32)
  | setClockRate (rate : UInt32)
  | isochronous
  | enableIsochronous (clocks : Int32)
  | disableIsochronous
  | externalTransmit
  | enableExternalTransmit (frames : Int32)
  | disableExternalTransmit
  | fixedBaudRate
  | enableFixedBaudRate (rate : Int32)
  | disableFixedBaudRate
  | cardType
  deriving DecidableEq, Repr

/-- A call on a port. -/
inductive Call where
  | named (accessor : Accessor)
  | flag (setting : Flag)
  | setFlag (setting : Flag) (on : Bool)
  | register (setting : Register)
  | setRegister (setting : Register) (value : UInt32)
  | writeOnly (setting : WriteOnly) (value : UInt32)
  | mode (setting : Mode)
  | enableMode (setting : Mode) (value : Int32)
  | disableMode (setting : Mode)
  | classify (setting : Classification)
  | read (setting : Setting)
  | snapshot
  | apply (profile : Profile)
  deriving DecidableEq, Repr

/-- What a call answers. -/
inductive Answer where
  | done
  | flag (on : Bool)
  | word (value : UInt32)
  | mode (value : Int32)
  | card (kind : CardKind)
  | value (v : SettingValue)
  | values (entries : List (String × Except PortError SettingValue))
  | report (report : ApplyReport)

namespace Port

variable {σ : Type} (p : Port σ)

/-- Uses a named accessor. -/
def access : Accessor → Task σ Answer
  | .rs485 => .flag <$> p.rs485
  | .setRs485 on => (fun _ => .done) <$> p.setRs485 on
  | .echoCancel => .flag <$> p.echoCancel
  | .setEchoCancel on => (fun _ => .done) <$> p.setEchoCancel on
  | .termination => .flag <$> p.termination
  | .setTermination on => (fun _ => .done) <$> p.setTermination on
  | .nineBit => .flag <$> p.nineBit
  | .setNineBit on => (fun _ => .done) <$> p.setNineBit on
  | .sampleRate => .word <$> p.sampleRate
  | .setSampleRate rate => (fun _ => .done) <$> p.setSampleRate rate
  | .txTrigger => .word <$> p.txTrigger
  | .setTxTrigger level => (fun _ => .done) <$> p.setTxTrigger level
  | .rxTrigger => .word <$> p.rxTrigger
  | .setRxTrigger level => (fun _ => .done) <$> p.setRxTrigger level
  | .frameLength => .word <$> p.frameLength
  | .setFrameLength characters => (fun _ => .done) <$> p.setFrameLength characters
  | .setClockRate rate => (fun _ => .done) <$> p.setClockRate rate
  | .isochronous => .mode <$> p.isochronous
  | .enableIsochronous clocks => (fun _ => .done) <$> p.enableIsochronous clocks
  | .disableIsochronous => (fun _ => .done) <$> p.disableIsochronous
  | .externalTransmit => .mode <$> p.externalTransmit
  | .enableExternalTransmit frames => (fun _ => .done) <$> p.enableExternalTransmit frames
  | .disableExternalTransmit => (fun _ => .done) <$> p.disableExternalTransmit
  | .fixedBaudRate => .mode <$> p.fixedBaudRate
  | .enableFixedBaudRate rate => (fun _ => .done) <$> p.enableFixedBaudRate rate
  | .disableFixedBaudRate => (fun _ => .done) <$> p.disableFixedBaudRate
  | .cardType => .card <$> p.cardType

/-- Makes a call. -/
def call : Call → Task σ Answer
  | .named accessor => p.access accessor
  | .flag s => .flag <$> p.flag s
  | .setFlag s on => (fun _ => .done) <$> p.setFlag s on
  | .register s => .word <$> p.register s
  | .setRegister s value => (fun _ => .done) <$> p.setRegister s value
  | .writeOnly s value => (fun _ => .done) <$> p.writeOnly s value
  | .mode s => .mode <$> p.mode s
  | .enableMode s value => (fun _ => .done) <$> p.enableMode s value
  | .disableMode s => (fun _ => .done) <$> p.disableMode s
  | .classify s => .card <$> p.classify s
  | .read s => .value <$> p.read s
  | .snapshot => ExceptT.lift (.values <$> p.snapshot)
  | .apply profile => .report <$> p.apply profile

/-- Makes calls one after the other, whatever becomes of them. -/
def calls : List Call → Work σ (List (Except PortError Answer))
  | [] => pure []
  | c :: rest => do
    let answer ← (p.call c).run
    let answers ← calls rest
    return answer :: answers

end Port

end SerialCard
