import SerialCard.Port

/-!
# Profiles

A profile names the values that some of the settings shall have. `Port.apply` writes them in a
fixed order: the clock first, since rates derive from it, then flags, queue triggers, modes and the
frame length. It stops at the first write that fails, unless the card lacks the feature and the
profile says to leave such settings out.
-/

namespace SerialCard

/-- What a mode shall be. The number means nothing when the mode is off. -/
structure ModeConfig where
  enabled : Bool
  value : Int32
  deriving DecidableEq, Repr

/-- The values that settings shall have; what is not given is left alone. -/
structure Profile where
  /-- Leave out the settings the card lacks. -/
  skipUnsupported : Bool := false
  clockRate : Option UInt32 := none
  sampleRate : Option UInt32 := none
  rs485 : Option Bool := none
  echoCancel : Option Bool := none
  termination : Option Bool := none
  nineBit : Option Bool := none
  txTrigger : Option UInt32 := none
  rxTrigger : Option UInt32 := none
  fixedBaudRate : Option ModeConfig := none
  isochronous : Option ModeConfig := none
  externalTransmit : Option ModeConfig := none
  frameLength : Option UInt32 := none
  deriving DecidableEq, Repr

/-- One write to a setting. -/
inductive Write where
  | flag (setting : Flag) (on : Bool)
  | register (setting : Register) (value : UInt32)
  | writeOnly (setting : WriteOnly) (value : UInt32)
  | enable (setting : Mode) (value : Int32)
  | disable (setting : Mode)
  deriving DecidableEq, Repr

namespace Write

/-- The name of the setting that is written. -/
def name : Write → String
  | flag s _ => s.name
  | register s _ => s.name
  | writeOnly s _ => s.name
  | enable s _ => s.name
  | disable s => s.name

/-- The write that puts a mode as a profile wants it. -/
def ofMode (setting : Mode) (wanted : ModeConfig) : Write :=
  if wanted.enabled then enable setting wanted.value else disable setting

end Write

/-- The writes of a profile, in the order in which they are made. -/
def Profile.writes (profile : Profile) : List Write :=
  (profile.clockRate.map (Write.writeOnly .clockRate)).toList
    ++ (profile.sampleRate.map (Write.register .sampleRate)).toList
    ++ (profile.rs485.map (Write.flag .rs485)).toList
    ++ (profile.echoCancel.map (Write.flag .echoCancel)).toList
    ++ (profile.termination.map (Write.flag .termination)).toList
    ++ (profile.nineBit.map (Write.flag .nineBit)).toList
    ++ (profile.txTrigger.map (Write.register .txTrigger)).toList
    ++ (profile.rxTrigger.map (Write.register .rxTrigger)).toList
    ++ (profile.fixedBaudRate.map (Write.ofMode .fixedBaudRate)).toList
    ++ (profile.isochronous.map (Write.ofMode .isochronous)).toList
    ++ (profile.externalTransmit.map (Write.ofMode .externalTransmit)).toList
    ++ (profile.frameLength.map (Write.register .frameLength)).toList

/-- The settings that were written and those that were left out, by name. -/
structure ApplyReport where
  applied : List String := []
  skipped : List String := []
  deriving DecidableEq, Repr

namespace Port

variable {σ : Type} (p : Port σ)

/-- Makes a write. -/
def write : Write → Task σ Unit
  | .flag s on => p.setFlag s on
  | .register s value => p.setRegister s value
  | .writeOnly s value => p.writeOnly s value
  | .enable s value => p.enableMode s value
  | .disable s => p.disableMode s

/-- Makes a write and enters it into the report. If `skip` is set, a feature the card lacks is
entered as left out. -/
def attempt (skip : Bool) (report : ApplyReport) (w : Write) : Task σ ApplyReport :=
  ExceptT.mk do
    match ← (p.write w).run with
    | .ok () => return .ok { report with applied := report.applied ++ [w.name] }
    | .error e =>
      if skip && e.isUnsupported then
        Work.log (.skipped w.name e)
        return .ok { report with skipped := report.skipped ++ [w.name] }
      else
        return .error e

/-- Makes writes one after the other, up to the first that fails. -/
def attemptAll (skip : Bool) : ApplyReport → List Write → Task σ ApplyReport
  | report, [] => return report
  | report, w :: rest => do
    let next ← p.attempt skip report w
    attemptAll skip next rest

/-- Writes a profile. -/
def apply (profile : Profile) : Task σ ApplyReport := do
  let report ← p.attemptAll profile.skipUnsupported {} profile.writes
  Task.log (.applied report.applied.length report.skipped.length)
  return report

end Port

end SerialCard
