import SerialCard.Config.Model
import SerialCard.Config.Schema

/-!
# Reading configurations

The schemas of a configuration and its parts, down to the values of single fields. All tables refuse
keys they do not know, except the one for the log.
-/

namespace SerialCard

open Toml (Value)

/-! ### Single values -/

namespace Decode

/-- A truth value. -/
def boolean : Value → Except DecodeError Bool
  | .boolean b => .ok b
  | v => .error (.wrongType (.ofValue v) .boolean)

/-- A text. -/
def text : Value → Except DecodeError String
  | .text s => .ok s
  | v => .error (.wrongType (.ofValue v) .text)

/-- A number from zero to `2 ^ 32 - 1`. -/
def word : Value → Except DecodeError UInt32
  | .integer n =>
    if 0 ≤ n ∧ n < 0x100000000 then .ok (UInt32.ofNat n.toNat) else .error (.outOfRange n .word)
  | v => .error (.wrongType (.ofValue v) .word)

/-- A number from `-2 ^ 31` to `2 ^ 31 - 1`. -/
def signed : Value → Except DecodeError Int32
  | .integer n =>
    if -0x80000000 ≤ n ∧ n < 0x80000000 then .ok (Int32.ofInt n) else .error (.outOfRange n .signed)
  | v => .error (.wrongType (.ofValue v) .signed)

end Decode

/-! ### Modes -/

namespace ModeConfig

/-- A mode of which not all is known. -/
structure Draft where
  enabled : Option Bool := none
  value : Option Int32 := none

/-- The mode of a draft. The value counts only when the mode is enabled, but then it has to be
there. -/
def ofDraft (draft : Draft) : Except DecodeError ModeConfig :=
  match draft.enabled, draft.value with
  | none, _ => .error (.missingField "enabled")
  | some true, none => .error .valueRequired
  | some enabled, value => .ok ⟨enabled, value.getD 0⟩

/-- The fields of a mode. -/
def schema : Schema Draft ModeConfig where
  title := "RawModeConfig"
  fields :=
    [.of "enabled" Decode.boolean (fun b d => { d with enabled := some b }) false,
      .of "value" Decode.signed (fun n d => { d with value := some n }) true]
  closed := true
  blank := {}
  finish := ofDraft

end ModeConfig

/-! ### The parts of a configuration -/

/-- The fields of a profile. An array has to give all that follow the first. -/
def Profile.schema : Schema Profile Profile where
  title := "PortProfile"
  fields :=
    [.of "skip_unsupported" Decode.boolean (fun b p => { p with skipUnsupported := b }) true,
      .of "clock_rate" Decode.word (fun n p => { p with clockRate := some n }) false,
      .of "sample_rate" Decode.word (fun n p => { p with sampleRate := some n }) false,
      .of "rs485" Decode.boolean (fun b p => { p with rs485 := some b }) false,
      .of "echo_cancel" Decode.boolean (fun b p => { p with echoCancel := some b }) false,
      .of "termination" Decode.boolean (fun b p => { p with termination := some b }) false,
      .of "nine_bit" Decode.boolean (fun b p => { p with nineBit := some b }) false,
      .of "tx_trigger" Decode.word (fun n p => { p with txTrigger := some n }) false,
      .of "rx_trigger" Decode.word (fun n p => { p with rxTrigger := some n }) false,
      .of "fixed_baud_rate" ModeConfig.schema.ofValue
        (fun m p => { p with fixedBaudRate := some m }) false,
      .of "isochronous" ModeConfig.schema.ofValue
        (fun m p => { p with isochronous := some m }) false,
      .of "external_transmit" ModeConfig.schema.ofValue
        (fun m p => { p with externalTransmit := some m }) false,
      .of "frame_length" Decode.word (fun n p => { p with frameLength := some n }) false]
  closed := true
  blank := {}
  finish := .ok

/-- The fields of the part about the log, which alone lets unknown keys pass. -/
def LoggingConfig.schema : Schema LoggingConfig LoggingConfig where
  title := "LoggingConfig"
  fields :=
    [.of "enable" Decode.boolean (fun b l => { l with enable := b }) true,
      .of "file" Decode.text (fun s l => { l with file := some s }) true,
      .of "level" Decode.text (fun s l => { l with level := s }) true]
  closed := false
  blank := {}
  finish := .ok

/-- The fields of the part about the port. -/
def PortConfig.schema : Schema PortConfig PortConfig where
  title := "PortConfig"
  fields :=
    [.of "number" Decode.word (fun n p => { p with number := some n }) true,
      .of "path" Decode.text (fun s p => { p with path := some s }) true]
  closed := true
  blank := {}
  finish := .ok

namespace Config

/-- A configuration of which not all is known. -/
structure Draft where
  logging : LoggingConfig := {}
  port : Option PortConfig := none
  profile : Profile := {}

/-- The configuration of a draft. -/
def ofDraft (draft : Draft) : Except DecodeError Config :=
  match draft.port with
  | none => .error (.missingField "port")
  | some port => .ok ⟨draft.logging, port, draft.profile⟩

/-- The parts of a configuration. Only the port has to be there. -/
def schema : Schema Draft Config where
  title := "Config"
  fields :=
    [.of "logging" LoggingConfig.schema.ofValue (fun l d => { d with logging := l }) true,
      .of "port" PortConfig.schema.ofValue (fun p d => { d with port := some p }) false,
      .of "profile" Profile.schema.ofValue (fun p d => { d with profile := p }) true]
  closed := true
  blank := {}
  finish := ofDraft

end Config

end SerialCard
