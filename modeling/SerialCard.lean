import SerialCard.Main
import SerialCard.Port.Call
import SerialCard.Proofs.Card.Overwrite
import SerialCard.Proofs.Card.ReadBack
import SerialCard.Proofs.Card.Refinement
import SerialCard.Proofs.Config.Level
import SerialCard.Proofs.Config.Positional
import SerialCard.Proofs.ControlCode.Packing
import SerialCard.Proofs.Port.Holding
import SerialCard.Proofs.Port.Snapshot
import SerialCard.Proofs.Profile.Account
import SerialCard.Proofs.Profile.Document
import SerialCard.Proofs.Profile.Skipping
import SerialCard.Proofs.Program.Logging
import SerialCard.Proofs.Program.Report
import SerialCard.Proofs.Program.Trace
import SerialCard.Proofs.Program.Validity
import SerialCard.Proofs.Win32.PortNumber
import SerialCard.Proofs.Win32.Replay
import SerialCard.Proofs.Win32.Session
import SerialCard.Proofs.Wire.Canonical
import SerialCard.Win32.Machine
import SerialCard.Win32.Session
