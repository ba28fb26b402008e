import Mathlib.Data.List.TakeWhile
import SerialCard.Config.Load
import SerialCard.Proofs.Text.Utf16
import SerialCard.Proofs.Win32.Calls
import SerialCard.Win32.Machine

/-!
# The name of the device that is opened

The system reads the name of a device up to the first zero unit. `deviceName` is what is left of a
path by then: the characters before its first NUL (`name?_openCall`). The path of a configuration
may be any text, NULs included, and nothing looks for them, so a path with a NUL opens the device
that its front part names. The log and the errors of opening and closing do not tell: they speak of
the path as it was configured (`paths_acquire`, `paths_close`).

A path made from a number has no NUL in it, so a port given by its number is the one that is opened.
-/

namespace SerialCard

/-! ### The paths a run speaks of -/

/-- The path in a record about opening or closing a port. -/
def Record.path? : Record → Option String
  | .opened path | .closed path | .closeFailed path _ => some path
  | _ => none

/-- The path in an error. -/
def TransportError.path : TransportError → String
  | .notFound path | .permissionDenied path | .io path _ => path

/-- The paths of ports that a run speaks of: in what it logs, and in the error it ends with. -/
def Run.paths {σ α : Type} (r : Run σ (Except TransportError α)) : List String :=
  r.records.filterMap Record.path? ++
    match r.result with
    | .error e => [e.path]
    | .ok _ => []

namespace Win32

variable {σ : Type}

section Paths

variable (sys : System σ)

theorem path_openError (path : String) (number : UInt32) :
    (openError sys path number).path = path := by
  rw [openError]
  split
  · rfl
  · split <;> rfl

namespace ComPort

/-- Opening speaks of the path once, in the log or in an error. -/
theorem paths_acquire (path : String) (s : σ) : (acquire sys path s).paths = [path] := by
  rw [acquire_apply]
  dsimp only
  split
  · exact congrArg (fun p => [p]) (path_openError sys path _)
  · rfl

theorem path_of_acquire {path : String} {s : σ} {port : ComPort}
    (h : (acquire sys path s).result = .ok port) : port.path = path := by
  rw [acquire_apply] at h
  dsimp only at h
  split at h
  · cases h
  · exact (congrArg ComPort.path (Except.ok.inj h)).symm

variable (port : ComPort) (s : σ)

/-- Closing speaks of the path once, in the log or in an error. -/
theorem paths_close : (port.close sys s).paths = [port.path] := by
  rw [close_apply]
  dsimp only
  split <;> rfl

/-- Giving a port up speaks of no other path. -/
theorem path?_of_mem_records_drop {r : Record} (h : r ∈ (port.drop sys s).records) :
    r.path? = some port.path := by
  rw [drop_apply] at h
  dsimp only at h
  split at h
  · cases h
  · split at h
    · cases h
    · obtain rfl := List.mem_singleton.mp h
      rfl

end ComPort

end Paths

/-! ### The name the system reads -/

/-- The characters of a path before its first NUL. -/
def deviceName (path : String) : String :=
  String.ofList (path.toList.takeWhile (· ≠ '\x00'))

/-- The system takes a path for its characters before the first NUL. -/
theorem name?_openCall (path : String) :
    Text.Utf16.name? (ComPort.openCall path).name = some (deviceName path) :=
  Text.Utf16.name?_encode path.toList

/-- A text is cut where it first has some character, or has none of them and is left as it is. -/
private theorem takeWhile_ne_eq_iff {a : Char} {cs front : List Char} :
    cs.takeWhile (· ≠ a) = front ↔
      a ∉ front ∧ (cs = front ∨ ∃ rest, cs = front ++ a :: rest) := by
  constructor
  · rintro rfl
    refine ⟨fun h => by simpa using List.mem_takeWhile_imp h, ?_⟩
    have hsplit : _ = cs := List.takeWhile_append_dropWhile (p := (· ≠ a))
    cases hdropped : cs.dropWhile (· ≠ a) with
    | nil =>
      rw [hdropped, List.append_nil] at hsplit
      exact .inl hsplit.symm
    | cons b rest =>
      have hb := List.head?_dropWhile_not (· ≠ a) cs
      rw [hdropped] at hb hsplit
      obtain rfl : b = a := by simpa using hb
      exact .inr ⟨rest, hsplit.symm⟩
  · rintro ⟨hfront, hcs⟩
    have hkeep : ∀ c ∈ front, decide (c ≠ a) = true := fun c hc =>
      decide_eq_true fun h => hfront (h ▸ hc)
    rcases hcs with rfl | ⟨rest, rfl⟩
    · exact List.takeWhile_eq_self_iff.mpr hkeep
    · rw [List.takeWhile_append_of_pos hkeep, List.takeWhile_cons_of_neg (by simp),
        List.append_nil]

/-- What is cut off a path, if anything is, starts with a NUL. -/
theorem deviceName_eq_iff {path name : String} :
    deviceName path = name ↔
      '\x00' ∉ name.toList ∧ (path = name ∨ ∃ rest, path = name ++ "\x00" ++ rest) := by
  have hrest : (∃ rest, path = name ++ "\x00" ++ rest) ↔
      ∃ rest, path.toList = name.toList ++ '\x00' :: rest := by
    constructor
    · rintro ⟨rest, rfl⟩
      exact ⟨rest.toList, by simp⟩
    · rintro ⟨rest, h⟩
      exact ⟨String.ofList rest, String.toList_inj.mp (by simpa using h)⟩
  rw [deviceName, ← String.toList_inj, String.toList_ofList, takeWhile_ne_eq_iff, hrest,
    String.toList_inj]

theorem deviceName_eq_self_iff {path : String} :
    deviceName path = path ↔ '\x00' ∉ path.toList := by
  rw [deviceName_eq_iff, eq_self_iff_true, true_or, and_true]

/-- A path made from a number is a prefix without NUL and decimal digits. -/
theorem deviceName_devicePath (number : UInt32) :
    deviceName (devicePath number) = devicePath number := by
  rw [deviceName_eq_self_iff, devicePath, String.toList_append, List.mem_append]
  rintro (h | h)
  · exact absurd h (by decide)
  · rw [Nat.toString_eq_repr, Nat.toList_repr] at h
    exact absurd (Nat.isDigit_of_mem_toDigits (by decide) (by decide) h) (by decide)

/-- A port that is not given by a path is given by its number. -/
theorem exists_number_of_target {config : PortConfig} {path : String}
    (h : config.target = .ok path) (hpath : config.path = none) :
    ∃ number, path = devicePath number := by
  rw [PortConfig.target, hpath] at h
  cases hnumber : config.number with
  | none =>
    rw [hnumber] at h
    cases h
  | some number =>
    rw [hnumber] at h
    exact ⟨number, (Except.ok.inj h).symm⟩

/-- **A port is asked for by its path up to the first NUL, and spoken of by all of it.** Opening the
path of a configuration is one call, and the name the system reads in its buffer is the path up to
its first NUL. That is the whole path exactly if there is no NUL in it, as there never is when the
port is given by its number, and two paths without NULs are never read as one name. Opening the
path, closing the port and giving it up all speak of the path as it was configured, whether they
succeed or fail. -/
theorem asked_for_up_to_nul {config : PortConfig} {path : String} (h : config.target = .ok path)
    (sys : System σ) (s : σ) (made : List SystemCall) :
    let asked (path : String) := Text.Utf16.name? (ComPort.openCall path).name
    let opened := ComPort.acquire sys.recorded path (s, made)
    (∃ handle, opened.state.2 = made ++ [.createFile (ComPort.openCall path) handle]) ∧
    (∃ name, asked path = some name ∧
      '\x00' ∉ name.toList ∧ (path = name ∨ ∃ rest, path = name ++ "\x00" ++ rest)) ∧
    (asked path = some path ↔ '\x00' ∉ path.toList) ∧
    (config.path = none → asked path = some path) ∧
    (∀ other, asked other = asked path →
      other = path ∨ '\x00' ∈ other.toList ∨ '\x00' ∈ path.toList) ∧
    opened.paths = [path] ∧
    ∀ port later, opened.result = .ok port →
      (port.close sys.recorded later).paths = [path] ∧
        ∀ r ∈ (port.drop sys.recorded later).records, r.path? = some path := by
  intro asked opened
  have hasked (path : String) : asked path = some (deviceName path) := name?_openCall path
  have hself (path : String) : asked path = some path ↔ '\x00' ∉ path.toList := by
    rw [hasked, Option.some_inj, deviceName_eq_self_iff]
  refine ⟨⟨_, congrArg Prod.snd (ComPort.state_acquire_recorded sys s made path)⟩,
    ⟨_, hasked path, deviceName_eq_iff.mp rfl⟩, hself path, fun hnone => ?_, fun other hsame => ?_,
    ComPort.paths_acquire _ _ _, fun port later hport => ?_⟩
  · obtain ⟨number, rfl⟩ := exists_number_of_target h hnone
    rw [hasked, deviceName_devicePath]
  · by_contra hneither
    obtain ⟨hdiffer, hother, hpath⟩ := not_or.mp hneither |>.imp_right not_or.mp
    rw [(hself other).mpr hother, (hself path).mpr hpath] at hsame
    exact hdiffer (Option.some_inj.mp hsame)
  · rw [← ComPort.path_of_acquire _ hport]
    exact ⟨ComPort.paths_close _ _ _, fun r => ComPort.path?_of_mem_records_drop _ _ _⟩

/-- The port with the number 7 on a machine that has no such port. -/
theorem asked_for_up_to_nul_missing :
    let config : PortConfig := ⟨some 7, none⟩
    let path := "\\\\.\\COM7"
    let m : Machine := { openFailure := some 2 }
    config.target = .ok path ∧
      Text.Utf16.name? (ComPort.openCall path).name = some path ∧
      (ComPort.acquire (Machine.system fun _ => "").recorded path (m, [])).paths = [path] := by
  intro config path m
  have htarget : config.target = .ok path := by decide +kernel
  obtain ⟨-, -, -, hnumbered, -, hpaths, -⟩ :=
    asked_for_up_to_nul htarget (Machine.system fun _ => "") m []
  exact ⟨htarget, hnumbered rfl, hpaths⟩

/-- A configured path with a NUL: the first port is opened, as if there were nothing after it, and
the log has the whole path. -/
theorem path_cut_at_nul :
    let path := "\\\\.\\COM1\x00x"
    let opened := ComPort.acquire (Machine.system fun _ => "").recorded path ({}, [])
    Config.parse "[port]\npath = \"\\\\\\\\.\\\\COM1\\u0000x\"\n" =
        .ok ⟨{}, ⟨none, some path⟩, {}⟩ ∧
      opened.state.2 = [.createFile (ComPort.openCall path) ⟨4⟩] ∧
      Text.Utf16.name? (ComPort.openCall path).name = some (devicePath 1) ∧
      Text.Utf16.name? (ComPort.openCall (devicePath 1)).name = some (devicePath 1) ∧
      opened.records = [.opened path] ∧ path ≠ devicePath 1 := by
  intro path opened
  exact ⟨by decide +kernel, rfl, by decide +kernel, by decide +kernel, rfl, by decide +kernel⟩

end Win32

end SerialCard
