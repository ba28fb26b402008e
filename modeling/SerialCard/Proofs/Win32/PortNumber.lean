import SerialCard.Program
import SerialCard.Proofs.Decimal.Numeral
import SerialCard.Proofs.Win32.Naming
import SerialCard.Win32.Session

/-!
# Ports by number

The device path of a numbered port ends in the numeral of the number (`eq_devicePath_iff`), so
different numbers are different paths, and the system is asked for different devices
(`ComPort.openCall_devicePath_injective`).

There are three ways to open the port of a number: by the number, by its device path, and by what a
configuration with the number comes to (`Step.OpensNumber`). Which one a session takes makes no
difference to a step (`Step.OpensNumber.run_eq`), nor therefore to the session
(`Step.runAll_congr`).
-/

namespace SerialCard

/-! ### The path of a number -/

theorem toList_devicePath (n : UInt32) :
    (devicePath n).toList = comPrefix.toList ++ Nat.toDigits 10 n.toNat := by
  rw [devicePath, String.toList_append, Nat.toString_eq_ofList_toDigits, String.toList_ofList]

/-- A path is that of a number exactly if the numeral of the number is what follows the prefix. -/
theorem eq_devicePath_iff {path : String} {n : UInt32} :
    path = devicePath n ↔
      ∃ ds, path = comPrefix ++ String.ofList ds ∧ IsNumeral n.toNat ds := by
  simp only [isNumeral_iff, exists_eq_right, devicePath, Nat.toString_eq_ofList_toDigits]

theorem devicePath_injective : Function.Injective devicePath := by
  intro n n' h
  have hdigits : Nat.toDigits 10 n.toNat = Nat.toDigits 10 n'.toNat := by
    have hlists := congrArg String.toList h
    rw [toList_devicePath, toList_devicePath] at hlists
    exact List.append_cancel_left hlists
  apply UInt32.toNat_inj.mp
  calc
    n.toNat = Nat.ofDigitChars 10 (Nat.toDigits 10 n.toNat) 0 := Nat.ofDigitChars_ten_toDigits.symm
    _ = Nat.ofDigitChars 10 (Nat.toDigits 10 n'.toNat) 0 := by rw [hdigits]
    _ = n'.toNat := Nat.ofDigitChars_ten_toDigits

theorem PortConfig.target_number (n : UInt32) :
    PortConfig.target ⟨some n, none⟩ = .ok (devicePath n) := rfl

namespace Win32

variable {σ : Type}

/-- The system reads the path of a number whole, so different numbers are different calls. -/
theorem ComPort.openCall_devicePath_injective :
    Function.Injective fun n => openCall (devicePath n) := by
  intro n n' h
  have hcall : openCall (devicePath n) = openCall (devicePath n') := h
  have hname : some (deviceName (devicePath n)) = some (deviceName (devicePath n')) := by
    rw [← name?_openCall, hcall, name?_openCall]
  rw [deviceName_devicePath, deviceName_devicePath] at hname
  exact devicePath_injective (Option.some.inj hname)

/-! ### Ways to open a numbered port -/

namespace Step

/-- The steps by which the port of a number is opened: by the number itself, by its device path, and
by the path that a configuration of the number comes to. -/
inductive OpensNumber (n : UInt32) : Step → Prop where
  | connect : OpensNumber n (.connect n)
  | acquire : OpensNumber n (.acquire (devicePath n))
  | configured {path : String} (h : PortConfig.target ⟨some n, none⟩ = .ok path) :
      OpensNumber n (.acquire path)

/-- Steps are alike if they are the same, or open the port of one number. -/
def Alike (step step' : Step) : Prop :=
  step = step' ∨ ∃ n, OpensNumber n step ∧ OpensNumber n step'

section Congruence

variable (sys : System σ) (before : Option ComPort)

/-- However the port of a number is opened, it is opened by its number. -/
theorem OpensNumber.run_eq {n : UInt32} {step : Step} (h : OpensNumber n step) :
    step.run sys before = (Step.connect n).run sys before := by
  cases h with
  | connect => rfl
  | acquire => rfl
  | configured htarget =>
    rw [PortConfig.target_number] at htarget
    rw [← Except.ok.inj htarget]
    rfl

theorem Alike.run_eq {step step' : Step} (h : Alike step step') :
    step.run sys before = step'.run sys before := by
  rcases h with rfl | ⟨n, hstep, hstep'⟩
  · rfl
  · rw [hstep.run_eq, hstep'.run_eq]

/-- Sessions of alike steps are the same work. -/
theorem runAll_congr {steps steps' : List Step} (h : List.Forall₂ Alike steps steps') :
    runAll sys before steps = runAll sys before steps' := by
  induction h generalizing before with
  | nil => rfl
  | cons hstep _ ih =>
    rw [runAll, runAll, hstep.run_eq sys before]
    exact congrArg _ (funext fun result => by rw [ih])

end Congruence

end Step

/-! ### What comes of opening -/

/-- How the opening of a path ends when the system answers with a handle: with an error from the
number of the last error and nothing in the log if it is the handle for none, and else with a port
and one record. -/
def IsOpening (sys : System σ) (path : String) (handle : Handle)
    (run : Run σ (Except TransportError ComPort)) : Prop :=
  (handle = Handle.invalid ∧
      run.result = .error (openError sys path (sys.lastError run.state)) ∧ run.records = []) ∨
    (handle ≠ Handle.invalid ∧ run.result = .ok ⟨handle, path⟩ ∧ run.records = [.opened path])

theorem ComPort.isOpening_acquire (sys : System σ) (path : String) (s : σ) :
    IsOpening sys path (sys.createFile (openCall path) s).1 (acquire sys path s) := by
  rw [acquire_apply]
  dsimp only
  by_cases h : (sys.createFile (openCall path) s).1 = Handle.invalid
  · rw [if_pos h]
    exact .inl ⟨h, rfl, rfl⟩
  · rw [if_neg h]
    exact .inr ⟨h, rfl, rfl⟩

/-- **Numbers name ports faithfully.** The device path of a number is the prefix and the numeral of
the number, so different numbers have different paths and ask the system for different devices. To
connect to a number, to open its device path and to open what a configuration with the number comes
to are one and the same: one call for that device path, and from the handle it answers with the same
port or error and the same log. So it makes no difference to a session which of them its steps take,
nor to a run of the program whether its configuration gives the number or the device path. -/
theorem port_number_faithful :
    (∀ path n, path = devicePath n ↔
      ∃ ds, path = comPrefix ++ String.ofList ds ∧ IsNumeral n.toNat ds) ∧
    Function.Injective devicePath ∧
    (Function.Injective fun n => ComPort.openCall (devicePath n)) ∧
    (∀ {σ : Type} (sys : System σ) (n : UInt32) (s : σ) (made : List SystemCall),
      let opened := ComPort.connect sys.recorded n (s, made)
      ComPort.acquire sys.recorded (devicePath n) (s, made) = opened ∧
      (∃ path, PortConfig.target ⟨some n, none⟩ = .ok path ∧
        ComPort.acquire sys.recorded path (s, made) = opened) ∧
      ∃ handle, opened.state.2 = made ++ [.createFile (ComPort.openCall (devicePath n)) handle] ∧
        IsOpening sys.recorded (devicePath n) handle opened) ∧
    (∀ {σ : Type} (sys : System σ) (before : Option ComPort) (steps steps' : List Step),
      List.Forall₂ Step.Alike steps steps' →
        Step.runAll sys before steps = Step.runAll sys before steps') ∧
    ∀ {σ : Type} (sys : System σ) (configPath : String) (config : Config) (n : UInt32)
      (number : Option UInt32),
      Program.logged (.windows sys) configPath { config with port := ⟨some n, none⟩ } =
        Program.logged (.windows sys) configPath
          { config with port := ⟨number, some (devicePath n)⟩ } := by
  refine ⟨fun path n => eq_devicePath_iff, devicePath_injective,
    ComPort.openCall_devicePath_injective, fun sys n s made => ?_,
    fun sys before steps steps' h => Step.runAll_congr sys before h,
    fun sys configPath config n number => rfl⟩
  have hcall := congrArg Prod.snd (ComPort.state_acquire_recorded sys s made (devicePath n))
  have hopening := ComPort.isOpening_acquire sys.recorded (devicePath n) (s, made)
  rw [sys.createFile_recorded] at hopening
  exact ⟨rfl, ⟨_, PortConfig.target_number n, rfl⟩, _, hcall, hopening⟩

end Win32

end SerialCard
