import Mathlib.Data.List.Nodup
import SerialCard.Proofs.Card.Store

/-!
# The slots of a profile

A profile has twelve slots, one for each setting it may write. A slot says which write a profile
wishes for its setting, if any, and `Profile.slots` lists them in the order in which the writes are
made. What holds of every slot holds of the writes of a profile: they are about different settings
of the table, and where one profile is laid over another, each setting is written as the upper
profile wishes, or else as the lower one does (`wish_laidOver`).
-/

namespace SerialCard

/-- The place a profile has for the write of a setting. -/
structure Profile.Slot where
  setting : Setting
  /-- The write a profile wishes. -/
  wish : Profile → Option Write
  setting_of_wish {profile : Profile} {w : Write} : wish profile = some w → w.setting = setting

namespace Profile

namespace Slot

/-- The slot of a field whose values are made into writes of a setting. -/
def ofField {α : Type} (t : Setting) (make : α → Write) (h : ∀ a, (make a).setting = t)
    (field : Profile → Option α) : Slot where
  setting := t
  wish profile := (field profile).map make
  setting_of_wish hw := by
    obtain ⟨a, -, rfl⟩ := Option.map_eq_some_iff.mp hw
    exact h a

/-- The slot of a flag. -/
def flag (s : Flag) : (Profile → Option Bool) → Slot :=
  ofField (.flag s) (.flag s) fun _ => rfl

/-- The slot of a register. -/
def register (s : Register) : (Profile → Option UInt32) → Slot :=
  ofField (.register s) (.register s) fun _ => rfl

/-- The slot of a number that cannot be read. -/
def writeOnly (s : WriteOnly) : (Profile → Option UInt32) → Slot :=
  ofField (.writeOnly s) (.writeOnly s) fun _ => rfl

/-- The slot of a mode. -/
def mode (s : Mode) : (Profile → Option ModeConfig) → Slot :=
  ofField (.mode s) (.ofMode s) fun wanted => by rcases wanted with ⟨_ | _, value⟩ <;> rfl

end Slot

/-- The slots of a profile, in the order in which their writes are made. -/
def slots : List Slot :=
  [.writeOnly .clockRate clockRate, .register .sampleRate sampleRate, .flag .rs485 rs485,
    .flag .echoCancel echoCancel, .flag .termination termination, .flag .nineBit nineBit,
    .register .txTrigger txTrigger, .register .rxTrigger rxTrigger,
    .mode .fixedBaudRate fixedBaudRate, .mode .isochronous isochronous,
    .mode .externalTransmit externalTransmit, .register .frameLength frameLength]

variable (profile : Profile)

/-- The writes of a profile are the wishes of its slots. -/
theorem writes_eq_flatMap :
    profile.writes = slots.flatMap fun slot => (slot.wish profile).toList := by
  simp only [writes, List.append_assoc, slots, List.flatMap_cons, List.flatMap_nil,
    List.append_nil]
  rfl

variable {profile}

theorem mem_writes_iff {w : Write} :
    w ∈ profile.writes ↔ ∃ slot ∈ slots, slot.wish profile = some w := by
  simp only [writes_eq_flatMap, List.mem_flatMap, Option.mem_toList]

/-! ### One write for each setting -/

/-- Wishes are about the settings of their slots. -/
theorem setting_wishes_sublist (ts : List Slot) :
    ((ts.flatMap fun slot => (slot.wish profile).toList).map Write.setting).Sublist
      (ts.map Slot.setting) := by
  induction ts with
  | nil => exact List.Sublist.slnil
  | cons slot rest ih =>
    rw [List.flatMap_cons, List.map_append, List.map_cons]
    cases hwish : slot.wish profile with
    | none => exact ih.cons _
    | some w =>
      rw [← slot.setting_of_wish hwish]
      exact ih.cons_cons _

variable (profile)

/-- A profile writes no setting twice. -/
theorem nodup_setting_writes : (profile.writes.map Write.setting).Nodup := by
  have hslots : (slots.map Slot.setting).Nodup := by decide
  rw [writes_eq_flatMap]
  exact (setting_wishes_sublist slots).nodup hslots

/-- A profile writes settings of the table only. -/
theorem setting_mem_all {w : Write} (h : w ∈ profile.writes) : w.setting ∈ Setting.all := by
  have hslots : ∀ slot ∈ slots, slot.setting ∈ Setting.all := by decide
  obtain ⟨slot, hslot, hwish⟩ := mem_writes_iff.mp h
  exact slot.setting_of_wish hwish ▸ hslots slot hslot

/-! ### One profile over another -/

/-- One profile over another: each value is the upper one's, or the lower one's where the upper has
none. -/
def laidOver (upper lower : Profile) : Profile where
  skipUnsupported := upper.skipUnsupported
  clockRate := upper.clockRate.or lower.clockRate
  sampleRate := upper.sampleRate.or lower.sampleRate
  rs485 := upper.rs485.or lower.rs485
  echoCancel := upper.echoCancel.or lower.echoCancel
  termination := upper.termination.or lower.termination
  nineBit := upper.nineBit.or lower.nineBit
  txTrigger := upper.txTrigger.or lower.txTrigger
  rxTrigger := upper.rxTrigger.or lower.rxTrigger
  fixedBaudRate := upper.fixedBaudRate.or lower.fixedBaudRate
  isochronous := upper.isochronous.or lower.isochronous
  externalTransmit := upper.externalTransmit.or lower.externalTransmit
  frameLength := upper.frameLength.or lower.frameLength

variable (upper lower : Profile)

/-- Each slot wishes what the upper profile does, or else what the lower one does. -/
theorem wish_laidOver {slot : Slot} (h : slot ∈ slots) :
    slot.wish (upper.laidOver lower) = (slot.wish upper).or (slot.wish lower) := by
  revert slot
  simp only [slots, List.forall_mem_cons, List.not_mem_nil, false_implies, implies_true, and_true]
  exact ⟨Option.map_or, Option.map_or, Option.map_or, Option.map_or, Option.map_or, Option.map_or,
    Option.map_or, Option.map_or, Option.map_or, Option.map_or, Option.map_or, Option.map_or⟩

variable {upper lower} {w : Write}

theorem mem_writes_laidOver_of_upper (h : w ∈ upper.writes) :
    w ∈ (upper.laidOver lower).writes := by
  obtain ⟨slot, hslot, hwish⟩ := mem_writes_iff.mp h
  refine mem_writes_iff.mpr ⟨slot, hslot, ?_⟩
  rw [wish_laidOver upper lower hslot, hwish, Option.some_or]

theorem mem_writes_laidOver_of_lower (h : w ∈ lower.writes)
    (hupper : ∀ u ∈ upper.writes, u.setting ≠ w.setting) : w ∈ (upper.laidOver lower).writes := by
  obtain ⟨slot, hslot, hwish⟩ := mem_writes_iff.mp h
  have hnone : slot.wish upper = none := Option.eq_none_iff_forall_not_mem.mpr fun u hu =>
    hupper u (mem_writes_iff.mpr ⟨slot, hslot, hu⟩)
      ((slot.setting_of_wish hu).trans (slot.setting_of_wish hwish).symm)
  refine mem_writes_iff.mpr ⟨slot, hslot, ?_⟩
  rw [wish_laidOver upper lower hslot, hnone, Option.none_or, hwish]

theorem mem_writes_of_laidOver (h : w ∈ (upper.laidOver lower).writes) :
    w ∈ upper.writes ∨ w ∈ lower.writes := by
  obtain ⟨slot, hslot, hwish⟩ := mem_writes_iff.mp h
  rw [wish_laidOver upper lower hslot, Option.or_eq_some_iff] at hwish
  rcases hwish with hupper | ⟨-, hlower⟩
  · exact .inl (mem_writes_iff.mpr ⟨slot, hslot, hupper⟩)
  · exact .inr (mem_writes_iff.mpr ⟨slot, hslot, hlower⟩)

end Profile

end SerialCard
