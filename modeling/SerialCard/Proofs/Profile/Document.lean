import SerialCard.Proofs.Config.Accepts
import SerialCard.Proofs.Profile.Plan

/-!
# From the document to the wire

What a key of a profile asks for is said by the key and its value alone: `Profile.Asks` are the
requests a key may stand for, with the operation of the key and, for numbers, four bytes that are
read back as the number in the document. A profile that a document describes and that is applied to
a channel that accepts everything makes one such request for each of its keys, and no other
(`document_reaches_wire`). A number that does not fit into its four bytes is refused with the whole
document.
-/

namespace SerialCard

open Toml (Value Entries)

variable {σ : Type}

/-! ### Numbers in four bytes -/

namespace Bytes

/-- The number bytes are read back as, the lowest first. -/
def unsigned (bytes : Bytes) : Int :=
  (Nat.ofDigits 256 (bytes.map UInt8.toNat) : Nat)

/-- The number four bytes are read back as in two's complement, the lowest first. -/
def signed (bytes : Bytes) : Int :=
  bytes.unsigned.bmod (2 ^ 32)

theorem unsigned_littleEndian {n : Nat} (h : n < 2 ^ 32) : unsigned (littleEndian n) = n := by
  have hdigits : littleEndian n = [UInt8.ofNat (n / 256 ^ 0), UInt8.ofNat (n / 256 ^ 1),
      UInt8.ofNat (n / 256 ^ 2), UInt8.ofNat (n / 256 ^ 3)] := rfl
  simp only [unsigned, hdigits, List.map_cons, List.map_nil, Nat.ofDigits_cons, Nat.ofDigits_nil,
    UInt8.toNat_ofNat']
  omega

theorem signed_littleEndian (n : Int32) : signed (littleEndian n.toUInt32.toNat) = n.toInt := by
  rw [signed, unsigned_littleEndian n.toUInt32.toNat_lt]
  exact (BitVec.toInt_eq_toNat_bmod n.toBitVec).symm

end Bytes

/-! ### What keys ask for -/

namespace Profile

/-- The keys for numbers, with the operations that set them. -/
def wordKeys : List (String × Operation) :=
  [("clock_rate", .setClockRate), ("sample_rate", .setSampleRate), ("tx_trigger", .setTxTrigger),
    ("rx_trigger", .setRxTrigger), ("frame_length", .setFrameLength)]

/-- The keys for flags, with the operations that switch them on and off. -/
def flagKeys : List (String × Operation × Operation) :=
  [("rs485", .enableRs485, .disableRs485), ("echo_cancel", .enableEchoCancel, .disableEchoCancel),
    ("termination", .enableTermination, .disableTermination),
    ("nine_bit", .enableNineBit, .disableNineBit)]

/-- The keys for modes, with the operations that turn them on and off. -/
def modeKeys : List (String × Operation × Operation) :=
  [("fixed_baud_rate", .enableFixedBaudRate, .disableFixedBaudRate),
    ("isochronous", .enableIsochronous, .disableIsochronous),
    ("external_transmit", .enableExternalTransmit, .disableExternalTransmit)]

/-- A key with its value asks for a request. -/
inductive Asks (key : String) (v : Value) : Request → Prop
  /-- A number goes out as it stands in the document. -/
  | word {set : Operation} {n : Int} {bytes : Bytes} (hkey : (key, set) ∈ wordKeys)
      (hv : v = .integer n) (hlength : bytes.length = 4) (hbytes : bytes.unsigned = n) :
      Asks key v ⟨set.code, some bytes, 0⟩
  /-- A flag is switched on or off. -/
  | flag {enable disable : Operation} {on : Bool} (hkey : (key, enable, disable) ∈ flagKeys)
      (hv : v = .boolean on) : Asks key v ⟨if on then enable.code else disable.code, none, 0⟩
  /-- A mode is turned on with the number that stands in the document. -/
  | enable {enable disable : Operation} {given : Entries} {n : Int} {bytes : Bytes}
      (hkey : (key, enable, disable) ∈ modeKeys) (hv : Gives ModeConfig.declared v given)
      (henabled : given.lookup "enabled" = some (.boolean true))
      (hvalue : given.lookup "value" = some (.integer n)) (hlength : bytes.length = 4)
      (hbytes : bytes.signed = n) : Asks key v ⟨enable.code, some bytes, 0⟩
  /-- A mode is turned off, whatever its number would be. -/
  | disable {enable disable : Operation} {given : Entries}
      (hkey : (key, enable, disable) ∈ modeKeys) (hv : Gives ModeConfig.declared v given)
      (henabled : given.lookup "enabled" = some (.boolean false)) :
      Asks key v ⟨disable.code, none, 0⟩

variable {key : String} {v : Value}

theorem asks_word {set : Operation} (hkey : (key, set) ∈ wordKeys) {n : UInt32}
    (h : Reads.word v n) : Asks key v (PlanStep.word key set n).request :=
  .word hkey h rfl (Bytes.unsigned_littleEndian n.toNat_lt)

theorem asks_flag {enable disable : Operation} (hkey : (key, enable, disable) ∈ flagKeys)
    {on : Bool} (h : Reads.boolean v on) :
    Asks key v (PlanStep.flag key enable disable on).request :=
  .flag hkey h

theorem asks_mode {enable disable : Operation} (hkey : (key, enable, disable) ∈ modeKeys)
    {m : ModeConfig} (h : Reads.mode v m) :
    Asks key v (PlanStep.mode key enable disable m).request := by
  obtain ⟨given, hgives, hm⟩ := h
  obtain ⟨on, n⟩ := m
  cases on with
  | false => exact .disable hkey hgives hm.enabled
  | true =>
    -- a mode that is on has a number of its own
    obtain ⟨w, hw⟩ := Option.ne_none_iff_exists'.mp (hm.required rfl)
    have hvalue := hm.value
    rw [hw] at hvalue
    obtain rfl : w = .integer n.toInt := hvalue
    exact .enable hkey hgives hm.enabled hw rfl (Bytes.signed_littleEndian n)

/-- The keys of a profile that ask for something, in the order of its plan. -/
def askingKeys : List String :=
  (declared.map Prod.fst).tail

/-- The entries that ask for something, in the order of the plan. -/
def asked (given : Entries) : Entries :=
  askingKeys.filterMap fun key => (given.lookup key).map (key, ·)

variable {given : Entries} {p : Profile}

/-- A part of a profile asks for as many requests as there are entries for it: one or none. -/
private theorem forall₂_asks_part {β : Type} {read : Value → β → Prop} (step : β → PlanStep)
    {o : Option β} (h : Option.Rel read (given.lookup key) o)
    (hasks : ∀ v b, read v b → Asks key v (step b).request) :
    List.Forall₂ (fun e q => Asks e.1 e.2 q) ((given.lookup key).map (key, ·)).toList
      ((o.map step).toList.map PlanStep.request) := by
  generalize given.lookup key = found at h
  cases h with
  | none => exact .nil
  | some h => exact .cons (hasks _ _ h) .nil

/-- The plan of a profile makes one request for each entry that asks for one. -/
theorem Describes.forall₂_asks (h : Describes given p) :
    List.Forall₂ (fun e q => Asks e.1 e.2 q) (asked given) (p.plan.map PlanStep.request) := by
  have hword {key : String} {set : Operation} {o : Option UInt32} (hkey : (key, set) ∈ wordKeys)
      (ho : Option.Rel Reads.word (given.lookup key) o) :=
    forall₂_asks_part (.word key set) ho fun _ _ => asks_word hkey
  have hflag {key : String} {enable disable : Operation} {o : Option Bool}
      (hkey : (key, enable, disable) ∈ flagKeys)
      (ho : Option.Rel Reads.boolean (given.lookup key) o) :=
    forall₂_asks_part (.flag key enable disable) ho fun _ _ => asks_flag hkey
  have hmode {key : String} {enable disable : Operation} {o : Option ModeConfig}
      (hkey : (key, enable, disable) ∈ modeKeys)
      (ho : Option.Rel Reads.mode (given.lookup key) o) :=
    forall₂_asks_part (.mode key enable disable) ho fun _ _ => asks_mode hkey
  have hasked : asked given =
      askingKeys.flatMap fun key => ((given.lookup key).map (key, ·)).toList :=
    List.filterMap_eq_flatMap_toList ..
  rw [hasked]
  simp only [askingKeys, declared, List.map_cons, List.map_nil, List.tail_cons, List.flatMap_cons,
    List.flatMap_nil, List.append_nil, plan, List.map_append, List.append_assoc]
  exact List.rel_append (hword (by decide) h.clockRate) <|
    List.rel_append (hword (by decide) h.sampleRate) <|
    List.rel_append (hflag (by decide) h.rs485) <|
    List.rel_append (hflag (by decide) h.echoCancel) <|
    List.rel_append (hflag (by decide) h.termination) <|
    List.rel_append (hflag (by decide) h.nineBit) <|
    List.rel_append (hword (by decide) h.txTrigger) <|
    List.rel_append (hword (by decide) h.rxTrigger) <|
    List.rel_append (hmode (by decide) h.fixedBaudRate) <|
    List.rel_append (hmode (by decide) h.isochronous) <|
    List.rel_append (hmode (by decide) h.externalTransmit) <|
    hword (by decide) h.frameLength

/-- All entries of a profile ask for something but the one that says what is to be skipped. -/
theorem asked_perm (hkeys : (given.map Prod.fst).Nodup)
    (hdeclared : ∀ key ∈ given.map Prod.fst, key ∈ declared.map Prod.fst) :
    (asked given).Perm (given.filter fun e => e.1 != "skip_unsupported") := by
  have hasked : (asked given).Nodup := by
    refine List.Nodup.filterMap (fun key key' e he he' => ?_) (by decide)
    obtain ⟨v, -, rfl⟩ := Option.map_eq_some_iff.mp he
    obtain ⟨v', -, heq⟩ := Option.map_eq_some_iff.mp he'
    exact (congrArg Prod.fst heq).symm
  refine (List.perm_ext_iff_of_nodup hasked (hkeys.of_map.filter _)).mpr ?_
  rintro ⟨key, v⟩
  have hmem : (key, v) ∈ asked given ↔ key ∈ askingKeys ∧ (key, v) ∈ given := by
    simp only [asked, List.mem_filterMap, Option.map_eq_some_iff, Prod.mk.injEq,
      Toml.lookup_eq_some_iff hkeys]
    exact ⟨fun ⟨_, hkey, _, hv, h, h'⟩ => h ▸ h' ▸ ⟨hkey, hv⟩,
      fun ⟨hkey, hv⟩ => ⟨key, hkey, v, hv, rfl, rfl⟩⟩
  rw [hmem, List.mem_filter, and_comm, bne_iff_ne]
  refine and_congr_right fun he => ?_
  -- the declared keys are the one about skipping and those that ask for something
  have hcases : key = "skip_unsupported" ∨ key ∈ askingKeys :=
    List.mem_cons.mp (hdeclared key (List.mem_map_of_mem he))
  refine ⟨?_, hcases.resolve_left⟩
  rintro hkey rfl
  exact absurd hkey (by decide)

/-- A number of the profile does not fit into its four bytes. -/
inductive OutOfRange (given : Entries) : Prop
  /-- A number that is set. -/
  | word {key : String} {set : Operation} {n : Int} (hkey : (key, set) ∈ wordKeys)
      (hvalue : given.lookup key = some (.integer n)) (hn : n < 0 ∨ 2 ^ 32 ≤ n)
  /-- The number of a mode, whether the mode is on or off. -/
  | mode {key : String} {enable disable : Operation} {v : Value} {inner : Entries} {n : Int}
      (hkey : (key, enable, disable) ∈ modeKeys) (hmode : given.lookup key = some v)
      (hv : Gives ModeConfig.declared v inner)
      (hvalue : inner.lookup "value" = some (.integer n)) (hn : n < -2 ^ 31 ∨ 2 ^ 31 ≤ n)

/-- What describes a profile is in range. -/
theorem Describes.not_outOfRange (h : Describes given p) : ¬ OutOfRange given := by
  intro hrange
  cases hrange with
  | @word key set n hkey hvalue hn =>
    have hword : ∃ o : Option UInt32, Option.Rel Reads.word (given.lookup key) o := by
      simp only [wordKeys, List.mem_cons, Prod.mk.injEq, List.not_mem_nil, or_false] at hkey
      rcases hkey with ⟨rfl, -⟩ | ⟨rfl, -⟩ | ⟨rfl, -⟩ | ⟨rfl, -⟩ | ⟨rfl, -⟩
      · exact ⟨_, h.clockRate⟩
      · exact ⟨_, h.sampleRate⟩
      · exact ⟨_, h.txTrigger⟩
      · exact ⟨_, h.rxTrigger⟩
      · exact ⟨_, h.frameLength⟩
    obtain ⟨o, ho⟩ := hword
    obtain ⟨w, hw⟩ := Reads.exists_of_rel ho _ hvalue
    have hlt := w.toNat_lt
    rw [Reads.word, Value.integer.injEq] at hw
    omega
  | @mode key enable disable v inner n hkey hmode hgives hvalue hn =>
    have hmodes : ∃ o : Option ModeConfig, Option.Rel Reads.mode (given.lookup key) o := by
      simp only [modeKeys, List.mem_cons, Prod.mk.injEq, List.not_mem_nil, or_false] at hkey
      rcases hkey with ⟨rfl, -⟩ | ⟨rfl, -⟩ | ⟨rfl, -⟩
      · exact ⟨_, h.fixedBaudRate⟩
      · exact ⟨_, h.isochronous⟩
      · exact ⟨_, h.externalTransmit⟩
    obtain ⟨o, ho⟩ := hmodes
    obtain ⟨m, inner', hgives', hm⟩ := Reads.exists_of_rel ho _ hmode
    obtain rfl := hgives.unique hgives'
    have hread := hm.value
    rw [hvalue, Reads.orElse, Reads.signed, Value.integer.injEq] at hread
    have hle := m.value.le_toInt
    have hlt := m.value.toInt_lt
    omega

/-- A profile that is not given at all is described by no entries. -/
theorem describes_nil : Describes [] {} where
  keys := fun _ h => absurd h List.not_mem_nil
  skipUnsupported := rfl
  clockRate := .none
  sampleRate := .none
  rs485 := .none
  echoCancel := .none
  termination := .none
  nineBit := .none
  txTrigger := .none
  rxTrigger := .none
  fixedBaudRate := .none
  isochronous := .none
  externalTransmit := .none
  frameLength := .none

end Profile

/-- A channel on which nothing fails: every request is answered with as many bytes as it expects. -/
def Channel.IsAccepting (c : Channel σ) : Prop :=
  ∀ q s, ∃ bytes, (c.control q s).1 = .ok bytes ∧ bytes.length = q.outputSize

/-- A channel on which nothing fails is sent the whole plan of a profile. -/
theorem Port.requests_apply_of_isAccepting (c : Channel σ) (h : c.IsAccepting) (profile : Profile)
    (s : σ) : ((Port.apply ⟨c⟩ profile).run s).requests = profile.plan.map PlanStep.request := by
  have haccepted (plan : List PlanStep) (hplan : ∀ step ∈ plan, step.request.outputSize = 0) :
      ∀ s, ∀ a ∈ c.answered plan s, ¬ a.isFatal profile.skipUnsupported = true := by
    induction plan with
    | nil => exact fun s a ha => absurd ha List.not_mem_nil
    | cons step rest ih =>
      intro s a ha
      rcases List.mem_cons.mp ha with rfl | ha
      · obtain ⟨bytes, hreply, hlength⟩ := h step.request s
        have hempty : bytes = [] :=
          List.length_eq_zero_iff.mp (hlength.trans (hplan step List.mem_cons_self))
        rw [Answered.isFatal, Answered.isAccepted, hreply, hempty]
        exact Bool.false_ne_true
      · exact ih (fun step' hstep' => hplan step' (List.mem_cons_of_mem step hstep')) _ a ha
  have hall : upToFatal profile.skipUnsupported (c.answered profile.plan s) =
      c.answered profile.plan s :=
    upToFatal_eq_self (haccepted _ profile.plan_outputSize s)
  rw [← Run.map_fst_exchanges, exchanges_apply, hall, List.map_map]
  have hsteps := congrArg (List.map PlanStep.request) (c.map_step_answered profile.plan s)
  rwa [List.map_map] at hsteps

/-- **From the document to the wire.** Take a document in which no table has a key twice. If it is
accepted and its profile is a table or is not given, then to apply the profile to a channel on which
nothing fails is to make one request for each key of the profile that asks for one, and no other;
the numbers that go out are those of the document. If a number of the profile, in whatever form it
is given, does not fit into its four bytes, the document is not accepted. -/
theorem document_reaches_wire (entries : Entries) (h : (Value.table entries).Distinct) :
    (∀ config given, Config.ofEntries entries = .ok config →
      (entries.lookup "profile").getD (.table []) = .table given →
      ∀ {σ : Type} (c : Channel σ) (s : σ), c.IsAccepting →
        ∃ asked : Entries, asked.Perm (given.filter fun e => e.1 != "skip_unsupported") ∧
          List.Forall₂ (fun e q => Profile.Asks e.1 e.2 q) asked
            ((Port.apply ⟨c⟩ config.profile).run s).requests) ∧
    ∀ v given, entries.lookup "profile" = some v → Gives Profile.declared v given →
      Profile.OutOfRange given → ∃ e, Config.ofEntries entries = .error e := by
  constructor
  · intro config given hread hgiven σ c s haccepting
    have hprofile := (Config.describes_of_ofEntries h hread).profile
    -- a profile that is not given is described by no entries, and a table by its own
    have hdescribes : (Value.table given).Distinct ∧ Profile.Describes given config.profile := by
      cases hlookup : entries.lookup "profile" with
      | none =>
        rw [hlookup] at hprofile hgiven
        obtain rfl : [] = given := Value.table.inj hgiven
        rw [show config.profile = _ from hprofile]
        exact ⟨by simp, Profile.describes_nil⟩
      | some v =>
        rw [hlookup] at hprofile hgiven
        obtain rfl : v = .table given := hgiven
        obtain ⟨given', hgives, hdescribes⟩ := hprofile
        obtain rfl := hgives.unique (.table given)
        exact ⟨h.of_lookup hlookup, hdescribes⟩
    obtain ⟨hdistinct, hdescribes⟩ := hdescribes
    rw [Port.requests_apply_of_isAccepting c haccepting]
    exact ⟨Profile.asked given, Profile.asked_perm hdistinct.keys hdescribes.keys,
      hdescribes.forall₂_asks⟩
  · intro v given hlookup hgives hrange
    cases hread : Config.ofEntries entries with
    | error e => exact ⟨e, rfl⟩
    | ok config =>
      have hprofile := (Config.describes_of_ofEntries h hread).profile
      rw [hlookup] at hprofile
      obtain ⟨given', hgives', hdescribes⟩ := hprofile
      obtain rfl := hgives.unique hgives'
      exact absurd hrange hdescribes.not_outOfRange

/-- A document with keys in an order of their own, applied to a channel that says yes to everything;
the same document with one mode off and out of range. -/
theorem document_reaches_wire_mixed :
    let document (wanted : Value) : Entries :=
      [("profile", .table [("rx_trigger", .integer 4294967295), ("skip_unsupported", .boolean true),
        ("isochronous", .table [("value", .integer (-2)), ("enabled", .boolean true)]),
        ("fixed_baud_rate", wanted)]), ("port", .table [("number", .integer 3)])]
    let off (n : Int) : Value := .array [.boolean false, .integer n]
    let config : Config :=
      { logging := {}, port := { number := some 3 },
        profile := { skipUnsupported := true, rxTrigger := some 4294967295,
                     isochronous := some ⟨true, -2⟩, fixedBaudRate := some ⟨false, 7⟩ } }
    let channel : Channel Unit := { control q s := (.ok (List.replicate q.outputSize 0), s) }
    (Value.table (document (off 7))).Distinct ∧ Config.ofEntries (document (off 7)) = .ok config ∧
      (∃ asked : Entries,
        asked.Perm [("rx_trigger", .integer 4294967295),
          ("isochronous", .table [("value", .integer (-2)), ("enabled", .boolean true)]),
          ("fixed_baud_rate", off 7)] ∧
        List.Forall₂ (fun e q => Profile.Asks e.1 e.2 q) asked
          ((Port.apply ⟨channel⟩ config.profile).run ()).requests) ∧
      ∃ e, Config.ofEntries (document (off 2147483648)) = .error e := by
  intro document off config channel
  have hdistinct (n : Int) : (Value.table (document (off n))).Distinct := by
    simp [document, off]
  have haccepted : Config.ofEntries (document (off 7)) = .ok config := rfl
  have haccepting : channel.IsAccepting := fun q s => ⟨_, rfl, List.length_replicate⟩
  refine ⟨hdistinct 7, haccepted, ?_, ?_⟩
  · exact (document_reaches_wire _ (hdistinct 7)).1 config _ haccepted rfl channel () haccepting
  · refine (document_reaches_wire _ (hdistinct 2147483648)).2 _ _ rfl (.table _) ?_
    have hkey : ("fixed_baud_rate", Operation.enableFixedBaudRate, Operation.disableFixedBaudRate) ∈
      Profile.modeKeys := by decide
    exact .mode hkey rfl (.array (by decide)) rfl (.inr (by decide))

end SerialCard
