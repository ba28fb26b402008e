import SerialCard.Proofs.Port.Congruence
import SerialCard.Proofs.Win32.Calls
import SerialCard.Win32.Machine

/-!
# What a driver makes of a request

A driver that is sent a control code fails with the number of an error, or it writes to the output
buffer and says how many bytes it returned: that is its `Reaction`. `Reaction.reply` is the answer
to the request, which is the class of the error, or the front of the buffer. The buffer starts as
zeros and is as long as the answer shall be, so a count above that length leaves nothing to cut off.

An access to a setting therefore notices every count below the length it expects, and none above
it (`mismatch_iff_short`). A driver that returns bytes to a request for nothing is believed
(`excess_believed`).
-/

namespace SerialCard

variable {σ : Type}

/-! ### The length of an answer -/

namespace Use

/-- The number of bytes that shall come back when a setting is used: one for a flag that is read,
four for any other setting that is read, and none for a write. -/
def replySize : Use → Nat
  | get (.flag _) _ => 1
  | get _ _ => 4
  | put _ => 0

/-- What an answer of the right length comes to. -/
def meaning : Use → Bytes → Except PortError Answer
  | get t present, bytes => (t.meaning bytes).map present
  | put _, _ => .ok .done

variable {u : Use} {q : Request}

theorem outputSize_of_mem_requests (hq : q ∈ u.requests) : q.outputSize = u.replySize := by
  cases u with
  | get t present =>
    obtain ⟨code, -, rfl⟩ := Option.map_eq_some_iff.mp (Option.mem_toList.mp hq)
    cases t <;> rfl
  | put w =>
    obtain rfl := List.mem_singleton.mp hq
    exact w.request_outputSize

/-- An answer is judged by its length first. -/
theorem ofReply_ok (hq : q ∈ u.requests) (bytes : Bytes) :
    u.ofReply (.ok bytes) =
      if bytes.length = u.replySize then u.meaning bytes
      else .error (.device q.code (.lengthMismatch u.replySize bytes.length)) := by
  have hsize := outputSize_of_mem_requests hq
  cases u with
  | get t present =>
    obtain ⟨code, hcode, rfl⟩ := Option.map_eq_some_iff.mp (Option.mem_toList.mp hq)
    have hsize : t.size = (get t present).replySize := hsize
    rw [ofReply, t.ofReply_ok hcode, Setting.interpret, hsize]
    exact apply_ite (Except.map present) _ _ _
  | put w =>
    obtain rfl := List.mem_singleton.mp hq
    rw [ofReply, Request.confirm, Request.judge, hsize]
    exact apply_ite (fun judged : Except PortError Bytes =>
      (judged.map fun _ => ()).map fun _ => Answer.done) _ _ _

/-- Bytes of the right length are not the device's fault, though they may name no family of
cards. -/
theorem meaning_ne_device (bytes : Bytes) (code : ControlCode) (fault : DeviceFault) :
    u.meaning bytes ≠ .error (.device code fault) := by
  cases u with
  | put w => exact fun h => by cases h
  | get t present =>
    cases t with
    | classification s =>
      simp only [meaning, Setting.meaning, CardKind.ofOrdinal]
      cases CardKind.ofOrdinal? (spelled bytes) <;> exact fun h => by cases h
    | flag _ | register _ | writeOnly _ | mode _ => exact fun h => by cases h

end Use

namespace Win32

/-! ### Reactions -/

/-- What a driver makes of a control code. -/
inductive Reaction where
  /-- It fails; the last error has this number. -/
  | failed (number : UInt32)
  /-- It writes bytes to the front of the output buffer and says how many it returned. -/
  | returned (written : Bytes) (count : UInt32)
  deriving DecidableEq, Repr

/-- The class of an error, by its number. -/
def faultOf (wording : Int32 → String) (number : UInt32) : DeviceFault :=
  match number.toNat with
  | 1 | 50 => .unsupported
  | 6 => .invalidHandle
  | 5 => .permissionDenied
  | _ => .os ⟨some number.toInt32, wording number.toInt32⟩

/-- A buffer of zeros after bytes were written to its front. -/
def filled (size : Nat) (written : Bytes) : Bytes :=
  (List.range size).map fun i => written[i]?.getD 0

theorem length_filled (size : Nat) (written : Bytes) : (filled size written).length = size := by
  rw [filled, List.length_map, List.length_range]

/-- The answer to a request: the class of the error, or as many bytes of the output buffer as the
driver returned, if there are that many. -/
def Reaction.reply (wording : Int32 → String) (q : Request) : Reaction → Reply
  | failed number => .error (faultOf wording number)
  | returned written count =>
    .ok ((filled q.outputSize written).take (min count.toNat q.outputSize))

/-- What the driver made of the call of an attempt. -/
def Attempt.reaction (a : Attempt) : Reaction :=
  if a.result.succeeded then .returned a.result.written a.result.returned else .failed a.number

/-- What the driver of a system makes of a call. -/
def System.reaction (sys : System σ) (call : ControlCall) (s : σ) : Reaction :=
  let r := sys.deviceIoControl call s
  Attempt.reaction ⟨call, r.1, sys.lastError r.2⟩

theorem deviceFault_eq (sys : System σ) (number : UInt32) :
    deviceFault sys number = faultOf sys.wording number := by
  rw [faultOf]
  split
  · next h =>
    obtain rfl : number = 1 := UInt32.toNat_inj.mp h
    rfl
  · next h =>
    obtain rfl : number = 50 := UInt32.toNat_inj.mp h
    rfl
  · next h =>
    obtain rfl : number = 6 := UInt32.toNat_inj.mp h
    rfl
  · next h =>
    obtain rfl : number = 5 := UInt32.toNat_inj.mp h
    rfl
  · next hone hfifty hsix hfive =>
    have hne (n : UInt32) (h : number.toNat = n.toNat → False) : number ≠ n :=
      fun heq => h (congrArg UInt32.toNat heq)
    have hlack : ¬(number = notSupported ∨ number = invalidFunction) :=
      not_or_intro (hne notSupported hfifty) (hne invalidFunction hone)
    rw [deviceFault, if_neg hlack, if_neg (hne invalidHandle hsix),
      if_neg (hne accessDenied hfive)]
    rfl

/-- What is written is followed by zeros. -/
theorem buffer_eq_filled (size : Nat) (written : Bytes) :
    ComPort.buffer size written = filled size written := by
  have hlength : (ComPort.buffer size written).length = size := by
    rw [ComPort.buffer, List.length_take, List.length_append, List.length_replicate]
    omega
  refine List.ext_getElem (hlength.trans (length_filled size written).symm) fun i _ _ => ?_
  simp only [filled, ComPort.buffer, List.getElem_take, List.getElem_map, List.getElem_range]
  by_cases hi : i < written.length
  · rw [List.getElem_append_left hi, List.getElem?_eq_getElem hi]
    rfl
  · have hi := Nat.le_of_not_lt hi
    rw [List.getElem_append_right hi, List.getElem_replicate, List.getElem?_eq_none hi]
    rfl

/-- The answer to a request is the driver's reaction to its call. -/
theorem ComPort.control_eq (sys : System σ) (port : ComPort) (q : Request) (s : σ) :
    port.control sys q s =
      ((sys.reaction (port.controlCall q) s).reply sys.wording q,
        (sys.deviceIoControl (port.controlCall q) s).2) := by
  simp only [control, System.reaction, Attempt.reaction]
  cases (sys.deviceIoControl (port.controlCall q) s).1.succeeded with
  | false => simp only [Bool.false_eq_true, if_false, Reaction.reply, deviceFault_eq]
  | true =>
    -- a count above the size of the buffer takes all of it
    rw [if_pos rfl, if_pos rfl, Reaction.reply, buffer_eq_filled, List.take_eq_take_min,
      length_filled]

/-! ### Counts of bytes -/

section Counts

variable (sys : System σ) (port : ComPort) {c : Call} {u : Use} {q : Request} {s : σ}

/-- What an access comes to if the driver succeeds: a count below the length of the answer is
noticed, and any other stands for the whole buffer. -/
theorem call_of_succeeded (hc : c.use? = some u) (hq : q ∈ u.requests)
    (hsucceeded : (sys.deviceIoControl (port.controlCall q) s).1.succeeded = true) :
    let r := (sys.deviceIoControl (port.controlCall q) s).1
    (((port.toPort sys).call c).run s).result =
      if r.returned.toNat < u.replySize then
        .error (.device q.code (.lengthMismatch u.replySize r.returned.toNat))
      else u.meaning (filled u.replySize r.written) := by
  intro r
  have hsize := Use.outputSize_of_mem_requests hq
  have hlength := length_filled u.replySize r.written
  have hreaction : sys.reaction (port.controlCall q) s = .returned r.written r.returned :=
    if_pos hsucceeded
  have hreply : (port.control sys q s).1 =
      .ok ((filled u.replySize r.written).take (min r.returned.toNat u.replySize)) := by
    rw [port.control_eq, hreaction, Reaction.reply, hsize]
  have hresult : (((port.toPort sys).call c).run s).result =
      u.ofReply (port.control sys q s).1 := by
    rw [Port.call_eq_use _ hc, Port.use_run _ hq]
    rfl
  rw [hresult, hreply, Use.ofReply_ok hq, List.length_take, hlength]
  by_cases hshort : r.returned.toNat < u.replySize
  · have hmin : min (min r.returned.toNat u.replySize) u.replySize = r.returned.toNat := by omega
    rw [if_pos hshort, hmin, if_neg hshort.ne]
  · have hmin : min r.returned.toNat u.replySize = u.replySize := by omega
    rw [if_neg hshort, hmin, Nat.min_self, if_pos rfl, List.take_of_length_le hlength.le]

/-- **Short answers are noticed, long ones are not.** Take an access to a setting and a driver that
succeeds and says how many bytes it returned. The access fails with the two lengths, under the code
of its request, exactly if the count is below the length it expects. A count of at least that
length is not looked at any further: the access comes to what the buffer means, which is a value
unless it names no family of cards. So every wrong count is noticed exactly if the count is not
above the expected one, and in particular a count is never noticed when nothing is expected. -/
theorem mismatch_iff_short (hc : c.use? = some u) (hq : q ∈ u.requests)
    (hsucceeded : (sys.deviceIoControl (port.controlCall q) s).1.succeeded = true) :
    let r := (sys.deviceIoControl (port.controlCall q) s).1
    let result := (((port.toPort sys).call c).run s).result
    let mismatch : Except PortError Answer :=
      .error (.device q.code (.lengthMismatch u.replySize r.returned.toNat))
    (result = mismatch ↔ r.returned.toNat < u.replySize) ∧
    (u.replySize ≤ r.returned.toNat → result = u.meaning (filled u.replySize r.written)) ∧
    ((r.returned.toNat ≠ u.replySize → result = mismatch) ↔ r.returned.toNat ≤ u.replySize) := by
  intro r result mismatch
  have hresult : result = if r.returned.toNat < u.replySize then mismatch
      else u.meaning (filled u.replySize r.written) := call_of_succeeded sys port hc hq hsucceeded
  have hlong (h : u.replySize ≤ r.returned.toNat) :
      result = u.meaning (filled u.replySize r.written) :=
    hresult.trans (if_neg (Nat.not_lt.mpr h))
  have hiff : result = mismatch ↔ r.returned.toNat < u.replySize := by
    refine ⟨fun h => ?_, fun h => hresult.trans (if_pos h)⟩
    by_contra hnot
    exact Use.meaning_ne_device _ _ _ ((hlong (Nat.le_of_not_lt hnot)).symm.trans h)
  refine ⟨hiff, hlong, ?_⟩
  rw [hiff]
  omega

end Counts

/-- A driver that has four bytes for a register and says that it returned two of them. -/
theorem mismatch_iff_short_register :
    let sys := Machine.system fun _ => ""
    let m : Machine := { card := { queued := [.ok ⟨[0x20, 0, 0, 0], some 2⟩] } }
    let port : ComPort := ⟨⟨4⟩, "\\\\.\\COM1"⟩
    let q := (Setting.register .txTrigger).request Operation.getTxTrigger.code
    (sys.deviceIoControl (port.controlCall q) m).1 = ⟨true, [0x20, 0, 0, 0], 2⟩ ∧
      (((port.toPort sys).call (.named .txTrigger)).run m).result =
        .error (.device Operation.getTxTrigger.code (.lengthMismatch 4 2)) := by
  intro sys m port q
  have hcounts := mismatch_iff_short sys port (c := .named .txTrigger) (q := q) (s := m) rfl
    List.mem_cons_self rfl
  exact ⟨rfl, hcounts.1.mpr (by decide)⟩

/-- A driver that is asked to set a register and says that it returned four bytes, which is not
noticed. -/
theorem excess_believed :
    let sys := Machine.system fun _ => ""
    let m : Machine := { card := { queued := [.ok ⟨[], some 4⟩] } }
    let port : ComPort := ⟨⟨4⟩, "\\\\.\\COM1"⟩
    (sys.deviceIoControl (port.controlCall (Write.register .txTrigger 32).request) m).1 =
        ⟨true, [], 4⟩ ∧
      (((port.toPort sys).call (.named (.setTxTrigger 32))).run m).result = .ok .done :=
  ⟨rfl, rfl⟩

end Win32

end SerialCard
