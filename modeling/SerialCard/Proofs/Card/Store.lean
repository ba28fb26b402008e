import Mathlib.Logic.Function.Basic
import SerialCard.Card
import SerialCard.Port.Call
import SerialCard.Proofs.Operation
import SerialCard.Proofs.Port.Exchange

/-!
# A card as a store of settings

Seen through a port, a faithful card is a store with one cell for each setting that can be read, and
a list of the codes it refuses. `Store` says so without any bytes on the wire: reading gives what
is in the cell, writing puts the value into the cell of the same setting and into no other, a
refused code leaves everything as it is, and the clock rate has no cell. `Card.store` is the store
that a card shows.

The tables that bind settings to codes and codes to cells meet here. `Operation.reads?` names the
setting that an operation reads; `Setting.interpret` says what the bytes of its cell mean. All the
rest follows from two facts about a card without queued answers: reading a setting gives what its
store holds (`Card.read_run`), and writing one does to the card what it does to its store
(`Card.write_run`).
-/

namespace SerialCard

/-! ### Cells and their contents -/

/-- The setting that an operation reads, if it reads one. -/
def Operation.reads? : Operation → Option Setting
  | getRs485 => some (.flag .rs485)
  | getEchoCancel => some (.flag .echoCancel)
  | getTermination => some (.flag .termination)
  | getNineBit => some (.flag .nineBit)
  | getSampleRate => some (.register .sampleRate)
  | getTxTrigger => some (.register .txTrigger)
  | getRxTrigger => some (.register .rxTrigger)
  | getFrameLength => some (.register .frameLength)
  | getIsochronous => some (.mode .isochronous)
  | getExternalTransmit => some (.mode .externalTransmit)
  | getFixedBaudRate => some (.mode .fixedBaudRate)
  | getCardType => some (.classification .cardType)
  | _ => none

namespace Setting

/-- The operation that reads a setting of the table. -/
def reader? (t : Setting) : Option Operation :=
  Operation.all.find? fun op => op.reads? = some t

/-- What as many bytes as a setting is read as mean for it. -/
def meaning : Setting → Bytes → Except PortError SettingValue
  | .flag _, bytes => .ok (.flag (bytes != [0]))
  | .register _, bytes | .writeOnly _, bytes => .ok (.word (spelled bytes))
  | .mode _, bytes => .ok (.mode (spelled bytes).toInt32)
  | .classification _, bytes => (CardKind.ofOrdinal (spelled bytes)).map .card

/-- What bytes mean for a setting that is read through a code. Only their number can be wrong, and
the number of a family of cards. -/
def interpret (t : Setting) (code : ControlCode) (bytes : Bytes) : Except PortError SettingValue :=
  if bytes.length = t.size then t.meaning bytes
  else .error (.device code (.lengthMismatch t.size bytes.length))

end Setting

/-- The setting of a write. -/
def Write.setting : Write → Setting
  | .flag s _ => .flag s
  | .register s _ => .register s
  | .writeOnly s _ => .writeOnly s
  | .enable s _ | .disable s => .mode s

/-- The value a write leaves in the cell of its setting, if it has one. A mode that is off reads as
minus one. -/
def Write.value? : Write → Option SettingValue
  | .flag _ on => some (.flag on)
  | .register _ value => some (.word value)
  | .writeOnly .. => none
  | .enable _ value => some (.mode value)
  | .disable _ => some (.mode (-1))

theorem Write.setting_name (w : Write) : w.setting.name = w.name := by
  cases w <;> rfl

/-- A write to a setting that can be read leaves a value there. -/
theorem Write.exists_value (w : Write) {code : ControlCode} (h : w.setting.getCode = some code) :
    ∃ v, w.value? = some v := by
  cases w with
  | writeOnly s value => cases h
  | flag _ _ | register _ _ | enable _ _ | disable _ => exact ⟨_, rfl⟩

/-! ### Stores -/

/-- What can be seen of a card through a port. -/
@[ext]
structure Store where
  /-- What each setting reads as if its code is not refused. -/
  cell : Setting → Except PortError SettingValue
  /-- The codes that are refused. -/
  refusals : ControlCode → Option DeviceFault

namespace Store

/-- Changes one cell. -/
def set (store : Store) (t : Setting) (content : Except PortError SettingValue) : Store :=
  { store with cell := Function.update store.cell t content }

/-- Reads a setting. -/
def get (store : Store) (t : Setting) : Except PortError SettingValue :=
  match t.getCode with
  | none => .error (.unreadable t.name)
  | some code =>
    match store.refusals code with
    | some fault => .error (.device code fault)
    | none => store.cell t

/-- Takes a write in. -/
def take (store : Store) (w : Write) : Store :=
  match w.value? with
  | some v => store.set w.setting (.ok v)
  | none => store

/-- What comes of a write through a code. -/
def verdict (store : Store) (code : ControlCode) : Reply :=
  match store.refusals code with
  | some fault => .error fault
  | none => .ok []

/-- Writes a setting. -/
def put (store : Store) (w : Write) : Except PortError Unit × Store :=
  match store.refusals w.request.code with
  | some fault => (.error (.device w.request.code fault), store)
  | none => (.ok (), store.take w)

/-- Puts bytes into the cell that an operation reads. -/
def force (store : Store) (op : Operation) (bytes : Bytes) : Store :=
  match op.reads? with
  | some t => store.set t (t.interpret op.code bytes)
  | none => store

end Store

/-- The store that a card shows. A setting that was never written reads as zeros. -/
def Card.store (card : Card DeviceFault) : Store where
  cell t :=
    match t.reader? with
    | some op => t.interpret op.code ((card.cells op).getD (List.replicate t.size 0))
    | none => .error (.unreadable t.name)
  refusals := card.refusals

namespace Store

variable (store : Store) (w : Write)

/-- A write succeeds on a store if its verdict is a success. -/
theorem confirm_verdict :
    w.request.confirm (store.verdict w.request.code) = (store.put w).1 := by
  have hsize := w.request_outputSize
  cases hrefused : store.refusals w.request.code with
  | some fault => simp only [verdict, put, hrefused, Request.confirm, Request.judge, Except.map]
  | none =>
    simp only [verdict, put, hrefused, Request.confirm, Request.judge, hsize, List.length_nil,
      if_true, Except.map]

/-- Writing changes nothing about what is refused. -/
theorem put_refusals : (store.put w).2.refusals = store.refusals := by
  rw [put]
  cases store.refusals w.request.code with
  | some fault => rfl
  | none => simp only [take]; cases w.value? <;> rfl

end Store

/-! ### The table of operations -/

namespace Operation

variable {op op' : Operation} {t : Setting}

/-- An operation reads a setting through its own code. -/
theorem getCode_of_reads (h : op.reads? = some t) : t.getCode = some op.code := by
  -- an operation that reads nothing contradicts `h`
  cases op <;> first
    | (cases h; rfl)
    | cases h

theorem effect_of_reads (h : op.reads? = some t) : op.effect = .read := by
  cases op <;> first
    | rfl
    | cases h

/-- No two operations read the same setting. -/
theorem eq_of_reads (h : op.reads? = some t) (h' : op'.reads? = some t) : op = op' := by
  have hcode : some op.code = some op'.code := by
    rw [← getCode_of_reads h, getCode_of_reads h']
  exact code_injective (Option.some.inj hcode)

end Operation

namespace Setting

variable {t : Setting}

/-- What can be read of the table is read by an operation. -/
theorem exists_reads (h : t ∈ Setting.all) {code : ControlCode} (hcode : t.getCode = some code) :
    ∃ op : Operation, op.reads? = some t ∧ op.code = code := by
  simp only [Setting.all, List.mem_cons, List.not_mem_nil, or_false] at h
  have hsome (op : Operation) (hop : op.reads? = some t) :
      ∃ op : Operation, op.reads? = some t ∧ op.code = code :=
    ⟨op, hop, Option.some.inj ((op.getCode_of_reads hop).symm.trans hcode)⟩
  rcases h with rfl | rfl | rfl | rfl | rfl | rfl | rfl | rfl | rfl | rfl | rfl | rfl | rfl
  · exact hsome .getRs485 rfl
  · exact hsome .getEchoCancel rfl
  · exact hsome .getTermination rfl
  · exact hsome .getNineBit rfl
  · exact hsome .getSampleRate rfl
  · exact hsome .getTxTrigger rfl
  · exact hsome .getRxTrigger rfl
  · exact hsome .getFrameLength rfl
  · cases hcode
  · exact hsome .getIsochronous rfl
  · exact hsome .getExternalTransmit rfl
  · exact hsome .getFixedBaudRate rfl
  · exact hsome .getCardType rfl

theorem reader?_eq_some_iff {op : Operation} : t.reader? = some op ↔ op.reads? = some t := by
  constructor
  · intro h
    simpa using List.find?_some h
  · intro h
    cases hfound : t.reader? with
    | none =>
      have hno := List.find?_eq_none.mp hfound op op.mem_all
      exact absurd (decide_eq_true h) hno
    | some op' =>
      -- the first operation that reads the setting is the only one
      have hop' : op'.reads? = some t := by simpa using List.find?_some hfound
      rw [Operation.eq_of_reads hop' h]

/-- The answer to the request for a setting is what its bytes mean. -/
theorem ofReply_ok {code : ControlCode} (h : t.getCode = some code) (bytes : Bytes) :
    t.ofReply (.ok bytes) = t.interpret code bytes := by
  cases t with
  | writeOnly s => cases h
  | flag s =>
    obtain rfl := Option.some.inj h
    rw [ofReply, Wire.ofReply_ok (Wire.decode_bool bytes)]
    exact apply_ite (Except.map SettingValue.flag) _ _ _
  | register s =>
    obtain rfl := Option.some.inj h
    rw [ofReply, Wire.ofReply_ok (Wire.decode_word bytes)]
    exact apply_ite (Except.map SettingValue.word) _ _ _
  | mode s =>
    obtain rfl := Option.some.inj h
    rw [ofReply, Wire.ofReply_ok (Wire.decode_int bytes)]
    exact apply_ite (Except.map SettingValue.mode) _ _ _
  | classification s =>
    obtain rfl := Option.some.inj h
    rw [ofReply, Wire.ofReply_ok (Wire.decode_word bytes)]
    exact apply_ite (fun word : Except PortError UInt32 =>
      (word.bind CardKind.ofOrdinal).map SettingValue.card) _ _ _

theorem ofReply_error {code : ControlCode} (h : t.getCode = some code) (fault : DeviceFault) :
    t.ofReply (.error fault) = .error (.device code fault) := by
  cases t with
  | writeOnly s => cases h
  | flag _ | register _ | mode _ | classification _ =>
    obtain rfl := Option.some.inj h
    rfl

end Setting

/-! ### What a write does to the cells -/

/-- The bytes a write leaves in the cell of its setting, if it has one. -/
def Write.bytes? : Write → Option Bytes
  | .flag _ on => some [if on then 1 else 0]
  | .register _ value => some (Wire.encode value)
  | .writeOnly .. => none
  | .enable _ value => some (Wire.encode value)
  | .disable _ => some Operation.modeOff

/-- The bytes a write leaves behind mean the value that was written. -/
theorem Write.interpret_bytes {w : Write} {bytes : Bytes} (h : w.bytes? = some bytes)
    (code : ControlCode) :
    ∃ v, w.value? = some v ∧ w.setting.interpret code bytes = .ok v := by
  cases w with
  | writeOnly s value => cases h
  | flag s on =>
    obtain rfl := Option.some.inj h
    refine ⟨.flag on, rfl, ?_⟩
    cases on <;> rfl
  | register s value =>
    obtain rfl := Option.some.inj h
    have hspelled := Wire.decode_word (Wire.encode value)
    rw [LawfulWire.decode_encode] at hspelled
    refine ⟨.word value, rfl, ?_⟩
    have hvalue : value = spelled (Wire.encode value) := Option.some.inj hspelled
    exact congrArg (fun word => Except.ok (SettingValue.word word)) hvalue.symm
  | enable s value =>
    obtain rfl := Option.some.inj h
    have hspelled := Wire.decode_int (Wire.encode value)
    rw [LawfulWire.decode_encode] at hspelled
    refine ⟨.mode value, rfl, ?_⟩
    have hvalue : value = (spelled (Wire.encode value)).toInt32 := Option.some.inj hspelled
    exact congrArg (fun number => Except.ok (SettingValue.mode number)) hvalue.symm
  | disable s =>
    obtain rfl := Option.some.inj h
    exact ⟨.mode (-1), rfl, rfl⟩

/-- Switching a flag of the table stores a truth value in the cell it is read from. -/
theorem Flag.exists_operations {s : Flag} (h : .flag s ∈ Setting.all) :
    ∃ enable disable cell : Operation, enable.code = s.enable ∧ disable.code = s.disable ∧
      cell.reads? = some (.flag s) ∧
      enable.effect = .store cell [1] ∧ disable.effect = .store cell [0] := by
  have h : s = .rs485 ∨ s = .echoCancel ∨ s = .termination ∨ s = .nineBit := by
    simpa [Setting.all] using h
  rcases h with rfl | rfl | rfl | rfl
  · exact ⟨.enableRs485, .disableRs485, .getRs485, rfl, rfl, rfl, rfl, rfl⟩
  · exact ⟨.enableEchoCancel, .disableEchoCancel, .getEchoCancel, rfl, rfl, rfl, rfl, rfl⟩
  · exact ⟨.enableTermination, .disableTermination, .getTermination, rfl, rfl, rfl, rfl, rfl⟩
  · exact ⟨.enableNineBit, .disableNineBit, .getNineBit, rfl, rfl, rfl, rfl, rfl⟩

/-- Setting a register of the table stores the input in the cell it is read from. -/
theorem Register.exists_operations {s : Register} (h : .register s ∈ Setting.all) :
    ∃ set cell : Operation, set.code = s.set ∧ cell.reads? = some (.register s) ∧
      set.effect = .storeInput cell := by
  have h : s = .sampleRate ∨ s = .txTrigger ∨ s = .rxTrigger ∨ s = .frameLength := by
    simpa [Setting.all] using h
  rcases h with rfl | rfl | rfl | rfl
  · exact ⟨.setSampleRate, .getSampleRate, rfl, rfl, rfl⟩
  · exact ⟨.setTxTrigger, .getTxTrigger, rfl, rfl, rfl⟩
  · exact ⟨.setRxTrigger, .getRxTrigger, rfl, rfl, rfl⟩
  · exact ⟨.setFrameLength, .getFrameLength, rfl, rfl, rfl⟩

/-- Nothing is kept of the clock rate. -/
theorem WriteOnly.exists_operation {s : WriteOnly} (h : .writeOnly s ∈ Setting.all) :
    ∃ set : Operation, set.code = s.set ∧ set.effect = .forget := by
  have h : s = .clockRate := by simpa [Setting.all] using h
  subst h
  exact ⟨.setClockRate, rfl, rfl⟩

/-- Turning a mode of the table on stores the input in the cell it is read from, and turning it off
stores minus one. -/
theorem Mode.exists_operations {s : Mode} (h : .mode s ∈ Setting.all) :
    ∃ enable disable cell : Operation, enable.code = s.enable ∧ disable.code = s.disable ∧
      cell.reads? = some (.mode s) ∧
      enable.effect = .storeInput cell ∧ disable.effect = .store cell Operation.modeOff := by
  have h : s = .isochronous ∨ s = .externalTransmit ∨ s = .fixedBaudRate := by
    simpa [Setting.all] using h
  rcases h with rfl | rfl | rfl
  · exact ⟨.enableIsochronous, .disableIsochronous, .getIsochronous, rfl, rfl, rfl, rfl, rfl⟩
  · exact ⟨.enableExternalTransmit, .disableExternalTransmit, .getExternalTransmit,
      rfl, rfl, rfl, rfl, rfl⟩
  · exact ⟨.enableFixedBaudRate, .disableFixedBaudRate, .getFixedBaudRate,
      rfl, rfl, rfl, rfl, rfl⟩

/-- A write to the table is carried out by one operation. It leaves the bytes of the write in the
cell that its setting is read from, or nothing at all. -/
theorem Write.exists_operation {w : Write} (h : w.setting ∈ Setting.all) :
    ∃ op : Operation, op.code = w.request.code ∧
      ((w.value? = none ∧
          ∀ card : Card DeviceFault, card.carryOut op.effect op w.request = ([], card)) ∨
        ∃ cell bytes, cell.reads? = some w.setting ∧ w.bytes? = some bytes ∧
          ∀ card : Card DeviceFault,
            card.carryOut op.effect op w.request = ([], card.put cell bytes)) := by
  -- the code of a write is picked by its shape, and for a flag by the value as well
  cases w with
  | flag s on =>
    obtain ⟨enable, disable, cell, henable, hdisable, hcell, hon, hoff⟩ := Flag.exists_operations h
    cases on with
    | true =>
      refine ⟨enable, henable, .inr ⟨cell, [1], hcell, rfl, fun card => ?_⟩⟩
      simp only [Card.carryOut, hon]
    | false =>
      refine ⟨disable, hdisable, .inr ⟨cell, [0], hcell, rfl, fun card => ?_⟩⟩
      simp only [Card.carryOut, hoff]
  | register s value =>
    obtain ⟨set, cell, hset, hcell, heffect⟩ := Register.exists_operations h
    refine ⟨set, hset, .inr ⟨cell, _, hcell, rfl, fun card => ?_⟩⟩
    simp only [Card.carryOut, heffect]
    rfl
  | writeOnly s value =>
    obtain ⟨set, hset, heffect⟩ := WriteOnly.exists_operation h
    refine ⟨set, hset, .inl ⟨rfl, fun card => ?_⟩⟩
    simp only [Card.carryOut, heffect]
  | enable s value =>
    obtain ⟨enable, _, cell, henable, _, hcell, heffect, _⟩ := Mode.exists_operations h
    refine ⟨enable, henable, .inr ⟨cell, _, hcell, rfl, fun card => ?_⟩⟩
    simp only [Card.carryOut, heffect]
    rfl
  | disable s =>
    obtain ⟨_, disable, cell, _, hdisable, hcell, _, heffect⟩ := Mode.exists_operations h
    refine ⟨disable, hdisable, .inr ⟨cell, _, hcell, rfl, fun card => ?_⟩⟩
    simp only [Card.carryOut, heffect]

/-! ### The card's answers -/

namespace Card

private theorem cell_store_put (card : Card DeviceFault) (op : Operation) (bytes : Bytes)
    (t : Setting) :
    (card.put op bytes).store.cell t =
      if t.reader? = some op then t.interpret op.code bytes else card.store.cell t := by
  simp only [store, put]
  cases hreader : t.reader? with
  | none => rw [if_neg (by simp)]
  | some op' =>
    by_cases hop : op' = op
    · subst hop
      rw [if_pos rfl]
      simp only [if_true, Option.getD_some]
    · rw [if_neg (by simpa using hop)]
      simp only [if_neg hop]

/-- Forcing a cell of the card forces that of its store. -/
theorem store_put (card : Card DeviceFault) (op : Operation) (bytes : Bytes) :
    (card.put op bytes).store = card.store.force op bytes := by
  cases hreads : op.reads? with
  | none =>
    -- no setting is read by the operation, so no cell is its own
    have hother (t : Setting) : t.reader? ≠ some op := fun h => by
      rw [Setting.reader?_eq_some_iff, hreads] at h
      cases h
    simp only [Store.force, hreads]
    refine Store.ext (funext fun t => ?_) rfl
    rw [cell_store_put, if_neg (hother t)]
  | some u =>
    simp only [Store.force, hreads]
    refine Store.ext (funext fun t => ?_) rfl
    simp only [Store.set, Function.update_apply, cell_store_put]
    by_cases ht : t = u
    · subst ht
      rw [if_pos rfl, if_pos (Setting.reader?_eq_some_iff.mpr hreads)]
    · have hother : t.reader? ≠ some op := fun h => by
        rw [Setting.reader?_eq_some_iff, hreads] at h
        exact ht (Option.some.inj h).symm
      rw [if_neg ht, if_neg hother]

/-- An idle card refuses what it is told to refuse. -/
theorem control_of_refused {card : Card DeviceFault} (hidle : card.queued = []) {q : Request}
    {fault : DeviceFault} (h : card.refusals q.code = some fault) :
    channel.control q card = (.error fault, card) := by
  simp only [channel, answer, hidle, h, reply]

/-- An idle card carries out what it does not refuse. -/
theorem control_of_accepted {card : Card DeviceFault} (hidle : card.queued = []) {q : Request}
    (h : card.refusals q.code = none) {op : Operation} (hop : op.code = q.code) :
    channel.control q card =
      (.ok (card.carryOut op.effect op q).1, (card.carryOut op.effect op q).2) := by
  have hfound : Operation.ofCode? q.code = some op := hop ▸ op.ofCode?_code
  simp only [channel, answer, hidle, h, hfound, reply]

/-! ### Accesses to a card -/

/-- A card answers the request for a setting with the content of its cell, and stays as it is. -/
theorem control_read {t : Setting} (h : t ∈ Setting.all) {code : ControlCode}
    (hcode : t.getCode = some code) {card : Card DeviceFault} (hidle : card.queued = []) :
    t.ofReply (channel.control (t.request code) card).1 = card.store.get t ∧
      (channel.control (t.request code) card).2 = card := by
  obtain ⟨op, hreads, hop⟩ := Setting.exists_reads h hcode
  have hreader : t.reader? = some op := Setting.reader?_eq_some_iff.mpr hreads
  cases hrefused : card.refusals code with
  | some fault =>
    have hget : card.store.get t = .error (.device code fault) := by
      simp only [Store.get, hcode, store, hrefused]
    rw [control_of_refused hidle hrefused, t.ofReply_error hcode, hget]
    exact ⟨rfl, rfl⟩
  | none =>
    have hget : card.store.get t = card.store.cell t := by
      simp only [Store.get, hcode, store, hrefused]
    rw [control_of_accepted hidle hrefused hop, hget]
    simp only [carryOut, op.effect_of_reads hreads, t.ofReply_ok hcode, store, hreader, hop,
      and_true]
    rfl

/-- A card takes a write as its store does. -/
theorem control_write {w : Write} (h : w.setting ∈ Setting.all) {card : Card DeviceFault}
    (hidle : card.queued = []) :
    let answer := channel.control w.request card
    answer.1 = card.store.verdict w.request.code ∧
      answer.2.store = (card.store.put w).2 ∧ answer.2.queued = [] := by
  obtain ⟨op, hop, heffect⟩ := Write.exists_operation h
  cases hrefused : card.refusals w.request.code with
  | some fault =>
    simp only [control_of_refused hidle hrefused, Store.verdict, Store.put, store, hrefused]
    exact ⟨trivial, trivial, hidle⟩
  | none =>
    have hverdict : card.store.verdict w.request.code = .ok [] := by
      simp only [Store.verdict, store, hrefused]
    have hput : (card.store.put w).2 = card.store.take w := by
      simp only [Store.put, store, hrefused]
    simp only [control_of_accepted hidle hrefused hop, hverdict, hput]
    -- a write leaves its bytes in one cell, or it is not kept at all
    rcases heffect with ⟨hvalue, hcarry⟩ | ⟨cell, bytes, hcell, hbytes, hcarry⟩
    · simp only [hcarry, Store.take, hvalue]
      exact ⟨trivial, trivial, hidle⟩
    · obtain ⟨v, hvalue, hmeaning⟩ := Write.interpret_bytes hbytes cell.code
      simp only [hcarry, Store.take, hvalue, store_put, Store.force, hcell, hmeaning]
      exact ⟨trivial, trivial, hidle⟩

/-- **Reading a card is reading its store.** -/
theorem read_run {t : Setting} (h : t ∈ Setting.all) {card : Card DeviceFault}
    (hidle : card.queued = []) :
    let run := (Port.read ⟨channel⟩ t).run card
    run.result = card.store.get t ∧ run.state = card := by
  cases hcode : t.getCode with
  | none =>
    rw [Port.read_run_of_getCode_eq_none _ hcode]
    simp only [Store.get, hcode, and_self]
  | some code =>
    rw [Port.read_run _ hcode]
    exact control_read h hcode hidle

/-- **Writing a card is writing its store.** -/
theorem write_run {w : Write} (h : w.setting ∈ Setting.all) {card : Card DeviceFault}
    (hidle : card.queued = []) :
    let run := (Port.write ⟨channel⟩ w).run card
    run.result = (card.store.put w).1 ∧
      run.state.store = (card.store.put w).2 ∧ run.state.queued = [] := by
  -- the result of a write depends on the reply alone
  obtain ⟨hreply, hstore, hqueued⟩ := control_write h hidle
  have hresult := congrArg w.request.confirm hreply
  rw [Store.confirm_verdict] at hresult
  rw [Port.write_run]
  exact ⟨hresult, hstore, hqueued⟩

end Card

end SerialCard
