import SerialCard.Proofs.Card.Store

/-!
# Calls on a faithful card

A call on a port reads or writes one setting, and `Call.use?` says which: the named accessors are
bound to their settings here. Between calls a card may be tampered with, by forcing the bytes
of a cell or by changing what it refuses. `card_refines_store` says that any run of such moves goes
on the card as it goes on its store.
-/

namespace SerialCard

variable {σ : Type}

/-! ### What a call comes to -/

/-- A value as the accessors of its shape give it back. -/
def Answer.typed : SettingValue → Answer
  | .flag on => .flag on
  | .word number => .word number
  | .mode number => .mode number
  | .card kind => .card kind

/-- A use of one setting. -/
inductive Use where
  /-- Read it, and present its value. -/
  | get (t : Setting) (present : SettingValue → Answer)
  /-- Write it. -/
  | put (w : Write)

/-- The setting that is used. -/
def Use.setting : Use → Setting
  | get t _ => t
  | put w => w.setting

/-- The use a named accessor makes of its setting. -/
def Accessor.use : Accessor → Use
  | rs485 => .get (.flag .rs485) .typed
  | setRs485 on => .put (.flag .rs485 on)
  | echoCancel => .get (.flag .echoCancel) .typed
  | setEchoCancel on => .put (.flag .echoCancel on)
  | termination => .get (.flag .termination) .typed
  | setTermination on => .put (.flag .termination on)
  | nineBit => .get (.flag .nineBit) .typed
  | setNineBit on => .put (.flag .nineBit on)
  | sampleRate => .get (.register .sampleRate) .typed
  | setSampleRate rate => .put (.register .sampleRate rate)
  | txTrigger => .get (.register .txTrigger) .typed
  | setTxTrigger level => .put (.register .txTrigger level)
  | rxTrigger => .get (.register .rxTrigger) .typed
  | setRxTrigger level => .put (.register .rxTrigger level)
  | frameLength => .get (.register .frameLength) .typed
  | setFrameLength characters => .put (.register .frameLength characters)
  | setClockRate rate => .put (.writeOnly .clockRate rate)
  | isochronous => .get (.mode .isochronous) .typed
  | enableIsochronous clocks => .put (.enable .isochronous clocks)
  | disableIsochronous => .put (.disable .isochronous)
  | externalTransmit => .get (.mode .externalTransmit) .typed
  | enableExternalTransmit frames => .put (.enable .externalTransmit frames)
  | disableExternalTransmit => .put (.disable .externalTransmit)
  | fixedBaudRate => .get (.mode .fixedBaudRate) .typed
  | enableFixedBaudRate rate => .put (.enable .fixedBaudRate rate)
  | disableFixedBaudRate => .put (.disable .fixedBaudRate)
  | cardType => .get (.classification .cardType) .typed

/-- The use a call makes of a setting, if it is about one setting only. -/
def Call.use? : Call → Option Use
  | named accessor => some accessor.use
  | flag s => some (.get (.flag s) .typed)
  | setFlag s on => some (.put (.flag s on))
  | register s => some (.get (.register s) .typed)
  | setRegister s value => some (.put (.register s value))
  | writeOnly s value => some (.put (.writeOnly s value))
  | mode s => some (.get (.mode s) .typed)
  | enableMode s value => some (.put (.enable s value))
  | disableMode s => some (.put (.disable s))
  | classify s => some (.get (.classification s) .typed)
  | read t => some (.get t .value)
  | snapshot | apply _ => none

namespace Port

variable (p : Port σ)

/-- Uses a setting. -/
def use : Use → Task σ Answer
  | .get t present => present <$> p.read t
  | .put w => (fun _ => .done) <$> p.write w

private theorem typed_flag (s : Flag) : Answer.typed <$> p.read (.flag s) = .flag <$> p.flag s :=
  Functor.map_map ..

private theorem typed_register (s : Register) :
    Answer.typed <$> p.read (.register s) = .word <$> p.register s :=
  Functor.map_map ..

private theorem typed_mode (s : Mode) : Answer.typed <$> p.read (.mode s) = .mode <$> p.mode s :=
  Functor.map_map ..

private theorem typed_classification (s : Classification) :
    Answer.typed <$> p.read (.classification s) = .card <$> p.classify s :=
  Functor.map_map ..

/-- A named accessor is the use it makes of its setting. -/
theorem access_eq_use (a : Accessor) : p.access a = p.use a.use := by
  -- each accessor is the access by its descriptor, up to how the value is presented
  cases a <;> simp only [Accessor.use, use, typed_flag, typed_register, typed_mode,
    typed_classification] <;> rfl

/-- A call is the use it makes of its setting. -/
theorem call_eq_use {c : Call} {u : Use} (h : c.use? = some u) : p.call c = p.use u := by
  cases c with
  | named a =>
    obtain rfl := Option.some.inj h
    exact p.access_eq_use a
  | snapshot | apply _ => cases h
  | flag _ | setFlag _ _ | register _ | setRegister _ _ | writeOnly _ _ | mode _ | enableMode _ _
  | disableMode _ | classify _ | read _ =>
    obtain rfl := Option.some.inj h
    simp only [use, typed_flag, typed_register, typed_mode, typed_classification]
    rfl

end Port

/-! ### Runs -/

/-- Uses a setting of a store. -/
def Store.use (store : Store) : Use → Except PortError Answer × Store
  | .get t present => ((store.get t).map present, store)
  | .put w => ((store.put w).1.map fun _ => .done, (store.put w).2)

/-- Something that happens to a card. -/
inductive Move where
  /-- A call is made on its port. -/
  | call (c : Call)
  /-- The bytes of a cell are forced. -/
  | force (op : Operation) (bytes : Bytes)
  /-- A code is refused from now on. -/
  | refuse (code : ControlCode) (fault : DeviceFault)
  /-- A code is taken again. -/
  | accept (code : ControlCode)

namespace Move

/-- A move whose call, if it is one, uses a setting of the table. -/
def OnTable : Move → Prop
  | call c => ∃ u, c.use? = some u ∧ u.setting ∈ Setting.all
  | _ => True

/-- A move on a card, with the answer to its call. -/
def onCard : Move → Card DeviceFault → Option (Except PortError Answer) × Card DeviceFault
  | call c, card =>
    let run := (Port.call ⟨Card.channel⟩ c).run card
    (some run.result, run.state)
  | force op bytes, card => (none, card.put op bytes)
  | refuse code fault, card => (none, card.refuse code fault)
  | accept code, card => (none, card.accept code)

/-- A move on a store, with the answer to its call. -/
def onStore : Move → Store → Option (Except PortError Answer) × Store
  | call c, store =>
    match c.use? with
    | some u => (some (store.use u).1, (store.use u).2)
    | none => (none, store)
  | force op bytes, store => (none, store.force op bytes)
  | refuse code fault, store =>
    (none, { store with
      refusals := fun c => if c = code then some fault else store.refusals c })
  | accept code, store =>
    (none, { store with refusals := fun c => if c = code then none else store.refusals c })

/-- Moves one after the other, with the answers to their calls. -/
def all {τ : Type} (move : Move → τ → Option (Except PortError Answer) × τ) :
    List Move → τ → List (Except PortError Answer) × τ
  | [], s => ([], s)
  | m :: rest, s =>
    let first := move m s
    let after := all move rest first.2
    (first.1.toList ++ after.1, after.2)

end Move

/-- Using a setting of the table does to a card what it does to its store. -/
theorem Card.use_run {u : Use} (h : u.setting ∈ Setting.all) {card : Card DeviceFault}
    (hidle : card.queued = []) :
    let run := (Port.use ⟨channel⟩ u).run card
    run.result = (card.store.use u).1 ∧
      run.state.store = (card.store.use u).2 ∧ run.state.queued = [] := by
  cases u with
  | get t present =>
    obtain ⟨hresult, hstate⟩ := read_run (t := t) h hidle
    have hstore := congrArg store hstate
    have hqueued := (congrArg queued hstate).trans hidle
    simp only [Port.use, Task.result_map, Task.state_map]
    exact ⟨congrArg (Except.map present) hresult, hstore, hqueued⟩
  | put w =>
    obtain ⟨hresult, hstore, hqueued⟩ := write_run h hidle
    simp only [Port.use, Task.result_map, Task.state_map]
    exact ⟨congrArg (Except.map fun _ => Answer.done) hresult, hstore, hqueued⟩

/-- A move does to a card what it does to its store. -/
theorem Move.onCard_store {m : Move} (h : m.OnTable) {card : Card DeviceFault}
    (hidle : card.queued = []) :
    (m.onCard card).1 = (m.onStore card.store).1 ∧
      (m.onCard card).2.store = (m.onStore card.store).2 ∧ (m.onCard card).2.queued = [] := by
  cases m with
  | call c =>
    obtain ⟨u, hu, htable⟩ := h
    obtain ⟨hresult, hstore, hqueued⟩ := Card.use_run htable hidle
    simp only [onCard, onStore, hu, Port.call_eq_use _ hu]
    exact ⟨congrArg some hresult, hstore, hqueued⟩
  | force op bytes => exact ⟨rfl, card.store_put op bytes, hidle⟩
  | refuse code fault => exact ⟨rfl, rfl, hidle⟩
  | accept code => exact ⟨rfl, rfl, hidle⟩

/-- **A card is a store of settings.** Take a card with any bytes in its cells and any codes
refused, and any moves, in any order: calls of the named accessors and of the accesses by
descriptor of the table, and between them any tampering. The calls are answered as they are
on the store that the card shows, and the card shows in the end what has become of that store. -/
theorem card_refines_store (cells : Operation → Option Bytes)
    (refusals : ControlCode → Option DeviceFault) (moves : List Move)
    (h : ∀ m ∈ moves, m.OnTable) :
    let card : Card DeviceFault := { cells, refusals }
    (Move.all Move.onCard moves card).1 = (Move.all Move.onStore moves card.store).1 ∧
      (Move.all Move.onCard moves card).2.store = (Move.all Move.onStore moves card.store).2 := by
  intro card
  have hidle : card.queued = [] := rfl
  generalize card = card at hidle
  -- what a move leaves behind is again a card without queued answers
  induction moves generalizing card with
  | nil => exact ⟨rfl, rfl⟩
  | cons m rest ih =>
    obtain ⟨hanswer, hstore, hqueued⟩ := Move.onCard_store (h m List.mem_cons_self) hidle
    obtain ⟨hanswers, hstores⟩ :=
      ih (fun m' hm' => h m' (List.mem_cons_of_mem m hm')) _ hqueued
    simp only [Move.all, hanswer, hanswers, hstores, hstore]
    exact ⟨trivial, trivial⟩

/-- A run on an empty card: a number is written, the family of the card is forced to one that is not
known, and a write is refused, which leaves its setting as it was. -/
theorem card_refines_store_tampered :
    let moves : List Move :=
      [.call (.named (.setTxTrigger 32)), .force .getCardType [9, 0, 0, 0],
        .refuse Operation.setRxTrigger.code .unsupported, .call (.setRegister .rxTrigger 5),
        .call (.named .rxTrigger), .call (.read (.register .txTrigger)), .call (.named .cardType)]
    (∀ m ∈ moves, m.OnTable) ∧
      (Move.all Move.onCard moves {}).1 =
        [.ok .done, .error (.device Operation.setRxTrigger.code .unsupported), .ok (.word 0),
          .ok (.value (.word 32)), .error (.unrecognizedCard 9)] := by
  intro moves
  have hmoves : ∀ m ∈ moves, m.OnTable := by
    simp only [moves, List.forall_mem_cons, List.not_mem_nil, false_implies, implies_true,
      Move.OnTable, and_true, true_and]
    exact ⟨⟨_, rfl, by decide⟩, ⟨_, rfl, by decide⟩, ⟨_, rfl, by decide⟩, ⟨_, rfl, by decide⟩,
      ⟨_, rfl, by decide⟩⟩
  refine ⟨hmoves, ?_⟩
  exact (card_refines_store (fun _ => none) (fun _ => none) moves hmoves).1.trans rfl

end SerialCard
