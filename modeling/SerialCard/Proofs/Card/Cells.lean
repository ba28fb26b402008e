import SerialCard.Proofs.Card.Store
import SerialCard.Proofs.Profile.Plan
import SerialCard.Proofs.Profile.Slots

/-!
# What writes leave in the cells of a card

A write that a card takes puts bytes into one cell, and it puts them there whatever the cell held
before. Which cell it is depends on the setting alone, and no two settings of the table share one.
The clock rate is not read by any operation; a card may drop it or keep it in a cell of its own, and
`Card.keeping` is the card of either kind.

So a card without queued answers goes through writes in a simple way: the answers are fixed by what
it refuses (`answered_writes`), and in the end a cell holds what the one write of its setting put
there, if that was taken, or what it held at first (`absorbAll_cells_of_mem`,
`absorbAll_cells_of_not_mem`). Of a profile, `Card.made` are the writes that are made.
-/

namespace SerialCard

/-! ### The cells of writes -/

/-- The cell that is written for a setting. That of the clock rate is there only if it is kept. -/
def Setting.cell? (clock : Bool) : Setting → Option Operation
  | .writeOnly _ => if clock then some .setClockRate else none
  | t => t.reader?

/-- The bytes a write leaves in its cell. -/
def Write.content (w : Write) : Bytes :=
  w.bytes?.getD (w.request.input.getD [])

namespace Setting

variable {clock : Bool} {t u : Setting} {cell : Operation}

/-- A cell is read for its setting, or it is that of the clock rate. -/
theorem reads_or_of_cell? (h : t.cell? clock = some cell) :
    cell.reads? = some t ∨ cell = .setClockRate ∧ ∃ s, t = .writeOnly s := by
  cases t with
  | writeOnly s =>
    cases clock with
    | true => exact .inr ⟨(Option.some.inj h).symm, s, rfl⟩
    | false => cases h
  | flag _ | register _ | mode _ | classification _ => exact .inl (reader?_eq_some_iff.mp h)

theorem cell?_of_reads (h : cell.reads? = some t) : t.cell? clock = some cell := by
  cases t with
  | writeOnly s => cases Operation.getCode_of_reads h
  | flag _ | register _ | mode _ | classification _ => exact reader?_eq_some_iff.mpr h

/-- No two settings of the table share a cell. -/
theorem eq_of_cell? (ht : t ∈ Setting.all) (hu : u ∈ Setting.all)
    (htcell : t.cell? clock = some cell) (hucell : u.cell? clock = some cell) : t = u := by
  rcases reads_or_of_cell? htcell with htreads | ⟨rfl, s, rfl⟩
  · rcases reads_or_of_cell? hucell with hureads | ⟨rfl, s, rfl⟩
    · exact Option.some.inj (htreads.symm.trans hureads)
    · cases htreads
  · rcases reads_or_of_cell? hucell with hureads | ⟨-, s', rfl⟩
    · cases hureads
    · -- the clock rate is the only setting of the table that cannot be read
      have hs : s = .clockRate := by simpa [Setting.all] using ht
      have hs' : s' = .clockRate := by simpa [Setting.all] using hu
      rw [hs, hs']

end Setting

namespace Card

variable {card : Card DeviceFault} {clock : Bool} {w : Write} {cell : Operation}

/-- A card as a channel that keeps the clock rate it is set to, if `clock` says so. -/
def keeping (clock : Bool) : Channel (Card DeviceFault) where
  control q := fun card =>
    let answer := channel.control q card
    let isKept := clock && q.code == Operation.setClockRate.code && answer.1.isOk
    (answer.1, if isKept then answer.2.put .setClockRate (q.input.getD []) else answer.2)

theorem keeping_false : keeping false = channel := rfl

/-- The card takes a write and puts its bytes into a cell. -/
def Takes (card : Card DeviceFault) (clock : Bool) (w : Write) (cell : Operation) : Prop :=
  card.refusals w.request.code = none ∧ w.setting.cell? clock = some cell

/-- The card after a write. -/
def absorb (clock : Bool) (card : Card DeviceFault) (w : Write) : Card DeviceFault :=
  match card.refusals w.request.code, w.setting.cell? clock with
  | none, some cell => card.put cell w.content
  | _, _ => card

/-- The card after writes one after the other. -/
def absorbAll (clock : Bool) (card : Card DeviceFault) (ws : List Write) : Card DeviceFault :=
  ws.foldl (absorb clock) card

/-! ### One write -/

/-- A write that leaves bytes in a cell that is read does not set the clock rate. -/
private theorem ne_setClockRate {op : Operation} {q : Request} {bytes : Bytes}
    (h : ∀ card : Card DeviceFault, card.carryOut op.effect op q = ([], card.put cell bytes)) :
    op ≠ .setClockRate := by
  rintro rfl
  have hsame : (none : Option Bytes) = if cell = cell then some bytes else none :=
    congrArg (fun result => result.2.cells cell) (h {})
  rw [if_pos rfl] at hsame
  cases hsame

/-- A card answers a write by what it refuses, and puts the bytes into the cell of the setting. -/
theorem keeping_control_write (clock : Bool) (h : w.setting ∈ Setting.all)
    (hidle : card.queued = []) :
    (keeping clock).control w.request card =
      (card.store.verdict w.request.code, card.absorb clock w) := by
  cases hrefused : card.refusals w.request.code with
  | some fault =>
    simp only [keeping, control_of_refused hidle hrefused, Store.verdict, store, absorb, hrefused,
      Except.isOk, Except.toBool, Bool.and_false, Bool.false_eq_true, if_false]
  | none =>
    obtain ⟨op, hop, heffect⟩ := Write.exists_operation h
    simp only [keeping, control_of_accepted hidle hrefused hop, Store.verdict, store, absorb,
      hrefused]
    rcases heffect with ⟨hvalue, hcarry⟩ | ⟨cell, bytes, hcell, hbytes, hcarry⟩
    · cases w with
      | writeOnly s value =>
        have hs : s = .clockRate := by simpa [Write.setting, Setting.all] using h
        subst hs
        rw [hcarry]
        cases clock <;> rfl
      | flag _ _ | register _ _ | enable _ _ | disable _ => cases hvalue
    · have hcode : w.request.code ≠ Operation.setClockRate.code := fun hcode =>
        ne_setClockRate hcarry (Operation.code_injective (hop.trans hcode))
      have hcontent : w.content = bytes := by rw [Write.content, hbytes, Option.getD_some]
      simp only [hcarry, Setting.cell?_of_reads hcell, hcontent, beq_false_of_ne hcode,
        Bool.and_false, Bool.false_and, Bool.false_eq_true, if_false]

theorem absorb_refusals : (card.absorb clock w).refusals = card.refusals := by
  unfold absorb
  split <;> rfl

theorem absorb_queued : (card.absorb clock w).queued = card.queued := by
  unfold absorb
  split <;> rfl

theorem absorb_cells_of_takes (h : card.Takes clock w cell) :
    (card.absorb clock w).cells cell = some w.content := by
  simp only [absorb, h.1, h.2]
  exact if_pos rfl

theorem absorb_cells_of_not_takes (h : ¬ card.Takes clock w cell) :
    (card.absorb clock w).cells cell = card.cells cell := by
  unfold absorb
  split
  · next other hrefused hother =>
    exact if_neg fun hcell : cell = other => h ⟨hrefused, hcell ▸ hother⟩
  · rfl

/-! ### One read -/

/-- A card stays as it is when a setting of the table is read. -/
theorem keeping_control_read {t : Setting} (h : t ∈ Setting.all) {code : ControlCode}
    (hcode : t.getCode = some code) (hidle : card.queued = []) :
    ((keeping clock).control (t.request code) card).2 = card := by
  obtain ⟨op, hreads, hop⟩ := Setting.exists_reads h hcode
  have hother : op ≠ .setClockRate := by
    rintro rfl
    cases hreads
  have hcode' : code ≠ Operation.setClockRate.code := fun hsame =>
    hother (Operation.code_injective (hop.trans hsame))
  simp only [keeping, Setting.request, beq_false_of_ne hcode', Bool.and_false, Bool.false_and,
    Bool.false_eq_true, if_false]
  exact (control_read h hcode hidle).2

/-! ### Writes one after the other -/

variable {ws : List Write}

theorem absorbAll_refusals : (card.absorbAll clock ws).refusals = card.refusals := by
  induction ws generalizing card with
  | nil => rfl
  | cons w rest ih => exact ih.trans absorb_refusals

theorem absorbAll_queued : (card.absorbAll clock ws).queued = card.queued := by
  induction ws generalizing card with
  | nil => rfl
  | cons w rest ih => exact ih.trans absorb_queued

theorem takes_absorb {u : Write} :
    (card.absorb clock u).Takes clock w cell ↔ card.Takes clock w cell := by
  rw [Takes, Takes, absorb_refusals]

/-- A cell that no write is put into keeps what it holds. -/
theorem absorbAll_cells_of_not_mem (h : ∀ w ∈ ws, ¬ card.Takes clock w cell) :
    (card.absorbAll clock ws).cells cell = card.cells cell := by
  induction ws generalizing card with
  | nil => rfl
  | cons w rest ih =>
    have hrest : ∀ u ∈ rest, ¬ (card.absorb clock w).Takes clock u cell := fun u hu =>
      mt takes_absorb.mp (h u (List.mem_cons_of_mem w hu))
    exact (ih hrest).trans (absorb_cells_of_not_takes (h w List.mem_cons_self))

/-- A cell holds what the one write of its setting put there. -/
theorem absorbAll_cells_of_mem (htable : ∀ w ∈ ws, w.setting ∈ Setting.all)
    (hnodup : (ws.map Write.setting).Nodup) (hw : w ∈ ws) (h : card.Takes clock w cell) :
    (card.absorbAll clock ws).cells cell = some w.content := by
  induction ws generalizing card with
  | nil => cases hw
  | cons first rest ih =>
    have htables : ∀ u ∈ rest, u.setting ∈ Setting.all := fun u hu =>
      htable u (List.mem_cons_of_mem first hu)
    rw [List.map_cons, List.nodup_cons] at hnodup
    rcases List.mem_cons.mp hw with rfl | hw
    · -- the write itself: the rest is about other settings, and so about other cells
      have hrest : ∀ u ∈ rest, ¬ (card.absorb clock w).Takes clock u cell := fun u hu hu' => by
        have hsame : w.setting = u.setting :=
          Setting.eq_of_cell? (htable w List.mem_cons_self) (htables u hu) h.2 hu'.2
        exact hnodup.1 (hsame ▸ List.mem_map_of_mem hu)
      exact (absorbAll_cells_of_not_mem hrest).trans (absorb_cells_of_takes h)
    · exact ih htables hnodup.2 hw (takes_absorb.mpr h)

/-- What the writes of a list come to on a card. -/
theorem answered_writes (clock : Bool) (htable : ∀ w ∈ ws, w.setting ∈ Setting.all)
    (hidle : card.queued = []) :
    (keeping clock).answered (ws.map Write.planStep) card =
      ws.map fun w => ⟨w.planStep, card.store.verdict w.request.code⟩ := by
  induction ws generalizing card with
  | nil => rfl
  | cons w rest ih =>
    have hfirst := keeping_control_write clock (htable w List.mem_cons_self) hidle
    have hqueued : (card.absorb clock w).queued = [] := absorb_queued.trans hidle
    -- what is refused stays the same, so the rest can be judged by the first card
    have hverdict (code : ControlCode) :
        (card.absorb clock w).store.verdict code = card.store.verdict code := by
      simp only [Store.verdict, store, absorb_refusals]
    simp only [List.map_cons, Channel.answered, Write.planStep_request, hfirst,
      ih (fun u hu => htable u (List.mem_cons_of_mem w hu)) hqueued, hverdict]

/-- The requests of writes leave a card behind that has taken the writes. -/
theorem after_writes (htable : ∀ w ∈ ws, w.setting ∈ Setting.all) (hidle : card.queued = []) :
    (keeping clock).after (ws.map Write.request) card = card.absorbAll clock ws := by
  induction ws generalizing card with
  | nil => rfl
  | cons w rest ih =>
    have hfirst := keeping_control_write clock (htable w List.mem_cons_self) hidle
    have hqueued : (card.absorb clock w).queued = [] := absorb_queued.trans hidle
    rw [List.map_cons, Channel.after, hfirst]
    exact ih (fun u hu => htable u (List.mem_cons_of_mem w hu)) hqueued

/-! ### Applying a profile -/

/-- What the plan of a profile comes to on a card, by what the card refuses. -/
def judged (card : Card DeviceFault) (profile : Profile) : List Answered :=
  profile.writes.map fun w => ⟨w.planStep, card.store.verdict w.request.code⟩

/-- The writes of a profile that are made on a card: those up to the first that is fatal. -/
def made (card : Card DeviceFault) (profile : Profile) : List Write :=
  profile.writes.take
    ((card.judged profile).findIdx (Answered.isFatal profile.skipUnsupported) + 1)

variable (profile : Profile)

theorem answered_plan (hidle : card.queued = []) :
    (keeping clock).answered profile.plan card = card.judged profile := by
  rw [← profile.map_planStep_writes]
  exact answered_writes clock (fun w => profile.setting_mem_all) hidle

/-- The answers up to the first fatal one are those to the writes that are made. -/
theorem upToFatal_judged :
    upToFatal profile.skipUnsupported (card.judged profile) =
      (card.made profile).map fun w => ⟨w.planStep, card.store.verdict w.request.code⟩ := by
  rw [upToFatal_eq_take, made, List.map_take]
  rfl

theorem setting_mem_all_of_mem_made : ∀ w ∈ card.made profile, w.setting ∈ Setting.all :=
  fun _ hw => profile.setting_mem_all (List.mem_of_mem_take hw)

/-- Applying a profile to a card leaves a card behind that has taken the writes that were made. -/
theorem state_apply (hidle : card.queued = []) :
    ((Port.apply ⟨keeping clock⟩ profile).run card).state =
      card.absorbAll clock (card.made profile) := by
  have hstate := Port.apply_state ⟨keeping clock⟩ profile card
  rw [answered_plan profile hidle, upToFatal_judged, List.map_map] at hstate
  rw [hstate]
  exact after_writes (setting_mem_all_of_mem_made profile) hidle

end Card

end SerialCard
