import SerialCard.Proofs.Card.Cells

/-!
# Profiles overwrite

To apply a profile to a faithful card is to overwrite some of its cells. What is written and what is
reported depends on what the card refuses, never on what its cells hold. So a profile that is
applied again goes the same way and finds all its writes made already; and a profile applied after
another leaves behind what the two leave as one profile, laid over each other (`apply_overwrites`).
That the writes of the two are then made in another order does not matter, as each cell is written
for one setting only.
-/

namespace SerialCard

namespace Card

variable {card : Card DeviceFault} {clock : Bool}

private theorem eq_of_cells {card other : Card DeviceFault}
    (hcells : ∀ cell, card.cells cell = other.cells cell)
    (hrefusals : card.refusals = other.refusals) (hqueued : card.queued = other.queued) :
    card = other := by
  obtain ⟨cells, refusals, queued⟩ := card
  obtain rfl : cells = other.cells := funext hcells
  obtain rfl : refusals = other.refusals := hrefusals
  obtain rfl : queued = other.queued := hqueued
  rfl

/-! ### Writes made again, and writes after others -/

theorem takes_absorbAll {ws : List Write} {w : Write} {cell : Operation} :
    (card.absorbAll clock ws).Takes clock w cell ↔ card.Takes clock w cell := by
  rw [Takes, Takes, absorbAll_refusals]

/-- Writes to different settings, made again, find everything done. -/
theorem absorbAll_absorbAll {ws : List Write} (htable : ∀ w ∈ ws, w.setting ∈ Setting.all)
    (hnodup : (ws.map Write.setting).Nodup) :
    (card.absorbAll clock ws).absorbAll clock ws = card.absorbAll clock ws := by
  refine eq_of_cells (fun cell => ?_) absorbAll_refusals absorbAll_queued
  by_cases h : ∃ w ∈ ws, card.Takes clock w cell
  · obtain ⟨w, hw, htakes⟩ := h
    rw [absorbAll_cells_of_mem htable hnodup hw (takes_absorbAll.mpr htakes),
      absorbAll_cells_of_mem htable hnodup hw htakes]
  · exact absorbAll_cells_of_not_mem fun w hw htakes => h ⟨w, hw, takes_absorbAll.mp htakes⟩

/-- A card that refuses nothing takes the writes of a profile after those of another as the writes
of the one over the other. -/
theorem absorbAll_laidOver (hopen : ∀ code, card.refusals code = none) (upper lower : Profile) :
    (card.absorbAll clock lower.writes).absorbAll clock upper.writes =
      card.absorbAll clock (upper.laidOver lower).writes := by
  have htable (profile : Profile) : ∀ w ∈ profile.writes, w.setting ∈ Setting.all :=
    fun w => profile.setting_mem_all
  refine eq_of_cells (fun cell => ?_) ?_ ?_
  · by_cases hupper : ∃ w ∈ upper.writes, card.Takes clock w cell
    · obtain ⟨w, hw, htakes⟩ := hupper
      rw [absorbAll_cells_of_mem (htable _) upper.nodup_setting_writes hw
          (takes_absorbAll.mpr htakes),
        absorbAll_cells_of_mem (htable _) (upper.laidOver lower).nodup_setting_writes
          (Profile.mem_writes_laidOver_of_upper hw) htakes]
    · rw [absorbAll_cells_of_not_mem fun w hw htakes => hupper ⟨w, hw, takes_absorbAll.mp htakes⟩]
      by_cases hlower : ∃ w ∈ lower.writes, card.Takes clock w cell
      · obtain ⟨w, hw, htakes⟩ := hlower
        -- the upper profile has nothing for the setting, as its write would go into the same cell
        have hother : ∀ u ∈ upper.writes, u.setting ≠ w.setting := fun u hu hsame =>
          hupper ⟨u, hu, hopen _, hsame ▸ htakes.2⟩
        rw [absorbAll_cells_of_mem (htable _) lower.nodup_setting_writes hw htakes,
          absorbAll_cells_of_mem (htable _) (upper.laidOver lower).nodup_setting_writes
            (Profile.mem_writes_laidOver_of_lower hw hother) htakes]
      · rw [absorbAll_cells_of_not_mem fun w hw htakes => hlower ⟨w, hw, htakes⟩,
          absorbAll_cells_of_not_mem fun w hw htakes => ?_]
        rcases Profile.mem_writes_of_laidOver hw with hw | hw
        · exact hupper ⟨w, hw, htakes⟩
        · exact hlower ⟨w, hw, htakes⟩
  · rw [absorbAll_refusals, absorbAll_refusals, absorbAll_refusals]
  · rw [absorbAll_queued, absorbAll_queued, absorbAll_queued]

/-! ### Applying a profile -/

variable (profile : Profile)

/-- Applied again, a profile goes the same way. -/
theorem judged_absorbAll (ws : List Write) :
    (card.absorbAll clock ws).judged profile = card.judged profile := by
  simp only [judged, Store.verdict, store, absorbAll_refusals]

/-- On a card that refuses nothing all writes are made. -/
theorem made_of_open (hopen : ∀ code, card.refusals code = none) :
    card.made profile = profile.writes := by
  have hgoes : ∀ a ∈ card.judged profile, a.isFatal profile.skipUnsupported = false := by
    intro a ha
    obtain ⟨w, -, rfl⟩ := List.mem_map.mp ha
    simp only [Answered.isFatal, Answered.isAccepted, Store.verdict, store, hopen,
      List.isEmpty_nil, Bool.not_true, Bool.false_and]
  have hlength : (card.judged profile).length = profile.writes.length := List.length_map _
  rw [made, List.findIdx_eq_length.mpr hgoes, hlength]
  exact List.take_of_length_le (Nat.le_succ _)

/-- A profile applied again runs as it did, whatever the first application came to. -/
theorem apply_again (hidle : card.queued = []) :
    let run := (Port.apply ⟨keeping clock⟩ profile).run
    run (run card).state = run card := by
  intro run
  have hstate : (run card).state = card.absorbAll clock (card.made profile) :=
    state_apply profile hidle
  have hagain : (run card).state.queued = [] := by rw [hstate, absorbAll_queued, hidle]
  have hjudged : (run card).state.judged profile = card.judged profile := by
    rw [hstate, judged_absorbAll]
  -- the same writes are made, and they find everything done
  have hsettled : (run (run card).state).state = (run card).state := by
    have hmade : (run card).state.made profile = card.made profile := by rw [made, made, hjudged]
    have hnodup : ((card.made profile).map Write.setting).Nodup :=
      profile.nodup_setting_writes.sublist ((List.take_sublist _ _).map _)
    have htable : ∀ w ∈ card.made profile, w.setting ∈ Setting.all :=
      setting_mem_all_of_mem_made profile
    calc (run (run card).state).state
        = (run card).state.absorbAll clock ((run card).state.made profile) :=
          state_apply profile hagain
      _ = (card.absorbAll clock (card.made profile)).absorbAll clock (card.made profile) := by
          rw [hmade, hstate]
      _ = (run card).state := by rw [absorbAll_absorbAll htable hnodup, hstate]
  refine Port.apply_run_congr _ ?_ hsettled
  exact ((answered_plan profile hagain).trans hjudged).trans (answered_plan profile hidle).symm

end Card

/-- **Profiles overwrite.** Take a card that keeps the clock rate or drops it, with any bytes in its
cells. Whatever codes it refuses, with whatever faults, to apply a profile a second time is the very
same run as the first time: the same requests and answers, the same report or error, the same
records, and the card is left as it was found. If the card refuses nothing, to apply a profile
and then another leaves it as applying the second over the first does. -/
theorem apply_overwrites (clock : Bool) (cells : Operation → Option Bytes)
    (refusals : ControlCode → Option DeviceFault) (first second : Profile) :
    let apply (profile : Profile) := (Port.apply ⟨Card.keeping clock⟩ profile).run
    let card : Card DeviceFault := { cells, refusals }
    let permissive : Card DeviceFault := { cells }
    apply first (apply first card).state = apply first card ∧
      (apply second (apply first permissive).state).state =
        (apply (second.laidOver first) permissive).state := by
  intro apply card permissive
  refine ⟨Card.apply_again first rfl, ?_⟩
  have hopen (code : ControlCode) : permissive.refusals code = none := rfl
  have hfirst : (apply first permissive).state = permissive.absorbAll clock first.writes := by
    rw [← Card.made_of_open first hopen]
    exact Card.state_apply first rfl
  have hidle : ((apply first permissive).state).queued = [] := by
    rw [hfirst, Card.absorbAll_queued]
  have hstillOpen (code : ControlCode) : ((apply first permissive).state).refusals code = none := by
    rw [hfirst, Card.absorbAll_refusals]
  calc (apply second (apply first permissive).state).state
      = ((apply first permissive).state).absorbAll clock second.writes := by
        rw [← Card.made_of_open second hstillOpen]
        exact Card.state_apply second hidle
    _ = permissive.absorbAll clock (second.laidOver first).writes := by
        rw [hfirst, Card.absorbAll_laidOver hopen]
    _ = (apply (second.laidOver first) permissive).state := by
        rw [← Card.made_of_open (second.laidOver first) hopen]
        exact (Card.state_apply (second.laidOver first) rfl).symm

end SerialCard
