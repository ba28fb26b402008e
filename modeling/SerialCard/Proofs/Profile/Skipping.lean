import Mathlib.Data.List.Basic
import SerialCard.Proofs.Profile.Plan

/-!
# Leaving out what a card lacks

A profile says whether settings that the card lacks are left out. Its plan does not depend on that,
and so a strict and a lenient application of a profile look at the same answers; they differ in
which of them are fatal. As long as no answer complains that the card lacks a feature, the two agree
(`agree_or_lacking`). With the first such complaint the strict application ends, and the lenient
one goes on from there (`skipping_extends_run`).
-/

namespace SerialCard

variable {σ : Type}

/-! ### Answers, strictly and leniently -/

namespace Answered

variable {a : Answered}

theorem isSkipped_false (a : Answered) : a.isSkipped false = false := by
  obtain ⟨step, fault | bytes⟩ := a
  · cases fault <;> rfl
  · rfl

theorem isSkipped_true_iff : a.isSkipped true = true ↔ a.reply = .error .unsupported := by
  obtain ⟨step, fault | bytes⟩ := a
  · cases fault <;> simp [isSkipped]
  · simp [isSkipped]

theorem not_isFatal_of_isAccepted (h : a.isAccepted = true) (skip : Bool) :
    ¬ a.isFatal skip = true := by
  simp [isFatal, h]

/-- To the strict, whatever is not accepted is fatal. -/
theorem isFatal_false_iff : a.isFatal false = true ↔ ¬ a.isAccepted = true := by
  simp [isFatal, isSkipped_false]

/-- What is not accepted is fatal to the lenient as well, unless the card lacks the feature. -/
theorem isFatal_true_iff :
    a.isFatal true = true ↔ ¬ a.isAccepted = true ∧ a.reply ≠ .error .unsupported := by
  simp [isFatal, ← isSkipped_true_iff]

/-- A channel that accepts a write gives nothing back. -/
theorem reply_of_isAccepted (h : a.isAccepted = true) : a.reply = .ok [] := by
  obtain ⟨step, fault | bytes⟩ := a
  · cases h
  · exact congrArg Except.ok (List.isEmpty_iff.mp h)

theorem isSkipped_of_isAccepted (h : a.isAccepted = true) (skip : Bool) :
    a.isSkipped skip = false := by
  rw [isSkipped, reply_of_isAccepted h]

end Answered

/-- The strict goes through no more answers than the lenient. -/
theorem upToFatal_false_prefix_true (answered : List Answered) :
    upToFatal false answered <+: upToFatal true answered := by
  induction answered with
  | nil => exact List.prefix_rfl
  | cons a rest ih =>
    rw [upToFatal, upToFatal, List.cons_prefix_cons]
    refine ⟨rfl, ?_⟩
    by_cases hacc : a.isAccepted = true
    · rw [if_neg (Answered.not_isFatal_of_isAccepted hacc false),
        if_neg (Answered.not_isFatal_of_isAccepted hacc true)]
      exact ih
    · rw [if_pos (Answered.isFatal_false_iff.mpr hacc)]
      exact List.nil_prefix

namespace ApplyReport

theorem conclude_append_of_fatal {skip : Bool} {before : List Answered}
    (h : ∀ b ∈ before, ¬ b.isFatal skip = true) {a : Answered} (ha : a.isFatal skip = true)
    (rest : List Answered) : conclude skip (before ++ a :: rest) = .error a.error := by
  have hfirst : (before ++ a :: rest).find? (Answered.isFatal skip) = some a := by
    rw [List.find?_append, List.find?_eq_none.mpr h, Option.none_or, List.find?_cons, ha]
  rw [conclude, hfirst]

/-- A strict report leaves nothing out. -/
theorem skipped_of_conclude {answered : List Answered} {report : ApplyReport}
    (h : conclude false answered = .ok report) : report.skipped = [] := by
  have hnone : answered.filter (Answered.isSkipped false) = [] :=
    List.filter_eq_nil_iff.mpr fun a _ => by simp [a.isSkipped_false]
  rw [eq_ofAnswered_of_conclude h, ofAnswered, hnone, List.map_nil]

/-- The first setting a lenient report leaves out is the first that the card lacks. -/
theorem head?_skipped_of_conclude {before rest : List Answered} {a : Answered}
    (hbefore : ∀ b ∈ before, b.isAccepted = true) (ha : a.reply = .error .unsupported)
    {report : ApplyReport} (h : conclude true (before ++ a :: rest) = .ok report) :
    report.skipped.head? = some a.step.name := by
  have hnone : before.filter (Answered.isSkipped true) = [] :=
    List.filter_eq_nil_iff.mpr fun b hb => by
      simp [Answered.isSkipped_of_isAccepted (hbefore b hb)]
  rw [eq_ofAnswered_of_conclude h]
  simp only [ofAnswered, List.filter_append, hnone, List.nil_append,
    List.filter_cons_of_pos (Answered.isSkipped_true_iff.mpr ha), List.map_cons, List.head?_cons]

end ApplyReport

/-- **Strict and lenient.** Either it makes no difference whether settings are left out, or all is
accepted up to an answer by which the card lacks a feature. -/
theorem agree_or_lacking (answered : List Answered) :
    (upToFatal true answered = upToFatal false answered ∧
      ApplyReport.conclude true answered = ApplyReport.conclude false answered ∧
      ∀ a ∈ upToFatal false answered, a.isSkipped true = false) ∨
    ∃ before a rest, answered = before ++ a :: rest ∧ (∀ b ∈ before, b.isAccepted = true) ∧
      a.reply = .error .unsupported := by
  induction answered with
  | nil => exact .inl ⟨rfl, rfl, fun a ha => absurd ha List.not_mem_nil⟩
  | cons a rest ih =>
    by_cases hacc : a.isAccepted = true
    · rcases ih with ⟨hmade, hconclude, hnone⟩ | ⟨before, b, others, rfl, hbefore, hb⟩
      · have hskipped := Answered.isSkipped_of_isAccepted hacc
        have hgoes := Answered.not_isFatal_of_isAccepted hacc
        have hreport : ApplyReport.ofAnswered true [a] = ApplyReport.ofAnswered false [a] := by
          simp [ApplyReport.ofAnswered, hskipped]
        refine .inl ⟨?_, ?_, ?_⟩
        · rw [upToFatal, upToFatal, if_neg (hgoes true), if_neg (hgoes false), hmade]
        · rw [ApplyReport.conclude_cons (hgoes true), ApplyReport.conclude_cons (hgoes false),
            hconclude, hreport]
        · rw [upToFatal, if_neg (hgoes false)]
          exact List.forall_mem_cons.mpr ⟨hskipped true, hnone⟩
      · exact .inr ⟨a :: before, b, others, rfl, List.forall_mem_cons.mpr ⟨hacc, hbefore⟩, hb⟩
    · by_cases hlack : a.reply = .error .unsupported
      · exact .inr ⟨[], a, rest, rfl, fun b hb => absurd hb List.not_mem_nil, hlack⟩
      · -- an answer that is fatal to both ends both
        have hstrict := Answered.isFatal_false_iff.mpr hacc
        have hlenient := Answered.isFatal_true_iff.mpr ⟨hacc, hlack⟩
        refine .inl ⟨?_, ?_, ?_⟩
        · rw [upToFatal, upToFatal, if_pos hstrict, if_pos hlenient]
        · rw [ApplyReport.conclude_cons_of_fatal hlenient,
            ApplyReport.conclude_cons_of_fatal hstrict]
        · rw [upToFatal, if_pos hstrict]
          exact List.forall_mem_singleton.mpr
            (Bool.eq_false_iff.mpr (mt Answered.isSkipped_true_iff.mp hlack))

/-! ### Two applications of a profile -/

/-- **Leaving settings out only ever extends a run.** Apply a profile on any channel, in any state
and whatever it answers, once strictly and once so that settings the card lacks are left out. The
requests of the strict run are the first ones of the lenient run. Unless the strict run fails
because the card lacks a feature, the two are one and the same run, and nothing is left out. If they
differ, then the strict run ended with the first answer of this kind, all steps before it having
been accepted, and the setting of that step is the first one left out in a report of the lenient
run. -/
theorem skipping_extends_run (c : Channel σ) (profile : Profile) (s : σ) :
    let strict := (Port.apply ⟨c⟩ { profile with skipUnsupported := false }).run s
    let lenient := (Port.apply ⟨c⟩ { profile with skipUnsupported := true }).run s
    strict.requests <+: lenient.requests ∧
    ((∀ e, strict.result = .error e → e.fault? ≠ some .unsupported) → strict = lenient) ∧
    (∀ report, strict.result = .ok report → report.skipped = []) ∧
    (strict ≠ lenient → ∃ before step rest, profile.plan = before ++ step :: rest ∧
      strict.exchanges =
        before.map (fun earlier => (earlier.request, .ok [])) ++
          [(step.request, .error .unsupported)] ∧
      strict.result = .error (.device step.request.code .unsupported) ∧
      ∀ report, lenient.result = .ok report → report.skipped.head? = some step.name) := by
  intro strict lenient
  -- the plan does not depend on what is left out, so both see the same answers
  let answered := c.answered profile.plan s
  have hstrict : strict.result = ApplyReport.conclude false answered :=
    Port.apply_result ⟨c⟩ { profile with skipUnsupported := false } s
  have hlenient : lenient.result = ApplyReport.conclude true answered :=
    Port.apply_result ⟨c⟩ { profile with skipUnsupported := true } s
  have hexchanges : strict.exchanges =
      (upToFatal false answered).map fun a => (a.step.request, a.reply) :=
    exchanges_apply ⟨c⟩ { profile with skipUnsupported := false } s
  have hrequests : strict.requests <+: lenient.requests := by
    have hmore := exchanges_apply ⟨c⟩ { profile with skipUnsupported := true } s
    rw [← strict.map_fst_exchanges, ← lenient.map_fst_exchanges, hexchanges, hmore]
    exact ((upToFatal_false_prefix_true answered).map _).map _
  have hnothing : ∀ report, strict.result = .ok report → report.skipped = [] := fun report h =>
    ApplyReport.skipped_of_conclude (hstrict ▸ h)
  rcases agree_or_lacking answered with
    ⟨hmade, hconclude, hnone⟩ | ⟨before, a, rest, hsplit, hbefore, ha⟩
  · have htrail : (upToFatal false answered).flatMap (Answered.trail false) =
        (upToFatal false answered).flatMap (Answered.trail true) :=
      List.flatMap_congr fun a ha => by
        rw [Answered.trail, Answered.trail, a.isSkipped_false, hnone a ha]
    have hplan (skip : Bool) : { profile with skipUnsupported := skip }.plan = profile.plan := rfl
    have hsame : strict = lenient := by
      simp only [strict, lenient, Port.apply_run, hplan]
      rw [hmade, hconclude, htrail]
    exact ⟨hrequests, fun _ => hsame, hnothing, fun h => absurd hsame h⟩
  · have hfatal : a.isFatal false = true := Answered.isFatal_false_iff.mpr fun hacc => by
      cases ha.symm.trans (Answered.reply_of_isAccepted hacc)
    have hgoes : ∀ b ∈ before, ¬ b.isFatal false = true := fun b hb =>
      Answered.not_isFatal_of_isAccepted (hbefore b hb) false
    have herror : strict.result = .error (.device a.step.request.code .unsupported) := by
      rw [hstrict, hsplit, ApplyReport.conclude_append_of_fatal hgoes hfatal, Answered.error,
        Answered.fault, ha]
    refine ⟨hrequests, fun h => absurd rfl (h _ herror), hnothing, fun _ => ?_⟩
    refine ⟨before.map Answered.step, a.step, rest.map Answered.step, ?_, ?_, herror, ?_⟩
    · rw [← c.map_step_answered profile.plan s]
      exact (congrArg (List.map Answered.step) hsplit).trans List.map_append
    · have hearlier : before.map (fun b => (b.step.request, b.reply)) =
          (before.map Answered.step).map fun earlier => (earlier.request, .ok []) := by
        rw [List.map_map]
        exact List.map_congr_left fun b hb => by
          rw [Answered.reply_of_isAccepted (hbefore b hb), Function.comp_apply]
      rw [hexchanges, hsplit, upToFatal_append hgoes, upToFatal, if_pos hfatal, List.map_append,
        hearlier, List.map_singleton, ha]
    · intro report hreport
      rw [hlenient, hsplit] at hreport
      exact ApplyReport.head?_skipped_of_conclude hbefore ha hreport

end SerialCard
