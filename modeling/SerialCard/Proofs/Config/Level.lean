import SerialCard.Proofs.Config.Load
import SerialCard.Proofs.Text.Uppercase

/-!
# Names of levels

A configuration may write the name of a filter in any case, and case is a matter of all characters
there are: a name counts if its upper case is that of a filter. `Filter.Spelling` lists what that
comes to. Each name may be written in letters of either case; beyond that there is a dotless i for
the first letter of INFO, and a ligature for the double f of OFF. Nothing else is taken for a level
(`uppercase_eq_name_iff`), since of what becomes capitals in any other way only these two occur in a
name, and the complaint about anything else quotes it as it was written (`filter_iff_spelling`).
-/

namespace SerialCard

open Text

/-- The ways to write the name of a filter. -/
inductive Filter.Spelling : Filter → List Char → Prop
  /-- The letters of the name, each in either case. -/
  | letters {f : Filter} {cs : List Char} :
    List.Forall₂ IsCaseOf f.name.toList cs → Spelling f cs
  /-- A dotless i for the first letter of INFO. -/
  | dotless {cs : List Char} :
    List.Forall₂ IsCaseOf ['N', 'F', 'O'] cs → Spelling (.upTo .info) ('\u0131' :: cs)
  /-- A ligature for the double f of OFF. -/
  | ligature {c : Char} : IsCaseOf 'O' c → Spelling .off [c, '\uFB00']

/-- The name of a filter is made of capitals. -/
theorem Filter.isUpper_of_mem_name (f : Filter) : ∀ x ∈ f.name.toList, x.isUpper := by
  have hall : f.name.toList.all Char.isUpper := by
    rcases f with _ | _ | _ | _ | _ | _ <;> decide
  exact List.all_eq_true.mp hall

/-- The upper case of a spelling is the name. -/
theorem Filter.Spelling.flatMap_upper {f : Filter} {cs : List Char} (h : f.Spelling cs) :
    cs.flatMap upper = f.name.toList := by
  cases h with
  | letters h => exact flatMap_upper_of_cases h f.isUpper_of_mem_name
  | dotless h =>
    have hrest := flatMap_upper_of_cases h (List.all_eq_true.mp rfl)
    have hdotless : upper '\u0131' = ['I'] := by decide +kernel
    rw [List.flatMap_cons, hrest, hdotless]
    rfl
  | ligature h =>
    have hligature : upper '\uFB00' = ['F', 'F'] := by decide +kernel
    rw [List.flatMap_cons, List.flatMap_singleton, upper_of_isCaseOf rfl h, hligature]
    rfl

/-- A text whose upper case is INFO is a spelling of it. -/
theorem Filter.spelling_info {cs : List Char} (h : cs.flatMap upper = ['I', 'N', 'F', 'O']) :
    (upTo .info).Spelling cs := by
  have hplain {rest : List Char} :
      rest.flatMap upper = ['N', 'F', 'O'] ↔ List.Forall₂ IsCaseOf ['N', 'F', 'O'] rest :=
    flatMap_upper_eq_iff_of_plain (List.all_eq_true.mp rfl) (by decide +kernel)
  have hstart : ∀ fold ∈ capitalFolds, fold.2 <+: ['I', 'N', 'F', 'O'] →
      fold = ('\u0131', ['I']) := by decide +kernel
  obtain ⟨c, rest, rfl, ⟨hcase, hrest⟩ | ⟨vs, hfold, hvs⟩⟩ :=
    flatMap_upper_eq_cons h (List.all_eq_true.mp rfl)
  · exact .letters (.cons hcase (hplain.mp hrest))
  · obtain ⟨rfl, rfl⟩ := Prod.mk.inj (hstart _ hfold ⟨_, hvs⟩)
    exact .dotless (hplain.mp (List.cons.inj hvs).2)

/-- A text whose upper case is OFF is a spelling of it. -/
theorem Filter.spelling_off {cs : List Char} (h : cs.flatMap upper = ['O', 'F', 'F']) :
    off.Spelling cs := by
  have hplain {last : List Char} :
      last.flatMap upper = ['F'] ↔ List.Forall₂ IsCaseOf ['F'] last :=
    flatMap_upper_eq_iff_of_plain (List.all_eq_true.mp rfl) (by decide +kernel)
  have hstart : ∀ fold ∈ capitalFolds, ¬ fold.2 <+: ['O', 'F', 'F'] := by decide +kernel
  have hdouble : ∀ fold ∈ capitalFolds, fold.2 <+: ['F', 'F'] →
      fold = ('\uFB00', ['F', 'F']) := by decide +kernel
  obtain ⟨o, rest, rfl, ⟨hcase, hrest⟩ | ⟨vs, hfold, hvs⟩⟩ :=
    flatMap_upper_eq_cons h (List.all_eq_true.mp rfl)
  · obtain ⟨c, last, rfl, ⟨hfirst, hlast⟩ | ⟨vs, hfold, hvs⟩⟩ :=
      flatMap_upper_eq_cons hrest (List.all_eq_true.mp rfl)
    · exact .letters (.cons hcase (.cons hfirst (hplain.mp hlast)))
    · obtain ⟨rfl, rfl⟩ := Prod.mk.inj (hdouble _ hfold ⟨_, hvs⟩)
      obtain rfl := flatMap_upper_eq_nil_iff.mp (List.cons.inj (List.cons.inj hvs).2).2
      exact .ligature hcase
  · exact absurd ⟨_, hvs⟩ (hstart _ hfold)

/-- A text has the name of a filter for its upper case exactly if it is a spelling of the name. -/
theorem uppercase_eq_name_iff {s : String} {f : Filter} :
    Text.uppercase s = f.name ↔ f.Spelling s.toList := by
  rw [← String.toList_inj, toList_uppercase]
  refine ⟨fun h => ?_, Filter.Spelling.flatMap_upper⟩
  have hplain (h' : ∀ fold ∈ capitalFolds, ¬ fold.2 <:+: f.name.toList) : f.Spelling s.toList :=
    .letters ((flatMap_upper_eq_iff_of_plain f.isUpper_of_mem_name h').mp h)
  rcases f with _ | level
  · exact Filter.spelling_off h
  · cases level with
    | info => exact Filter.spelling_info h
    | error | warn | debug | trace => exact hplain (by decide +kernel)

/-- A configuration has the filter whose name is its level in upper case. -/
theorem LoggingConfig.filter_eq_ok_iff {logging : LoggingConfig} {f : Filter} :
    logging.filter = .ok f ↔ Text.uppercase logging.level = f.name := by
  have hfound : Filter.all.find? (fun g => g.name == f.name) = some f := by
    rcases f with _ | _ | _ | _ | _ | _ <;> decide
  rw [LoggingConfig.filter]
  constructor
  · intro h
    split at h
    · next g hg =>
      obtain rfl := Except.ok.inj h
      have hname := List.find?_some hg
      exact (beq_iff_eq.mp hname).symm
    · cases h
  · intro h
    rw [h, hfound]

/-- **A level is a name in any case, and nothing else.** The filter of a configuration is the one
whose name the level spells: in letters of either case, with a dotless i in INFO, or with a ligature
in OFF. A level that spells no name is refused, and the complaint has the level as it is written. -/
theorem filter_iff_spelling (logging : LoggingConfig) :
    (∀ f, logging.filter = .ok f ↔ f.Spelling logging.level.toList) ∧
    ∀ cause, logging.filter = .error cause ↔
      (∀ f : Filter, ¬ f.Spelling logging.level.toList) ∧ cause = .level logging.level := by
  have hok (f : Filter) : logging.filter = .ok f ↔ f.Spelling logging.level.toList :=
    LoggingConfig.filter_eq_ok_iff.trans uppercase_eq_name_iff
  refine ⟨hok, fun cause => ⟨fun h => ⟨fun f hf => ?_, Config.filter_eq_error h⟩, ?_⟩⟩
  · cases h.symm.trans ((hok f).mpr hf)
  · rintro ⟨hnone, rfl⟩
    cases hfilter : logging.filter with
    | ok f => exact absurd ((hok f).mp hfilter) (hnone f)
    | error cause => rw [Config.filter_eq_error hfilter]

end SerialCard
