import Mathlib.Data.List.Basic
import SerialCard.Text.Uppercase

/-!
# Texts whose upper case is made of capitals

Upper-casing may lengthen a text and may bring characters from all over into the alphabet of
capitals A to Z. Those that come into it other than as small letters are few: `capitalFolds` lists
them with what they become, and `upper_capitals` says that there are no others. It rests on a look
at every stretch and every expansion of the mapping, and covers all characters by that.

So a text whose upper case is made of capitals can be read from the front: it starts with a letter
in either case, or with one of the few (`flatMap_upper_eq_cons`). If none of what these become
occurs in the upper case, the text is the same letters in either case
(`flatMap_upper_eq_iff_of_plain`).
-/

namespace SerialCard.Text

/-! ### Characters -/

/-- The upper case of a character. -/
def upper (c : Char) : List Char :=
  (Uppercase.ofCodePoint c.toNat).map Char.ofNat

theorem toList_uppercase (s : String) : (uppercase s).toList = s.toList.flatMap upper :=
  String.toList_ofList

/-- Whether a character is a capital or its small letter. -/
def IsCaseOf (u c : Char) : Prop :=
  c = u ∨ c = u.toLower

/-- The characters that become capitals and are neither capitals nor small letters: the sharp s, the
dotless i, the long s, and the ligatures of Latin letters. -/
def capitalFolds : List (Char × List Char) :=
  [('\u00DF', ['S', 'S']), ('\u0131', ['I']), ('\u017F', ['S']), ('\uFB00', ['F', 'F']),
    ('\uFB01', ['F', 'I']), ('\uFB02', ['F', 'L']), ('\uFB03', ['F', 'F', 'I']),
    ('\uFB04', ['F', 'F', 'L']), ('\uFB05', ['S', 'T']), ('\uFB06', ['S', 'T'])]

theorem isUpper_iff {c : Char} : c.isUpper ↔ 65 ≤ c.toNat ∧ c.toNat ≤ 90 := by
  have hbounds : c.isUpper = decide (65 ≤ c.val ∧ c.val ≤ 90) := rfl
  simp [hbounds, UInt32.le_iff_toNat_le, ← Char.toNat_val]

/-- A number that is no character stands for the character zero, which is no capital. -/
theorem bounds_of_isUpper_ofNat {n : Nat} (h : (Char.ofNat n).isUpper) : 65 ≤ n ∧ n ≤ 90 := by
  by_cases hvalid : n.isValidChar
  · have hn : (Char.ofNat n).toNat = n := by
      rw [Char.ofNat, dif_pos hvalid]
      rfl
    rwa [isUpper_iff, hn] at h
  · rw [Char.ofNat, dif_neg hvalid] at h
    exact absurd h (by decide)

namespace Uppercase

/-- What becomes of a character that becomes several. -/
theorem expansions_fold {e : Nat × List Nat} (he : e ∈ expansions)
    (h : ∀ x ∈ e.2.map Char.ofNat, x.isUpper) :
    (Char.ofNat e.1, e.2.map Char.ofNat) ∈ capitalFolds := by
  have hall : ∀ e ∈ expansions, (e.2.map Char.ofNat).all Char.isUpper →
      (Char.ofNat e.1, e.2.map Char.ofNat) ∈ capitalFolds := by decide +kernel
  exact hall e he (List.all_eq_true.mpr h)

/-- A stretch leads beyond the capitals, unless it is that of the small letters or consists of one
character of the list. -/
theorem runs_fold {r : Run} (hr : r ∈ runs) :
    90 < (r.first : Int) + r.distance ∨
      (r.first = 97 ∧ r.last = 122 ∧ r.distance = -32) ∨
      (r.first = r.last ∧ (Char.ofNat r.first,
        [Char.ofNat ((r.first : Int) + r.distance).toNat]) ∈ capitalFolds) := by
  have hall : ∀ r ∈ runs, 90 < (r.first : Int) + r.distance ∨
      (r.first = 97 ∧ r.last = 122 ∧ r.distance = -32) ∨
      (r.first = r.last ∧ (Char.ofNat r.first,
        [Char.ofNat ((r.first : Int) + r.distance).toNat]) ∈ capitalFolds) := by decide +kernel
  exact hall r hr

end Uppercase

open Uppercase

/-- A small letter goes with the capital it becomes. -/
theorem isCaseOf_of_small {n : Nat} (h : 97 ≤ n) (h' : n ≤ 122) :
    IsCaseOf (Char.ofNat (n - 32)) (Char.ofNat n) := by
  have hall : ∀ n ≤ 122, 97 ≤ n → Char.ofNat n = (Char.ofNat (n - 32)).toLower := by decide
  exact .inr (hall n h' h)

/-- The upper case of a character comes from an expansion or from a stretch, or it is the character
itself. -/
theorem upper_cases (c : Char) :
    (∃ e ∈ expansions, e.1 = c.toNat ∧ upper c = e.2.map Char.ofNat) ∨
      (∃ r ∈ runs, r.first ≤ c.toNat ∧ c.toNat ≤ r.last ∧
        upper c = [Char.ofNat ((c.toNat : Int) + r.distance).toNat]) ∨
      upper c = [c] := by
  cases hlookup : expansions.lookup c.toNat with
  | some several =>
    obtain ⟨before, after, hsplit, -⟩ := List.lookup_eq_some_iff.mp hlookup
    have he : (c.toNat, several) ∈ expansions :=
      hsplit ▸ List.mem_append_right before List.mem_cons_self
    exact .inl ⟨_, he, rfl, by simp only [upper, ofCodePoint, hlookup]⟩
  | none =>
    right
    cases hfound : runs.find? fun r => r.covers c.toNat with
    | some r =>
      have hcovers := List.find?_some hfound
      simp only [Run.covers, Bool.and_eq_true, decide_eq_true_eq] at hcovers
      exact .inl ⟨r, List.mem_of_find?_eq_some hfound, hcovers.1.1, hcovers.1.2,
        by simp only [upper, ofCodePoint, hlookup, hfound, List.map_cons, List.map_nil]⟩
    | none =>
      right
      simp only [upper, ofCodePoint, hlookup, hfound, List.map_cons, List.map_nil, Char.ofNat_toNat]

theorem upper_ne_nil (c : Char) : upper c ≠ [] := by
  have hall : ∀ e ∈ expansions, e.2.map Char.ofNat ≠ [] := by decide
  rcases upper_cases c with ⟨e, he, -, hupper⟩ | ⟨r, -, -, -, hupper⟩ | hupper
  · exact hupper ▸ hall e he
  · exact hupper ▸ List.cons_ne_nil _ _
  · exact hupper ▸ List.cons_ne_nil _ _

/-- **Few characters become capitals.** If the upper case of a character is made of capitals, the
character is the capital or its small letter, or it is on the list. -/
theorem upper_capitals {c : Char} (h : ∀ x ∈ upper c, x.isUpper) :
    (∃ u, upper c = [u] ∧ IsCaseOf u c) ∨ (c, upper c) ∈ capitalFolds := by
  have hc : Char.ofNat c.toNat = c := c.ofNat_toNat
  rcases upper_cases c with ⟨e, he, hn, hupper⟩ | ⟨r, hr, hfirst, hlast, hupper⟩ | hupper
  · right
    have hfold := expansions_fold he (hupper ▸ h)
    rwa [hn, hc, ← hupper] at hfold
  · obtain ⟨-, hhigh⟩ := bounds_of_isUpper_ofNat (h _ (hupper ▸ List.mem_cons_self))
    rcases runs_fold hr with hbeyond | ⟨hsmall, hsmall', hdistance⟩ | ⟨hone, hfold⟩
    · omega
    · left
      have hcapital : ((c.toNat : Int) + r.distance).toNat = c.toNat - 32 := by omega
      have hcase := isCaseOf_of_small (n := c.toNat) (by omega) (by omega)
      rw [hc, ← hcapital] at hcase
      exact ⟨_, hupper, hcase⟩
    · right
      have hn : r.first = c.toNat := by omega
      rwa [hn, hc, ← hupper] at hfold
  · exact .inl ⟨c, hupper, .inl rfl⟩

/-- A capital and its small letter become the capital. -/
theorem upper_of_isCaseOf {u c : Char} (hu : u.isUpper) (h : IsCaseOf u c) : upper c = [u] := by
  obtain ⟨hlow, hhigh⟩ := isUpper_iff.mp hu
  have hall : ∀ n ≤ 90, 65 ≤ n → upper (Char.ofNat n) = [Char.ofNat n] ∧
      upper (Char.ofNat n).toLower = [Char.ofNat n] := by decide +kernel
  have hboth := hall u.toNat hhigh hlow
  rw [u.ofNat_toNat] at hboth
  rcases h with rfl | rfl
  · exact hboth.1
  · exact hboth.2

/-! ### Texts -/

/-- A text whose upper case starts with a capital starts with that letter in either case, or with a
character of the list. -/
theorem flatMap_upper_eq_cons {cs us : List Char} {u : Char} (h : cs.flatMap upper = u :: us)
    (hcapitals : ∀ x ∈ u :: us, x.isUpper) :
    ∃ c rest, cs = c :: rest ∧
      (IsCaseOf u c ∧ rest.flatMap upper = us ∨
        ∃ vs, (c, vs) ∈ capitalFolds ∧ vs ++ rest.flatMap upper = u :: us) := by
  cases cs with
  | nil => cases h
  | cons c rest =>
    rw [List.flatMap_cons] at h
    refine ⟨c, rest, rfl, ?_⟩
    have hown : ∀ x ∈ upper c, x.isUpper := fun x hx =>
      hcapitals x (h ▸ List.mem_append_left _ hx)
    rcases upper_capitals hown with ⟨v, hv, hcase⟩ | hfold
    · rw [hv] at h
      obtain ⟨rfl, hrest⟩ := List.cons.inj h
      exact .inl ⟨hcase, hrest⟩
    · exact .inr ⟨upper c, hfold, h⟩

theorem flatMap_upper_eq_nil_iff {cs : List Char} : cs.flatMap upper = [] ↔ cs = [] := by
  cases cs with
  | nil => exact iff_of_true rfl rfl
  | cons c rest =>
    refine iff_of_false (fun h => ?_) (List.cons_ne_nil c rest)
    exact upper_ne_nil c (List.append_eq_nil_iff.mp h).1

/-- Letters in either case become the capitals. -/
theorem flatMap_upper_of_cases {us cs : List Char} (h : List.Forall₂ IsCaseOf us cs)
    (hcapitals : ∀ x ∈ us, x.isUpper) : cs.flatMap upper = us := by
  induction h with
  | nil => rfl
  | cons hcase _ ih =>
    obtain ⟨hu, hus⟩ := List.forall_mem_cons.mp hcapitals
    rw [List.flatMap_cons, upper_of_isCaseOf hu hcase, ih hus, List.singleton_append]

/-- Capitals among which nothing occurs that a character of the list becomes are the upper case of
their letters in either case only. -/
theorem flatMap_upper_eq_iff_of_plain {us : List Char} (hcapitals : ∀ x ∈ us, x.isUpper)
    (hplain : ∀ fold ∈ capitalFolds, ¬ fold.2 <:+: us) {cs : List Char} :
    cs.flatMap upper = us ↔ List.Forall₂ IsCaseOf us cs := by
  refine ⟨fun h => ?_, fun h => flatMap_upper_of_cases h hcapitals⟩
  induction us generalizing cs with
  | nil =>
    obtain rfl := flatMap_upper_eq_nil_iff.mp h
    exact .nil
  | cons u us ih =>
    obtain ⟨c, rest, rfl, ⟨hcase, hrest⟩ | ⟨vs, hfold, hvs⟩⟩ := flatMap_upper_eq_cons h hcapitals
    · have hus : ∀ fold ∈ capitalFolds, ¬ fold.2 <:+: us := fun fold hfold hinfix =>
        hplain fold hfold (List.infix_cons hinfix)
      exact .cons hcase (ih (List.forall_mem_cons.mp hcapitals).2 hus hrest)
    · exact absurd (List.IsPrefix.isInfix ⟨_, hvs⟩) (hplain _ hfold)

end SerialCard.Text
