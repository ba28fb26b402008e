import Mathlib.Data.List.Basic
import Mathlib.Data.List.Induction

/-!
# Decimal numerals

The numeral of a number is the list of decimal digits that spells it and has no zero in front,
unless zero is all there is. Every number has exactly one numeral, its digits as they are written
(`isNumeral_iff`).
-/

namespace SerialCard

/-- Characters are the numeral of a number: decimal digits, at least one, that spell the number and
have no zero in front of another digit. -/
structure IsNumeral (n : Nat) (ds : List Char) : Prop where
  ne_nil : ds ≠ []
  isDigit : ∀ d ∈ ds, d.isDigit
  spells : Nat.ofDigitChars 10 ds 0 = n
  eq_of_head_zero : ds.head? = some '0' → ds = ['0']

/-- A decimal digit is the one that is written for its value. -/
private theorem digitChar_of_isDigit {d : Char} (h : d.isDigit) :
    d.toNat - '0'.toNat < 10 ∧ (d.toNat - '0'.toNat).digitChar = d := by
  obtain ⟨hlow, hhigh⟩ : 48 ≤ d.toNat ∧ d.toNat ≤ 57 := Char.isDigit_iff_toNat.mp h
  have hlt : d.toNat - '0'.toNat < 10 := by
    change d.toNat - 48 < 10
    omega
  refine ⟨hlt, Char.toNat_inj.mp ?_⟩
  rw [Nat.toNat_digitChar_of_lt_ten hlt]
  exact Nat.add_sub_cancel' hlow

/-- What is written for a number has no zero in front. -/
private theorem toDigits_eq_of_head_zero (n : Nat) :
    (Nat.toDigits 10 n).head? = some '0' → Nat.toDigits 10 n = ['0'] := by
  induction n using Nat.strongRecOn with
  | ind n ih =>
    intro hhead
    rcases Nat.lt_or_ge n 10 with hlt | hge
    · rw [Nat.toDigits_of_lt_base hlt] at hhead ⊢
      exact congrArg (fun d => [d]) (Option.some.inj hhead)
    · -- the front of the number is that of its tenth, which is not zero
      rw [Nat.toDigits_of_base_le (by decide) hge,
        List.head?_append_of_ne_nil _ Nat.toDigits_ne_nil] at hhead
      have htenth := congrArg (Nat.ofDigitChars 10 · 0) (ih (n / 10) (by omega) hhead)
      have hzero : n / 10 = 0 := Nat.ofDigitChars_ten_toDigits.symm.trans htenth
      omega

theorem isNumeral_toDigits (n : Nat) : IsNumeral n (Nat.toDigits 10 n) where
  ne_nil := Nat.toDigits_ne_nil
  isDigit _ hd := Nat.isDigit_of_mem_toDigits (by decide) (by decide) hd
  spells := Nat.ofDigitChars_ten_toDigits
  eq_of_head_zero := toDigits_eq_of_head_zero n

/-- There is no other numeral than what is written. -/
theorem IsNumeral.eq_toDigits {n : Nat} {ds : List Char} (h : IsNumeral n ds) :
    ds = Nat.toDigits 10 n := by
  induction ds using List.reverseRecOn generalizing n with
  | nil => exact absurd rfl h.ne_nil
  | append_singleton front d ih =>
    obtain ⟨hlt, hd⟩ := digitChar_of_isDigit (h.isDigit d List.mem_concat_self)
    have hn : 10 * Nat.ofDigitChars 10 front 0 + (d.toNat - '0'.toNat) = n := by
      rw [← h.spells, Nat.ofDigitChars_append, Nat.ofDigitChars_cons, Nat.ofDigitChars_nil]
    cases front with
    | nil =>
      rw [← hn, Nat.ofDigitChars_nil, Nat.mul_zero, Nat.zero_add, Nat.toDigits_of_lt_base hlt, hd]
      rfl
    | cons c rest =>
      -- a digit follows the first one, so that one is not zero, nor is the number in front
      have hc : (c :: rest).head? ≠ some '0' := fun hzero => by
        have hall := h.eq_of_head_zero hzero
        simp at hall
      have hfront : IsNumeral (Nat.ofDigitChars 10 (c :: rest) 0) (c :: rest) :=
        ⟨List.cons_ne_nil c rest, fun e he => h.isDigit e (List.mem_append_left [d] he), rfl,
          fun hzero => absurd hzero hc⟩
      have hpos : 0 < Nat.ofDigitChars 10 (c :: rest) 0 := by
        refine Nat.pos_of_ne_zero fun hzero => hc ?_
        rw [ih hfront, hzero]
        rfl
      rw [← hn, ← Nat.toDigits_append_toDigits (by decide) hpos hlt, ← ih hfront,
        Nat.toDigits_of_lt_base hlt, hd]

theorem isNumeral_iff {n : Nat} {ds : List Char} : IsNumeral n ds ↔ ds = Nat.toDigits 10 n := by
  constructor
  · exact IsNumeral.eq_toDigits
  · rintro rfl
    exact isNumeral_toDigits n

end SerialCard
