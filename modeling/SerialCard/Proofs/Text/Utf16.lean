import Mathlib.Data.List.Basic
import SerialCard.Text.Utf16

/-!
# Round trip through 16-bit units

A character is one unit that is no surrogate, or a high surrogate and a low one
(`encodeChar_cases`). The decoder takes either off the front and goes on with the rest
(`decode_encodeChar_append`), so it gives back every text that was encoded, whatever its characters
(`decode_encode`).

Only the character zero has a unit zero. A reader that stops at the first zero therefore stops
between two characters, and what it has read is the text up to the first NUL (`name?_encode`).
-/

namespace SerialCard.Text.Utf16

/-! ### Units -/

theorem isHigh_iff {u : UInt16} : isHigh u ↔ 0xD800 ≤ u.toNat ∧ u.toNat ≤ 0xDBFF := by
  simp [isHigh, UInt16.le_iff_toNat_le]

theorem isLow_iff {u : UInt16} : isLow u ↔ 0xDC00 ≤ u.toNat ∧ u.toNat ≤ 0xDFFF := by
  simp [isLow, UInt16.le_iff_toNat_le]

theorem toNat_toUInt16 {n : Nat} (h : n < 0x10000) : n.toUInt16.toNat = n :=
  Nat.mod_eq_of_lt h

/-- A character is no surrogate, and below the end of Unicode. -/
theorem toNat_bounds (c : Char) :
    (c.toNat < 0xD800 ∨ 0xDFFF < c.toNat) ∧ c.toNat < 0x110000 := by
  have hvalid : c.toNat.isValidChar := c.valid
  rcases hvalid with h | h <;> omega

/-- A character is one unit that is no surrogate, or two that are a pair. -/
theorem encodeChar_cases (c : Char) :
    (∃ u, encodeChar c = [u] ∧ ¬ isHigh u ∧ ¬ isLow u ∧ u.toNat = c.toNat) ∨
      ∃ u v, encodeChar c = [u, v] ∧ isHigh u ∧ isLow v ∧ pair u v = c := by
  obtain ⟨hgap, hend⟩ := toNat_bounds c
  by_cases hsmall : c.toNat < 0x10000
  · left
    have hu := toNat_toUInt16 hsmall
    refine ⟨c.toNat.toUInt16, by rw [encodeChar, if_pos hsmall], ?_, ?_, hu⟩
    · rw [isHigh_iff, hu]
      omega
    · rw [isLow_iff, hu]
      omega
  · right
    have hu : ((0xD800 + (c.toNat - 0x10000) / 0x400).toUInt16).toNat =
        0xD800 + (c.toNat - 0x10000) / 0x400 := toNat_toUInt16 (by omega)
    have hv : ((0xDC00 + (c.toNat - 0x10000) % 0x400).toUInt16).toNat =
        0xDC00 + (c.toNat - 0x10000) % 0x400 := toNat_toUInt16 (by omega)
    refine ⟨_, _, by rw [encodeChar, if_neg hsmall], ?_, ?_, ?_⟩
    · rw [isHigh_iff, hu]
      omega
    · rw [isLow_iff, hv]
      omega
    · -- the offset of the character above 65536 is put together from its two halves
      have hjoin : 0x10000 + (0xD800 + (c.toNat - 0x10000) / 0x400 - 0xD800) * 0x400 +
          (0xDC00 + (c.toNat - 0x10000) % 0x400 - 0xDC00) = c.toNat := by omega
      rw [pair, hu, hv, hjoin, Char.ofNat_toNat]

/-- Only the character zero has a unit zero. -/
theorem zero_mem_encodeChar_iff {c : Char} : 0 ∈ encodeChar c ↔ c = '\x00' := by
  constructor
  · intro h
    rcases encodeChar_cases c with ⟨u, hc, -, -, hu⟩ | ⟨u, v, hc, hhigh, hlow, -⟩
    · obtain rfl := List.mem_singleton.mp (hc ▸ h)
      rw [← Char.ofNat_toNat c, ← hu]
      rfl
    · -- neither half of a pair is zero
      rw [hc] at h
      rcases List.mem_pair.mp h with rfl | rfl
      · exact absurd hhigh (by decide)
      · exact absurd hlow (by decide)
  · rintro rfl
    decide

/-! ### Decoding what was encoded -/

theorem encode_cons (c : Char) (cs : List Char) : encode (c :: cs) = encodeChar c ++ encode cs :=
  List.flatMap_cons

theorem decode_cons {u : UInt16} (hhigh : ¬ isHigh u) (hlow : ¬ isLow u) (rest : List UInt16) :
    decode (u :: rest) = (decode rest).map (Char.ofNat u.toNat :: ·) := by
  cases rest with
  | nil => simp [decode, hhigh, hlow]
  | cons v rest => simp [decode, hhigh, hlow]

theorem decode_pair {u v : UInt16} (hhigh : isHigh u) (hlow : isLow v) (rest : List UInt16) :
    decode (u :: v :: rest) = (decode rest).map (pair u v :: ·) := by
  simp [decode, hhigh, hlow]

/-- The decoder takes a character off the front. -/
theorem decode_encodeChar_append (c : Char) (rest : List UInt16) :
    decode (encodeChar c ++ rest) = (decode rest).map (c :: ·) := by
  rcases encodeChar_cases c with ⟨u, hc, hhigh, hlow, hu⟩ | ⟨u, v, hc, hhigh, hlow, hpair⟩
  · rw [hc, List.singleton_append, decode_cons hhigh hlow, hu, Char.ofNat_toNat]
  · rw [hc, List.cons_append, List.singleton_append, decode_pair hhigh hlow, hpair]

/-- Every text comes back from its units. -/
theorem decode_encode (cs : List Char) : decode (encode cs) = some cs := by
  induction cs with
  | nil => rfl
  | cons c rest ih =>
    rw [encode_cons, decode_encodeChar_append, ih]
    rfl

/-! ### Reading up to a zero -/

/-- The units before the first zero are those of the characters before the first NUL. -/
theorem untilZero_encode (cs : List Char) :
    untilZero (encode cs ++ [0]) = encode (cs.takeWhile (· ≠ '\x00')) := by
  induction cs with
  | nil => rfl
  | cons c rest ih =>
    by_cases hc : c = '\x00'
    · subst hc
      rfl
    · have hnonzero : ∀ u ∈ encodeChar c, (u != 0) = true := fun u hu =>
        bne_iff_ne.mpr fun h => hc (zero_mem_encodeChar_iff.mp (h ▸ hu))
      rw [encode_cons, List.append_assoc, untilZero, List.takeWhile_append_of_pos hnonzero,
        ← untilZero, ih, List.takeWhile_cons_of_pos (by simpa using hc), encode_cons]

/-- The name in the buffer of a text is the text up to its first NUL. -/
theorem name?_encode (cs : List Char) :
    name? (encode cs ++ [0]) = some (String.ofList (cs.takeWhile (· ≠ '\x00'))) := by
  rw [name?, untilZero_encode, decode_encode]
  rfl

end SerialCard.Text.Utf16
