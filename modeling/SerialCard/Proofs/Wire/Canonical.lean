import Mathlib.Data.Int.ModEq
import Mathlib.Data.Set.Function
import SerialCard.Proofs.Wire

/-!
# Values with one wire form each

The wire forms of 32-bit numbers are canonical: bytes that have a value are the encoding of that
value, so decoding matches the byte strings of the right size with the values one to one
(`CanonicalWire.bijOn_decode`). The wire form of truth values is not, since every byte but zero
stands for true and only one of them is written (`Wire.encode_decode_byte`).

The two kinds of numbers share their bytes. What four bytes are as an integer differs from what they
are as a word by a multiple of 2³² (`Wire.decode_four`).
-/

namespace SerialCard

/-- A lawful wire form in which each value has only one form. -/
class CanonicalWire (α : Type) [Wire α] : Prop extends LawfulWire α where
  encode_of_decode {bytes : Bytes} {a : α} (h : Wire.decode bytes = some a) : Wire.encode a = bytes

namespace CanonicalWire

variable {α : Type} [Wire α] [CanonicalWire α]

/-- Decoding matches the byte strings of the right size with the values one to one. -/
theorem bijOn_decode :
    Set.BijOn (Wire.decode : Bytes → Option α) {bytes | bytes.length = Wire.size α}
      (Set.range some) := by
  refine ⟨fun bytes hbytes => ?_, fun bytes hbytes bytes' _ hsame => ?_, ?_⟩
  · obtain ⟨a, ha⟩ := Option.isSome_iff_exists.mp ((LawfulWire.isSome_decode_iff bytes).mpr hbytes)
    exact ⟨a, ha.symm⟩
  · obtain ⟨a, ha⟩ := Option.isSome_iff_exists.mp ((LawfulWire.isSome_decode_iff bytes).mpr hbytes)
    have ha' : Wire.decode bytes' = some a := hsame.symm.trans ha
    exact (encode_of_decode ha).symm.trans (encode_of_decode ha')
  · rintro _ ⟨a, rfl⟩
    exact ⟨Wire.encode a, LawfulWire.length_encode a, LawfulWire.decode_encode a⟩

end CanonicalWire

namespace Wire

/-! ### Numbers -/

theorem toNat_spelled (a b c d : UInt8) :
    (spelled [a, b, c, d]).toNat =
      a.toNat + 2 ^ 8 * b.toNat + 2 ^ 16 * c.toNat + 2 ^ 24 * d.toNat := by
  have ha := a.toNat_lt
  have hb := b.toNat_lt
  have hc := c.toNat_lt
  have hd := d.toNat_lt
  simp only [spelled, List.map_cons, List.map_nil, Nat.ofDigits_cons, Nat.ofDigits_nil,
    UInt32.toNat_ofNat']
  omega

/-- The bytes of a word are the digits it is spelled with. -/
theorem encode_spelled (a b c d : UInt8) : Wire.encode (spelled [a, b, c, d]) = [a, b, c, d] := by
  have ha := a.toNat_lt
  have hb := b.toNat_lt
  have hc := c.toNat_lt
  have hd := d.toNat_lt
  simp only [Wire.encode, List.cons.injEq, and_true, ← UInt8.toNat_inj, UInt32.toNat_toUInt8,
    UInt32.toNat_div, UInt32.reduceToNat, toNat_spelled]
  omega

instance : CanonicalWire UInt32 where
  encode_of_decode {bytes w} h := by
    rw [decode_word] at h
    match bytes, h with
    | [a, b, c, d], h =>
      obtain rfl := Option.some.inj h
      exact encode_spelled a b c d

/-- Bytes are an integer if they are the word of its two's complement. -/
theorem decode_int_eq_some_iff {bytes : Bytes} {n : Int32} :
    Wire.decode bytes = some n ↔ Wire.decode bytes = some n.toUInt32 := by
  change (Wire.decode bytes : Option UInt32).map UInt32.toInt32 = some n ↔ _
  rw [Option.map_eq_some_iff]
  constructor
  · rintro ⟨w, hw, rfl⟩
    rw [hw, UInt32.toUInt32_toInt32]
  · intro h
    exact ⟨n.toUInt32, h, n.toInt32_toUInt32⟩

instance : CanonicalWire Int32 where
  encode_of_decode {bytes n} h := by
    change Wire.encode n.toUInt32 = bytes
    exact CanonicalWire.encode_of_decode (decode_int_eq_some_iff.mp h)

/-- A word and the integer of the same bits differ by a multiple of 2³². -/
theorem toInt_toInt32_modEq (w : UInt32) : w.toInt32.toInt ≡ w.toNat [ZMOD 2 ^ 32] := by
  have hbits : w.toInt32.toInt = (w.toNat : Int).bmod (2 ^ 32) :=
    BitVec.toInt_eq_toNat_bmod w.toBitVec
  rw [hbits]
  exact Int.bmod_emod

/-- Four bytes are a word with these digits to the base 256, and the integer that differs from it by
a multiple of 2³²; the bytes are the encoding of both. -/
theorem decode_four (a b c d : UInt8) :
    ∃ (w : UInt32) (n : Int32),
      Wire.decode [a, b, c, d] = some w ∧ Wire.decode [a, b, c, d] = some n ∧
        w.toNat = a.toNat + 2 ^ 8 * b.toNat + 2 ^ 16 * c.toNat + 2 ^ 24 * d.toNat ∧
        n.toInt ≡ w.toNat [ZMOD 2 ^ 32] ∧
        Wire.encode w = [a, b, c, d] ∧ Wire.encode n = [a, b, c, d] := by
  have hword : Wire.decode [a, b, c, d] = some (spelled [a, b, c, d]) := decode_word _
  have hint : Wire.decode [a, b, c, d] = some (spelled [a, b, c, d]).toInt32 := decode_int _
  exact ⟨_, _, hword, hint, toNat_spelled a b c d, toInt_toInt32_modEq _,
    CanonicalWire.encode_of_decode hword, CanonicalWire.encode_of_decode hint⟩

/-! ### Truth values -/

/-- A byte is true unless it is zero, and it is written again only if it is zero or one. -/
theorem encode_decode_byte (b : UInt8) :
    ∃ v : Bool, Wire.decode [b] = some v ∧ (v = true ↔ b ≠ 0) ∧
      (Wire.encode v = [b] ↔ b = 0 ∨ b = 1) := by
  refine ⟨b != 0, rfl, bne_iff_ne, ?_⟩
  by_cases hzero : b = 0
  · subst hzero
    exact iff_of_true rfl (.inl rfl)
  · have hv : (b != 0) = true := bne_iff_ne.mpr hzero
    rw [hv]
    constructor
    · intro h
      exact .inr (List.singleton_inj.mp h).symm
    · intro h
      rw [h.resolve_left hzero]
      rfl

end Wire

/-- **The wire forms lose nothing and have exact sizes.** A truth value takes one byte and a 32-bit
number four, and decoding gives back the value that was encoded. A byte string has a value exactly
if it has that size. For both kinds of numbers, decoding matches the strings of four bytes with the
values one to one, and encoding leads back to the bytes; the word has the bytes as its digits to the
base 256, the lowest first, and the integer is the same number modulo 2³². A byte is true unless it
is zero, and encoding leads back to it exactly if it is zero or one. -/
theorem wire_forms_lossless :
    (∀ v : Bool, (Wire.encode v).length = 1 ∧ Wire.decode (Wire.encode v) = some v) ∧
    (∀ v : UInt32, (Wire.encode v).length = 4 ∧ Wire.decode (Wire.encode v) = some v) ∧
    (∀ v : Int32, (Wire.encode v).length = 4 ∧ Wire.decode (Wire.encode v) = some v) ∧
    (Wire.size Bool = 1 ∧ Wire.size UInt32 = 4 ∧ Wire.size Int32 = 4) ∧
    (∀ bytes : Bytes,
      ((Wire.decode bytes : Option Bool).isSome ↔ bytes.length = 1) ∧
      ((Wire.decode bytes : Option UInt32).isSome ↔ bytes.length = 4) ∧
      ((Wire.decode bytes : Option Int32).isSome ↔ bytes.length = 4)) ∧
    Set.BijOn (Wire.decode : Bytes → Option UInt32) {bytes | bytes.length = 4} (Set.range some) ∧
    Set.BijOn (Wire.decode : Bytes → Option Int32) {bytes | bytes.length = 4} (Set.range some) ∧
    (∀ a b c d : UInt8, ∃ (w : UInt32) (n : Int32),
      Wire.decode [a, b, c, d] = some w ∧ Wire.decode [a, b, c, d] = some n ∧
        w.toNat = a.toNat + 2 ^ 8 * b.toNat + 2 ^ 16 * c.toNat + 2 ^ 24 * d.toNat ∧
        n.toInt ≡ w.toNat [ZMOD 2 ^ 32] ∧
        Wire.encode w = [a, b, c, d] ∧ Wire.encode n = [a, b, c, d]) ∧
    ∀ b : UInt8, ∃ v : Bool, Wire.decode [b] = some v ∧ (v = true ↔ b ≠ 0) ∧
      (Wire.encode v = [b] ↔ b = 0 ∨ b = 1) := by
  have hlawful {α : Type} [Wire α] [LawfulWire α] (v : α) :
      (Wire.encode v).length = Wire.size α ∧ Wire.decode (Wire.encode v) = some v :=
    ⟨LawfulWire.length_encode v, LawfulWire.decode_encode v⟩
  exact ⟨hlawful, hlawful, hlawful, ⟨rfl, rfl, rfl⟩,
    fun bytes => ⟨LawfulWire.isSome_decode_iff bytes, LawfulWire.isSome_decode_iff bytes,
      LawfulWire.isSome_decode_iff bytes⟩,
    CanonicalWire.bijOn_decode, CanonicalWire.bijOn_decode, Wire.decode_four,
    Wire.encode_decode_byte⟩

/-- Four bytes with the highest bit set are a large word and a negative integer. -/
example :
    (Wire.decode [0xFE, 0xFF, 0xFF, 0xFF] : Option UInt32) = some 0xFFFFFFFE ∧
      (Wire.decode [0xFE, 0xFF, 0xFF, 0xFF] : Option Int32) = some (-2) := by
  decide

end SerialCard
