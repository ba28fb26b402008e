import Mathlib.Data.Nat.Digits.Defs
import SerialCard.Wire

/-!
# Lawful wire forms

A wire form is lawful if each encoding has the size of its type, decoding gives the encoded value
back, and a byte string decodes exactly when it has that size. All three wire forms are lawful, so
an answer of the right length always has a value. The bytes of a 32-bit number are also written
down without the arithmetic of words: `littleEndian` lists the digits of a number to the base 256,
the lowest first, and `spelled` is the number that some bytes spell in this way.
-/

namespace SerialCard

/-- A wire form that loses nothing and accepts exactly the byte strings of its size. -/
class LawfulWire (α : Type) [Wire α] : Prop where
  length_encode (a : α) : (Wire.encode a).length = Wire.size α
  decode_encode (a : α) : Wire.decode (Wire.encode a) = some a
  isSome_decode_iff (bytes : Bytes) :
    (Wire.decode bytes : Option α).isSome ↔ bytes.length = Wire.size α

/-- The four digits of a number to the base 256, the lowest first. -/
def littleEndian (n : Nat) : Bytes :=
  (List.range 4).map fun i => UInt8.ofNat (n / 256 ^ i)

/-- The number that bytes spell to the base 256, the lowest digit first. -/
def spelled (bytes : Bytes) : UInt32 :=
  UInt32.ofNat (Nat.ofDigits 256 (bytes.map UInt8.toNat))

namespace Wire

/-- A 32-bit word travels as its four lowest digits to the base 256. -/
theorem encode_word (w : UInt32) : Wire.encode w = littleEndian w.toNat := by
  refine List.ext_getElem rfl fun i hi _ => ?_
  have hi : i < 4 := hi
  simp only [littleEndian, List.getElem_map, List.getElem_range]
  apply UInt8.toNat_inj.mp
  match i, hi with
  | 0, _ | 1, _ | 2, _ | 3, _ => simp [Wire.encode]

/-- A 32-bit integer travels as the word of its two's complement. -/
theorem encode_int (n : Int32) : Wire.encode n = littleEndian n.toUInt32.toNat :=
  encode_word n.toUInt32

/-- Four bytes are the word they spell. -/
theorem decode_word (bytes : Bytes) :
    (Wire.decode bytes : Option UInt32) =
      if bytes.length = wordSize then some (spelled bytes) else none := by
  match bytes with
  | [] | [_] | [_, _] | [_, _, _] => rfl
  | _ :: _ :: _ :: _ :: _ :: _ => simp [Wire.decode, wordSize]
  | [a, b, c, d] =>
    simp only [Wire.decode, List.length_cons, List.length_nil, wordSize, if_pos]
    congr 1
    apply UInt32.toNat_inj.mp
    simp only [spelled, List.map_cons, List.map_nil, Nat.ofDigits_cons, Nat.ofDigits_nil,
      UInt32.toNat_add, UInt32.toNat_mul, UInt8.toNat_toUInt32, UInt32.reduceToNat,
      UInt32.toNat_ofNat']
    omega

/-- Four bytes are the integer whose two's complement they spell. -/
theorem decode_int (bytes : Bytes) :
    (Wire.decode bytes : Option Int32) =
      if bytes.length = wordSize then some (spelled bytes).toInt32 else none := by
  change (Wire.decode bytes : Option UInt32).map UInt32.toInt32 = _
  rw [decode_word]
  split <;> rfl

/-- One byte is true unless it is zero. -/
theorem decode_bool (bytes : Bytes) :
    (Wire.decode bytes : Option Bool) =
      if bytes.length = flagSize then some (bytes != [0]) else none := by
  match bytes with
  | [] => rfl
  | [b] => simp [Wire.decode, flagSize, bne]
  | _ :: _ :: _ => simp [Wire.decode, flagSize]

private theorem decode_encode_word (w : UInt32) : Wire.decode (Wire.encode w) = some w := by
  simp only [Wire.encode, Wire.decode, Option.some.injEq]
  apply UInt32.toNat_inj.mp
  have hw := w.toNat_lt
  simp only [UInt32.toNat_add, UInt32.toNat_mul, UInt32.toNat_div, UInt8.toNat_toUInt32,
    UInt32.toNat_toUInt8, UInt32.reduceToNat]
  omega

/-- Bytes with a value only if their number is right have one exactly then. -/
private theorem isSome_ite {α : Type} {p : Prop} [Decidable p] (a : α) :
    (if p then some a else none).isSome ↔ p := by
  split <;> simp [*]

instance : LawfulWire Bool where
  length_encode _ := rfl
  decode_encode b := by cases b <;> rfl
  isSome_decode_iff bytes := by
    rw [decode_bool]
    exact isSome_ite _

instance : LawfulWire UInt32 where
  length_encode _ := rfl
  decode_encode := decode_encode_word
  isSome_decode_iff bytes := by
    rw [decode_word]
    exact isSome_ite _

instance : LawfulWire Int32 where
  length_encode _ := rfl
  decode_encode n := by
    change (Wire.decode (Wire.encode n.toUInt32) : Option UInt32).map UInt32.toInt32 = some n
    rw [decode_encode_word]
    rfl
  isSome_decode_iff bytes := by
    rw [decode_int]
    exact isSome_ite _

end Wire

end SerialCard
