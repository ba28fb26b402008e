import Mathlib.Logic.Function.Defs
import SerialCard.ControlCode

/-!
# Fields and digits of a control code

Nothing of a control code is lost when it is taken apart: laid side by side again, its fields are
the code (`ControlCode.ofFields_fields`), so codes with the same fields are the same. Nothing is
lost either when a code is written in hexadecimal digits: `readHex?` reads upper-case digits, and
it reads the digits of a code as its number (`ControlCode.readHex?_digits`).
-/

namespace SerialCard

namespace ControlCode

/-! ### Fields -/

/-- The fields of a code make up the code. -/
theorem ofFields_fields (c : ControlCode) : ofFields c.fields = c := by
  have hraw : (ofFields c.fields).raw.toNat = c.raw.toNat := by
    have hlt := c.raw.toNat_lt
    simp only [ofFields, fields, UInt32.toNat_add, UInt32.toNat_mul, UInt32.toNat_div,
      UInt32.toNat_mod, UInt32.reduceToNat]
    omega
  exact congrArg ControlCode.mk (UInt32.toNat_inj.mp hraw)

theorem fields_injective : Function.Injective fields :=
  Function.LeftInverse.injective ofFields_fields

/-! ### Digits -/

/-- The hexadecimal digits in the order of their values. -/
def hexDigits : List Char :=
  "0123456789ABCDEF".toList

/-- The number that upper-case hexadecimal digits spell, the highest first. -/
def readHex? (ds : List Char) : Option Nat :=
  ds.foldlM (fun n d => (hexDigits.idxOf? d).map fun v => 16 * n + v) 0

/-- The digit of a number is the one that stands for it. -/
theorem idxOf?_hexDigit {n : Nat} (h : n < 16) : hexDigits.idxOf? (hexDigit n) = some n := by
  have hall : ∀ n < 16, hexDigits.idxOf? (hexDigit n) = some n := by decide
  exact hall n h

/-- The digits of a code spell its number. -/
theorem readHex?_digits (c : ControlCode) : readHex? c.digits = some c.raw.toNat := by
  have hdigit (unit : Nat) : hexDigits.idxOf? (hexDigit (c.raw.toNat / unit % 16)) =
      some (c.raw.toNat / unit % 16) := idxOf?_hexDigit (Nat.mod_lt _ (by decide))
  have htop : 16 * 0 + c.raw.toNat / 0x10000000 % 16 = c.raw.toNat / 0x10000000 := by
    rw [Nat.mul_zero, Nat.zero_add]
    exact Nat.mod_eq_of_lt (Nat.div_lt_of_lt_mul c.raw.toNat_lt)
  -- what the digits so far spell and the next digit make up the number down to its place
  have hnext (unit : Nat) : 16 * (c.raw.toNat / (unit * 16)) + c.raw.toNat / unit % 16 =
      c.raw.toNat / unit := by
    rw [← Nat.div_div_eq_div_mul, Nat.div_add_mod]
  simp only [readHex?, digits, List.map_cons, List.map_nil, List.foldlM_cons, List.foldlM_nil,
    hdigit, Option.map_some, Option.bind_eq_bind, Option.bind_some, Option.pure_def]
  rw [htop, hnext 0x1000000, hnext 0x100000, hnext 0x10000, hnext 0x1000, hnext 0x100, hnext 0x10,
    hnext 1, Nat.div_one]

end ControlCode

end SerialCard
