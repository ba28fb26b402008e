import Mathlib.Data.UInt
import SerialCard.Proofs.ControlCode

/-!
# Packing fields into a code

Four fields are checked one after the other before they are packed. `FieldError` names the checks:
each looks at one field (`Fields.part`), allows it some number of bits (`FieldError.width`), and
says so when it fails (`FieldError.message_eq`). The first check that fails is the one that is
reported (`Fields.misfit?_eq_some_iff`).

Fields that pass are laid side by side without overlap, and together they fill the 32 bits. So each
code is the code of exactly one quadruple, its own fields (`ofFields?_eq_ok_iff`), and to compare
two codes is to compare their fields from the highest bits down (`compare_eq_then`).
-/

namespace SerialCard

namespace ControlCode

/-! ### The checks -/

namespace FieldError

/-- The checks in the order in which they are made. -/
def all : List FieldError :=
  [deviceType, function, method, access]

/-- What the checked field is called. -/
def name : FieldError → String
  | deviceType => "device type"
  | function => "function number"
  | method => "method"
  | access => "access"

/-- The number of bits the checked field has. -/
def width : FieldError → Nat
  | deviceType => 16
  | function => 12
  | method => 2
  | access => 2

theorem mem_all (e : FieldError) : e ∈ all := by
  cases e <;> decide

theorem message_eq (e : FieldError) :
    e.message = e.name ++ " must fit in " ++ toString e.width ++ " bits" := by
  cases e <;> rfl

end FieldError

namespace Fields

/-- The field that a check looks at. -/
def part (f : Fields) : FieldError → UInt32
  | .deviceType => f.deviceType
  | .function => f.function
  | .method => f.method
  | .access => f.access

/-- Whether a check is passed: the field it looks at has no more bits than there are for it. -/
def Passes (f : Fields) (e : FieldError) : Prop :=
  (f.part e).toNat < 2 ^ e.width

instance (f : Fields) (e : FieldError) : Decidable (f.Passes e) :=
  inferInstanceAs (Decidable (_ < _))

theorem forall_passes_iff {f : Fields} :
    (∀ e, f.Passes e) ↔ f.deviceType.toNat < 2 ^ 16 ∧ f.function.toNat < 2 ^ 12 ∧
      f.method.toNat < 2 ^ 2 ∧ f.access.toNat < 2 ^ 2 := by
  constructor
  · intro h
    exact ⟨h .deviceType, h .function, h .method, h .access⟩
  · rintro ⟨hdevice, hfunction, hmethod, haccess⟩ e
    cases e with
    | deviceType => exact hdevice
    | function => exact hfunction
    | method => exact hmethod
    | access => exact haccess

/-- What is refused is the first field whose check is not passed. -/
theorem misfit?_eq_find? (f : Fields) :
    f.misfit? = FieldError.all.find? fun e => !decide (f.Passes e) := by
  have hdevice : f.deviceType ≥ 0x10000 ↔ ¬f.Passes .deviceType := Nat.not_lt.symm
  have hfunction : f.function ≥ 0x1000 ↔ ¬f.Passes .function := Nat.not_lt.symm
  have hmethod : f.method ≥ 4 ↔ ¬f.Passes .method := Nat.not_lt.symm
  have haccess : f.access ≥ 4 ↔ ¬f.Passes .access := Nat.not_lt.symm
  simp only [misfit?, hdevice, hfunction, hmethod, haccess, FieldError.all, List.find?_cons,
    List.find?_nil]
  split_ifs <;> simp only [*, decide_true, decide_false, Bool.not_true, Bool.not_false]

theorem misfit?_eq_some_iff {f : Fields} {e : FieldError} :
    f.misfit? = some e ↔
      ¬f.Passes e ∧ ∃ before after, FieldError.all = before ++ e :: after ∧
        ∀ e' ∈ before, f.Passes e' := by
  simp only [misfit?_eq_find?, List.find?_eq_some_iff_append, Bool.not_eq_true',
    decide_eq_false_iff_not, Bool.not_not, decide_eq_true_iff]

theorem misfit?_eq_none_iff {f : Fields} : f.misfit? = none ↔ ∀ e, f.Passes e := by
  simp only [misfit?_eq_find?, List.find?_eq_none, Bool.not_eq_true', decide_eq_false_iff_not,
    not_not]
  exact ⟨fun h e => h e e.mem_all, fun h e _ => h e⟩

end Fields

/-! ### Packing and taking apart -/

/-- Fields that pass their checks come back out of their code. -/
theorem fields_ofFields {f : Fields} (h : ∀ e, f.Passes e) : (ofFields f).fields = f := by
  obtain ⟨device, function, method, access⟩ := f
  obtain ⟨hdevice, hfunction, hmethod, haccess⟩ : device.toNat < 2 ^ 16 ∧
    function.toNat < 2 ^ 12 ∧ method.toNat < 2 ^ 2 ∧ access.toNat < 2 ^ 2 :=
    Fields.forall_passes_iff.mp h
  have hraw : (ofFields ⟨device, function, method, access⟩).raw.toNat =
      device.toNat * 0x10000 + access.toNat * 0x4000 + function.toNat * 4 + method.toNat := by
    simp only [ofFields, UInt32.toNat_add, UInt32.toNat_mul, UInt32.reduceToNat]
    omega
  simp only [fields, Fields.mk.injEq, ← UInt32.toNat_inj, UInt32.toNat_div, UInt32.toNat_mod,
    UInt32.reduceToNat, hraw]
  omega

/-- The fields of a code pass their checks. -/
theorem passes_fields (c : ControlCode) : ∀ e, c.fields.Passes e := by
  rw [Fields.forall_passes_iff]
  have hlt := c.raw.toNat_lt
  simp only [fields, UInt32.toNat_div, UInt32.toNat_mod, UInt32.reduceToNat]
  omega

theorem ofFields?_eq_error_iff {f : Fields} {e : FieldError} :
    ofFields? f = .error e ↔ f.misfit? = some e := by
  rw [ofFields?]
  cases f.misfit? <;> simp

theorem exists_ofFields?_iff {f : Fields} :
    (∃ c, ofFields? f = .ok c) ↔ ∀ e, f.Passes e := by
  rw [← Fields.misfit?_eq_none_iff, ofFields?]
  cases f.misfit? <;> simp

/-- A quadruple is packed into a code exactly if it consists of the fields of that code. -/
theorem ofFields?_eq_ok_iff {f : Fields} {c : ControlCode} :
    ofFields? f = .ok c ↔ c.fields = f := by
  constructor
  · intro hc
    have hpasses := exists_ofFields?_iff.mp ⟨c, hc⟩
    rw [ofFields?, Fields.misfit?_eq_none_iff.mpr hpasses] at hc
    rw [← Except.ok.inj hc]
    exact fields_ofFields hpasses
  · rintro rfl
    rw [ofFields?, Fields.misfit?_eq_none_iff.mpr c.passes_fields]
    exact congrArg Except.ok c.ofFields_fields

/-! ### Order -/

/-- Two numbers are compared by their quotients, and if these are the same by their remainders. -/
theorem compare_eq_div_then_mod (k m n : Nat) :
    compare m n = (compare (m / k) (n / k)).then (compare (m % k) (n % k)) := by
  rcases Nat.lt_trichotomy (m / k) (n / k) with hlt | heq | hgt
  · rw [Nat.compare_eq_lt.mpr hlt, Nat.compare_eq_lt.mpr (Nat.lt_of_div_lt_div hlt)]
    rfl
  · have hm := Nat.div_add_mod m k
    have hn := Nat.div_add_mod n k
    rw [heq] at hm
    have hlt : m < n ↔ m % k < n % k := by omega
    have hgt : n < m ↔ n % k < m % k := by omega
    rw [Nat.compare_eq_eq.mpr heq, Ordering.eq_then, Nat.compare_eq_ite_lt, Nat.compare_eq_ite_lt]
    simp only [hlt, hgt]
  · rw [Nat.compare_eq_gt.mpr hgt, Nat.compare_eq_gt.mpr (Nat.lt_of_div_lt_div hgt)]
    rfl

/-- Codes are compared by device type, access, function and method. -/
theorem compare_eq_then (a b : ControlCode) :
    compare a b =
      (compare a.fields.deviceType b.fields.deviceType).then
        ((compare a.fields.access b.fields.access).then
          ((compare a.fields.function b.fields.function).then
            (compare a.fields.method b.fields.method))) := by
  have hdevice (n : Nat) : n % 0x10000 / 0x4000 = n / 0x4000 % 4 := by omega
  have haccess (n : Nat) : n % 0x10000 % 0x4000 / 4 = n / 4 % 0x1000 := by omega
  have hfunction (n : Nat) : n % 0x10000 % 0x4000 % 4 = n % 4 := by omega
  change compare a.raw b.raw = _
  simp only [fields, UInt32.compare_eq_toNat_compare_toNat, UInt32.toNat_div, UInt32.toNat_mod,
    UInt32.reduceToNat]
  -- the fields are cut off from the highest bits down
  rw [compare_eq_div_then_mod 0x10000, compare_eq_div_then_mod 0x4000 (_ % 0x10000),
    compare_eq_div_then_mod 4 (_ % 0x10000 % 0x4000)]
  simp only [hdevice, haccess, hfunction]

/-- **Packing and taking apart are inverse to each other.** Four numbers have a code exactly if each
fits the bits of its field; if one does not, the first in the order device type, function, method,
access is refused, in words that name it and its width. A quadruple has a code exactly if it is what
the code is taken apart into: so it comes back from its code, no two have the same one, and the
fields of every word have a code, which is that word. The order of codes is the lexicographic order
of device type, access, function and method. -/
theorem packing_bijective :
    (∀ f : Fields,
      ((∃ c, ofFields? f = .ok c) ↔
        f.deviceType.toNat < 2 ^ 16 ∧ f.function.toNat < 2 ^ 12 ∧
          f.method.toNat < 4 ∧ f.access.toNat < 4) ∧
      ∀ e, ofFields? f = .error e ↔
        ¬f.Passes e ∧ ∃ before after, FieldError.all = before ++ e :: after ∧
          ∀ e' ∈ before, f.Passes e') ∧
    (∀ e : FieldError,
      e.message = e.name ++ " must fit in " ++ toString e.width ++ " bits") ∧
    (∀ f c, ofFields? f = .ok c ↔ c.fields = f) ∧
    (∀ f f' c, ofFields? f = .ok c → ofFields? f' = .ok c → f = f') ∧
    (∀ c : ControlCode, ofFields? c.fields = .ok c) ∧
    ∀ a b : ControlCode,
      compare a b =
        (compare a.fields.deviceType b.fields.deviceType).then
          ((compare a.fields.access b.fields.access).then
            ((compare a.fields.function b.fields.function).then
              (compare a.fields.method b.fields.method))) := by
  refine ⟨fun f => ⟨exists_ofFields?_iff.trans Fields.forall_passes_iff, fun e => ?_⟩,
    FieldError.message_eq, fun f c => ofFields?_eq_ok_iff, fun f f' c hf hf' => ?_,
    fun c => ofFields?_eq_ok_iff.mpr rfl, compare_eq_then⟩
  · rw [ofFields?_eq_error_iff, Fields.misfit?_eq_some_iff]
  · rw [← ofFields?_eq_ok_iff.mp hf, ← ofFields?_eq_ok_iff.mp hf']

/-- Two fields are too wide, and the one that is looked at first is refused. -/
example : ofFields? ⟨0x22, 0x1000, 3, 4⟩ = .error .function := by decide

end ControlCode

end SerialCard
