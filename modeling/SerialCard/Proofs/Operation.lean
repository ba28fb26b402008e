import Mathlib.Data.List.Nodup
import SerialCard.Proofs.ControlCode
import SerialCard.Setting

/-!
# The registry of operations

The operations are numbered without a gap (`Operation.exists_function_eq_iff`), and a code stands
for an operation exactly if its fields are those of one (`Operation.isSome_ofCode?_iff_fields`). So
most of the 32-bit words stand for none, also many that differ from the code of an operation only in
the method or the access.

The table of settings lists the code of every operation once: its codes are those of the operations
in another order (`Setting.codes_perm`). `Setting.codeAt?` is the code at a place of the table, and
no code has two places.

What is shown of a code ends in its digits, so `ControlCode.ofText?` gets the code back from it.
-/

namespace SerialCard

/-! ### Operations and their codes -/

namespace Operation

theorem ofCode?_code (op : Operation) : Operation.ofCode? op.code = some op := by
  cases op <;> rfl

theorem code_injective {op op' : Operation} (h : op.code = op'.code) : op = op' := by
  have hop := op.ofCode?_code
  rw [h, op'.ofCode?_code] at hop
  exact (Option.some.inj hop).symm

theorem mem_all (op : Operation) : op ∈ Operation.all := by
  cases op <;> decide

theorem ofCode?_eq_some_iff {c : ControlCode} {op : Operation} :
    ofCode? c = some op ↔ op.code = c := by
  constructor
  · intro h
    simpa [ofCode?] using List.find?_some h
  · rintro rfl
    exact op.ofCode?_code

theorem isSome_ofCode?_iff {c : ControlCode} :
    (ofCode? c).isSome ↔ ∃ op : Operation, op.code = c := by
  simp only [Option.isSome_iff_exists, ofCode?_eq_some_iff]

/-- The code of an operation has the driver's device type, the number of the operation, and zero for
the rest. -/
theorem fields_code (op : Operation) : op.code.fields = ⟨deviceType, op.function, 0, 0⟩ := by
  cases op <;> decide

/-- The numbers of the operations are those from the first to the last. -/
theorem exists_function_eq_iff {f : UInt32} :
    (∃ op : Operation, op.function = f) ↔ 0x800 ≤ f ∧ f ≤ 0x81E := by
  constructor
  · rintro ⟨op, rfl⟩
    cases op <;> decide
  · rintro ⟨hfirst, hlast⟩
    have hfirst : 0x800 ≤ f.toNat := UInt32.le_iff_toNat_le.mp hfirst
    have hlast : f.toNat ≤ 0x81E := UInt32.le_iff_toNat_le.mp hlast
    have hnumbered : ∀ n ≤ 0x1E, ∃ op ∈ all, op.function.toNat = 0x800 + n := by decide
    obtain ⟨op, -, hop⟩ := hnumbered (f.toNat - 0x800) (by omega)
    exact ⟨op, UInt32.toNat_inj.mp (by omega)⟩

/-- A code stands for an operation exactly if its fields are those of an operation. -/
theorem isSome_ofCode?_iff_fields {c : ControlCode} :
    (ofCode? c).isSome ↔ ∃ f, c.fields = ⟨deviceType, f, 0, 0⟩ ∧ 0x800 ≤ f ∧ f ≤ 0x81E := by
  rw [isSome_ofCode?_iff]
  constructor
  · rintro ⟨op, rfl⟩
    exact ⟨op.function, op.fields_code, exists_function_eq_iff.mp ⟨op, rfl⟩⟩
  · rintro ⟨f, hfields, hf⟩
    obtain ⟨op, rfl⟩ := exists_function_eq_iff.mpr hf
    exact ⟨op, ControlCode.fields_injective (op.fields_code.trans hfields.symm)⟩

end Operation

/-! ### The table of settings -/

namespace Setting

/-- The code at a place of the table: the place of the setting, then that of the code among those of
the setting. -/
def codeAt? (place : Nat × Nat) : Option ControlCode :=
  all[place.1]?.bind fun t => t.codes[place.2]?

/-- The table lists the codes of the operations, each once. -/
theorem codes_perm : (all.flatMap codes).Perm (Operation.all.map Operation.code) := by
  decide +kernel

theorem nodup_codes : (all.flatMap codes).Nodup := by
  have hall : Operation.all.Nodup := by decide
  exact codes_perm.nodup_iff.mpr (hall.map fun _ _ => Operation.code_injective)

/-- A code is in the table exactly if it stands for an operation. -/
theorem mem_codes_iff {c : ControlCode} :
    (∃ t ∈ all, c ∈ t.codes) ↔ (Operation.ofCode? c).isSome := by
  rw [← List.mem_flatMap, codes_perm.mem_iff, List.mem_map, Operation.isSome_ofCode?_iff]
  exact exists_congr fun op => and_iff_right op.mem_all

theorem codeAt?_eq_some_iff {place : Nat × Nat} {c : ControlCode} :
    codeAt? place = some c ↔ ∃ t, all[place.1]? = some t ∧ t.codes[place.2]? = some c :=
  Option.bind_eq_some_iff

/-- A code of the table has a place. -/
theorem exists_codeAt?_iff {c : ControlCode} :
    (∃ place, codeAt? place = some c) ↔ ∃ t ∈ all, c ∈ t.codes := by
  simp only [codeAt?_eq_some_iff]
  constructor
  · rintro ⟨place, t, ht, hc⟩
    exact ⟨t, List.mem_of_getElem? ht, List.mem_of_getElem? hc⟩
  · rintro ⟨t, ht, hc⟩
    obtain ⟨i, hi⟩ := List.mem_iff_getElem?.mp ht
    obtain ⟨j, hj⟩ := List.mem_iff_getElem?.mp hc
    exact ⟨(i, j), t, hi, hj⟩

/-- No code has two places. -/
theorem codeAt?_unique {place place' : Nat × Nat} {c : ControlCode} (h : codeAt? place = some c)
    (h' : codeAt? place' = some c) : place = place' := by
  obtain ⟨hown, hothers⟩ := List.nodup_flatMap.mp nodup_codes
  obtain ⟨t, ht, hc⟩ := codeAt?_eq_some_iff.mp h
  obtain ⟨t', ht', hc'⟩ := codeAt?_eq_some_iff.mp h'
  -- two settings at different places have no code in common
  have hapart {i j : Nat} {a b : Setting} (hij : i < j) (ha : all[i]? = some a)
      (hb : all[j]? = some b) : a.codes.Disjoint b.codes := by
    obtain ⟨hi, rfl⟩ := List.getElem?_eq_some_iff.mp ha
    obtain ⟨hj, rfl⟩ := List.getElem?_eq_some_iff.mp hb
    exact List.pairwise_iff_getElem.mp hothers i j hi hj hij
  have hmem : c ∈ t.codes := List.mem_of_getElem? hc
  have hmem' : c ∈ t'.codes := List.mem_of_getElem? hc'
  rcases Nat.lt_trichotomy place.1 place'.1 with hlt | heq | hgt
  · exact (hapart hlt ht ht' hmem hmem').elim
  · obtain rfl : t = t' := Option.some.inj (ht.symm.trans (heq ▸ ht'))
    have hlength : place.2 < t.codes.length := (List.getElem?_eq_some_iff.mp hc).1
    have hnodup : t.codes.Nodup := hown t (List.mem_of_getElem? ht)
    exact Prod.ext heq ((List.getElem?_inj hlength hnodup).mp (hc.trans hc'.symm))
  · exact (hapart hgt ht' ht hmem' hmem).elim

end Setting

/-! ### Shown codes -/

namespace ControlCode

/-- The code in a text that ends in its eight digits, or in these and a closing bracket. -/
def ofText? (text : String) : Option ControlCode :=
  let ds := ((text.toList.reverse.dropWhile (· = ')')).take 8).reverse
  (readHex? ds).map fun n => ⟨n.toUInt32⟩

/-- What is shown of a code is its number, after the name of its operation if it has one. -/
theorem text_eq (c : ControlCode) :
    c.text = match Operation.ofCode? c with
      | some op => op.name ++ " (0x" ++ String.ofList c.digits ++ ")"
      | none => "0x" ++ String.ofList c.digits := by
  rw [text]
  cases Operation.ofCode? c with
  | none => rfl
  | some op =>
    have hopening : " (0x" = " (" ++ "0x" := rfl
    simp only [hopening, String.append_assoc]

/-- The last eight characters of what ends in the digits of a code are the digits; none of them is a
bracket. -/
theorem take_dropWhile_digits (c : ControlCode) (front : List Char) :
    ((front ++ c.digits).reverse.dropWhile (· = ')')).take 8 = c.digits.reverse := by
  have hbracket : ∀ n < 16, hexDigit n ≠ ')' := by decide
  obtain ⟨last, rest, hdigits, hlast⟩ :
      ∃ last rest, c.digits.reverse = last :: rest ∧ last ≠ ')' :=
    ⟨_, _, rfl, hbracket _ (Nat.mod_lt _ (by decide))⟩
  rw [List.reverse_append, hdigits, List.cons_append,
    List.dropWhile_cons_of_neg (by simpa using hlast), ← List.cons_append, ← hdigits]
  exact List.take_left' rfl

/-- A code is got back from what is shown of it. -/
theorem ofText?_text (c : ControlCode) : ofText? c.text = some c := by
  have hread : ofText? c.text = (readHex? c.digits).map fun n => ⟨n.toUInt32⟩ := by
    rw [ofText?, text_eq]
    cases Operation.ofCode? c with
    | none =>
      have htext : ("0x" ++ String.ofList c.digits).toList = ['0', 'x'] ++ c.digits := by simp
      dsimp only
      rw [htext, take_dropWhile_digits, List.reverse_reverse]
    | some op =>
      have htext : (op.name ++ " (0x" ++ String.ofList c.digits ++ ")").toList.reverse =
          ')' :: ((op.name ++ " (0x").toList ++ c.digits).reverse := by simp
      dsimp only
      rw [htext, List.dropWhile_cons_of_pos (by rfl), take_dropWhile_digits, List.reverse_reverse]
  rw [hread, readHex?_digits, Option.map_some, Nat.toUInt32_eq, UInt32.ofNat_toNat]

theorem text_injective : Function.Injective text := by
  intro a b h
  have hback : some a = some b := by rw [← ofText?_text a, h, ofText?_text]
  exact Option.some.inj hback

end ControlCode

/-- **The registry knows its own codes and no others.** A code stands for an operation exactly if it
has the driver's device type, zero for the method and the access, and a function from the first
number to the last; the operation then has this function and this code. Exactly these codes are in
the table of settings, each at one place of one setting. What is shown of a code is its eight
hexadecimal digits, which read back as its number, after the name of the operation if it stands for
one; and no two codes are shown alike. -/
theorem registry_exact :
    (∀ c : ControlCode,
      ((Operation.ofCode? c).isSome ↔
        ∃ f, c.fields = ⟨0x8019, f, 0, 0⟩ ∧ 0x800 ≤ f ∧ f ≤ 0x81E) ∧
      (∀ op, Operation.ofCode? c = some op → op.function = c.fields.function ∧ op.code = c) ∧
      ((Operation.ofCode? c).isSome ↔ ∃! place, Setting.codeAt? place = some c) ∧
      (Operation.ofCode? c = none ↔ ∀ t ∈ Setting.all, c ∉ t.codes) ∧
      (c.text = match Operation.ofCode? c with
        | some op => op.name ++ " (0x" ++ String.ofList c.digits ++ ")"
        | none => "0x" ++ String.ofList c.digits) ∧
      c.digits.length = 8 ∧ ControlCode.readHex? c.digits = some c.raw.toNat) ∧
    Function.Injective ControlCode.text := by
  refine ⟨fun c => ⟨Operation.isSome_ofCode?_iff_fields, fun op hop => ?_, ?_, ?_, c.text_eq, rfl,
    c.readHex?_digits⟩, ControlCode.text_injective⟩
  · obtain rfl := Operation.ofCode?_eq_some_iff.mp hop
    exact ⟨(congrArg ControlCode.Fields.function op.fields_code).symm, rfl⟩
  · rw [← Setting.mem_codes_iff, ← Setting.exists_codeAt?_iff]
    refine ⟨?_, fun ⟨place, hplace, _⟩ => ⟨place, hplace⟩⟩
    rintro ⟨place, hplace⟩
    exact ⟨place, hplace, fun _ hother => Setting.codeAt?_unique hother hplace⟩
  · rw [← Option.not_isSome_iff_eq_none, ← Setting.mem_codes_iff]
    push Not
    rfl

end SerialCard
