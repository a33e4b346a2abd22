import CloudEmulation.Number.Numeral
import Mathlib.Data.List.Induction
/-!
The decimal text of a number is read as the number.
-/

namespace CloudEmulation.Numeral

theorem digitsValue_eq (n : Nat) (ds : List Char) :
    digitsValue n ds = Nat.ofDigitChars 10 ds n := by
  rw [digitsValue, Nat.ofDigitChars_eq_foldl]

theorem isDigit_of_mem {n : Nat} {c : Char} (h : c ∈ Nat.toDigits 10 n) : isDigit c = true := by
  have hd := Nat.isDigit_of_mem_toDigits (by decide) (by decide) h
  simp only [Char.isDigit, Bool.and_eq_true, decide_eq_true_eq] at hd
  rw [isDigit, Bool.and_eq_true, decide_eq_true_eq, decide_eq_true_eq]
  exact hd

theorem natural?_of_digits {ds : List Char} (hne : ds ≠ []) (h : ds.all isDigit = true) :
    natural? ds = some (digitsValue 0 ds) := by
  cases ds with
  | nil => exact absurd rfl hne
  | cons d ds =>
    have hd : d ≠ '+' := by
      rintro rfl
      rw [List.all_cons] at h
      cases h
    unfold natural?
    simp only [hd, List.cons.injEq, false_and, forall_const, imp_self]
    exact if_pos ⟨hne, h⟩

theorem digitsValue_concat (ds : List Char) (d : Char) :
    digitsValue 0 (ds ++ [d]) = 10 * digitsValue 0 ds + (d.toNat - '0'.toNat) := by
  simp [digitsValue]

theorem le_digitsValue (n : Nat) (ds : List Char) : n ≤ digitsValue n ds := by
  induction ds generalizing n with
  | nil => exact Nat.le_refl n
  | cons d ds ih =>
    have hle := ih (10 * n + (d.toNat - '0'.toNat))
    rw [digitsValue, List.foldl_cons, ← digitsValue]
    omega

theorem toNat_of_isDigit {d : Char} (h : isDigit d = true) : 48 ≤ d.toNat ∧ d.toNat ≤ 57 := by
  rw [isDigit, Bool.and_eq_true, decide_eq_true_eq, decide_eq_true_eq] at h
  exact h

theorem digitChar_of_isDigit {d : Char} (h : isDigit d = true) :
    (d.toNat - 48).digitChar = d := by
  obtain ⟨hl, hu⟩ := toNat_of_isDigit h
  refine Char.toNat_inj.mp ?_
  rw [Nat.toNat_digitChar_of_lt_ten (by omega)]
  omega

theorem digitsValue_pos {ds : List Char} (hne : ds ≠ []) (h : ds.all isDigit = true)
    (hz : ds.head? ≠ some '0') : 0 < digitsValue 0 ds := by
  cases ds with
  | nil => exact absurd rfl hne
  | cons d ds =>
    rw [List.all_cons, Bool.and_eq_true] at h
    obtain ⟨hl, -⟩ := toNat_of_isDigit h.1
    have hd : d.toNat ≠ 48 := fun he => hz (congrArg some (Char.toNat_inj.mp he))
    have hle := le_digitsValue (10 * 0 + (d.toNat - '0'.toNat)) ds
    have h48 : '0'.toNat = 48 := rfl
    rw [digitsValue, List.foldl_cons, ← digitsValue]
    omega

/-- Digits without a leading zero are the text of their value. -/
theorem toDigits_digitsValue {ds : List Char} (hne : ds ≠ []) (h : ds.all isDigit = true)
    (hz : 1 < ds.length → ds.head? ≠ some '0') : Nat.toDigits 10 (digitsValue 0 ds) = ds := by
  induction ds using List.reverseRecOn with
  | nil => exact absurd rfl hne
  | append_singleton ds d ih =>
    rw [List.all_append, Bool.and_eq_true, List.all_cons, Bool.and_eq_true] at h
    obtain ⟨hds, hd, -⟩ := h
    have hlt := (toNat_of_isDigit hd).2
    have h48 : '0'.toNat = 48 := rfl
    rw [digitsValue_concat, h48]
    by_cases hnil : ds = []
    · subst hnil
      have hempty : digitsValue 0 [] = 0 := rfl
      rw [hempty, Nat.mul_zero, Nat.zero_add, List.nil_append, Nat.toDigits_of_lt_base (by omega),
        digitChar_of_isDigit hd]
    · have hlead : ds.head? ≠ some '0' := by
        have hpos := List.length_pos_iff.mpr hnil
        have hhead := hz (by rw [List.length_append, List.length_singleton]; omega)
        rwa [List.head?_append, Option.or_of_isSome (by simpa using hnil)] at hhead
      have hpos := digitsValue_pos hnil hds hlead
      rw [← Nat.toDigits_append_toDigits (by decide) hpos (by omega), ih hnil hds fun _ => hlead,
        Nat.toDigits_of_lt_base (by omega), digitChar_of_isDigit hd]

theorem word64?_toString {n : Nat} (h : n ≤ word64Limit) : word64? (toString n) = some n := by
  have hall : (Nat.toDigits 10 n).all isDigit = true :=
    List.all_eq_true.mpr fun c hc => isDigit_of_mem hc
  rw [word64?, bounded?, Nat.toString_eq_ofList_toDigits, String.toList_ofList,
    natural?_of_digits Nat.toDigits_ne_nil hall, digitsValue_eq, Nat.ofDigitChars_ten_toDigits]
  simp [h]

end CloudEmulation.Numeral
