import CloudEmulation.Proofs.Number.Numeral
import CloudEmulation.Proofs.Text.Parts
import CloudEmulation.Url.Host
import Mathlib.Algebra.Group.Nat.Defs
/-!
Hosts that are numbers: digits are read back, and an IPv4 address has one text.
-/

namespace CloudEmulation.Url.Host

variable {base n k : Nat} {c : Char} {s : List Char} {t : String}

/-! Digits. -/

theorem hexDigit?_digitChar (h : n < 16) : hexDigit? (Nat.digitChar n) = some n := by
  have hd : ∀ n, n < 16 → hexDigit? (Nat.digitChar n) = some n := by decide
  exact hd n h

/-- Reads one more digit. -/
def pushDigit (base : Nat) (n : Nat) (c : Char) : Option Nat :=
  (hexDigit? c).bind fun d => if d < base then some (base * n + d) else none

theorem pushDigit_eq_some {m : Nat} (h : pushDigit base n c = some m) :
    ∃ d, hexDigit? c = some d ∧ d < base ∧ m = base * n + d := by
  obtain ⟨d, hd, h⟩ := Option.bind_eq_some_iff.mp h
  split at h
  · rename_i hlt
    exact ⟨d, hd, hlt, (Option.some.inj h).symm⟩
  · cases h

theorem foldlM_pushDigit_lt {m : Nat} (h : s.foldlM (pushDigit base) m = some n) :
    n < (m + 1) * base ^ s.length := by
  induction s generalizing m with
  | nil =>
    cases h
    simp
  | cons c s ih =>
    rw [List.foldlM_cons] at h
    obtain ⟨m', hpush, h⟩ := Option.bind_eq_some_iff.mp h
    obtain ⟨d, -, hlt, rfl⟩ := pushDigit_eq_some hpush
    refine Nat.lt_of_lt_of_le (ih h) ?_
    rw [List.length_cons, Nat.pow_succ', ← Nat.mul_assoc]
    refine Nat.mul_le_mul_right _ ?_
    rw [Nat.mul_comm base, Nat.add_mul, Nat.one_mul]
    omega

theorem lt_of_ofDigits? (h : ofDigits? base s = some n) : n < base ^ s.length := by
  have hlt : n < (0 + 1) * base ^ s.length := foldlM_pushDigit_lt h
  rwa [Nat.zero_add, Nat.one_mul] at hlt

/-- The digits of a number are read as the number. -/
theorem ofDigits?_toDigits (hb : 1 < base) (hle : base ≤ 16) (n : Nat) :
    ofDigits? base (Nat.toDigits base n) = some n := by
  have hpush (m d : Nat) (hd : d < base) :
      pushDigit base m (Nat.digitChar d) = some (base * m + d) := by
    rw [pushDigit, hexDigit?_digitChar (by omega), Option.bind_some, if_pos hd]
  show (Nat.toDigits base n).foldlM (pushDigit base) 0 = some n
  induction n using Nat.strongRecOn with
  | _ n ih =>
    by_cases hn : n < base
    · rw [Nat.toDigits_of_lt_base hn, List.foldlM_cons, hpush 0 n hn]
      simp
    · have hrec := ih (n / base) (Nat.div_lt_self (by omega) hb)
      rw [Nat.toDigits_of_base_le hb (by omega), List.foldlM_append, hrec]
      show List.foldlM (pushDigit base) (n / base) [(n % base).digitChar] = some n
      rw [List.foldlM_cons, hpush _ _ (Nat.mod_lt n (by omega)), Nat.div_add_mod]
      rfl

/-! IPv4 addresses. -/

theorem head?_toDigits (h : 0 < n) : (Nat.toDigits 10 n).head? ≠ some '0' := by
  induction n using Nat.strongRecOn with
  | _ n ih =>
    by_cases hn : n < 10
    · have hd : ∀ n, n < 10 → 0 < n → Nat.digitChar n ≠ '0' := by decide
      rw [Nat.toDigits_of_lt_base hn, List.head?_cons, ne_eq, Option.some.injEq]
      exact hd n hn h
    · rw [Nat.toDigits_of_base_le (by decide) (by omega), List.head?_append_of_ne_nil _
        Nat.toDigits_ne_nil]
      exact ih (n / 10) (Nat.div_lt_self h (by decide)) (by omega)

/-- A decimal number is read as such; only zero begins like an octal one. -/
theorem part?_toDigits (n : Nat) : part? (Nat.toDigits 10 n) = some n := by
  rcases Nat.eq_zero_or_pos n with rfl | hn
  · rfl
  · have hread : ofDigits? 10 (Nat.toDigits 10 n) = some n :=
      ofDigits?_toDigits (by decide) (by decide) n
    have hhead := head?_toDigits hn
    cases hd : Nat.toDigits 10 n with
    | nil => exact absurd hd Nat.toDigits_ne_nil
    | cons c ds =>
      rw [hd] at hread hhead
      have hc : c ≠ '0' := by
        rintro rfl
        exact hhead rfl
      unfold part?
      simp [hc, hread]

/-- The numbers between the dots of an address. -/
def quads (n : Nat) : List Nat := [n / 0x1000000, n / 0x10000 % 0x100, n / 0x100 % 0x100, n % 0x100]

theorem toList_ipv4Text (n : Nat) :
    (ipv4Text n).toList = ['.'].intercalate ((quads n).map (Nat.toDigits 10)) := by
  have hdigits : ((quads n).map toString).map String.toList = (quads n).map (Nat.toDigits 10) := by
    rw [List.map_map]
    refine List.map_congr_left fun m _ => ?_
    rw [Function.comp_apply, Nat.toString_eq_ofList_toDigits, String.toList_ofList]
  show (".".intercalate ((quads n).map toString)).toList = _
  rw [String.toList_intercalate, hdigits]
  rfl

theorem mem_ipv4Text (h : c ∈ (ipv4Text n).toList) : c = '.' ∨ Numeral.isDigit c = true := by
  rw [toList_ipv4Text] at h
  refine (Text.mem_intercalate h).imp_right ?_
  rintro ⟨l, hl, hc⟩
  obtain ⟨m, -, rfl⟩ := List.mem_map.mp hl
  exact Numeral.isDigit_of_mem hc

theorem splitOnP_ipv4Text (n : Nat) :
    (ipv4Text n).toList.splitOnP (· = '.') = (quads n).map (Nat.toDigits 10) := by
  rw [toList_ipv4Text]
  refine Text.splitOnP_intercalate ?_ (by simp [quads])
  intro l hl hdot
  obtain ⟨m, -, rfl⟩ := List.mem_map.mp hl
  exact absurd (Numeral.isDigit_of_mem hdot) (by decide)

theorem ipv4Text_ne_nil (n : Nat) : (ipv4Text n).toList ≠ [] := by
  intro he
  have hsplit := splitOnP_ipv4Text n
  rw [he, List.splitOnP_nil] at hsplit
  exact absurd (congrArg List.length hsplit) (by simp [quads])

theorem withoutLastEmpty_ipv4Text (n : Nat) :
    withoutLastEmpty ((ipv4Text n).toList.splitOnP (· = '.')) =
      (quads n).map (Nat.toDigits 10) := by
  have hne : ∀ l ∈ (quads n).map (Nat.toDigits 10), l ≠ [] := by
    intro l hl
    obtain ⟨m, -, rfl⟩ := List.mem_map.mp hl
    exact Nat.toDigits_ne_nil
  rw [splitOnP_ipv4Text]
  unfold withoutLastEmpty
  split
  · rename_i hlast
    have hmem := List.mem_reverse.mp (hlast ▸ List.mem_cons_self)
    exact absurd rfl (hne [] hmem)
  · rfl

theorem endsInNumber_ipv4Text (n : Nat) : endsInNumber (ipv4Text n).toList = true := by
  have hlast : ((quads n).map (Nat.toDigits 10)).getLast? = some (Nat.toDigits 10 (n % 0x100)) :=
    rfl
  have hall : (Nat.toDigits 10 (n % 0x100)).all Numeral.isDigit = true :=
    List.all_eq_true.mpr fun c hc => Numeral.isDigit_of_mem hc
  simp [endsInNumber, withoutLastEmpty_ipv4Text, hlast, hall, Nat.toDigits_ne_nil]

theorem ipv4_ipv4Text (h : n < 0x100000000) : ipv4 (ipv4Text n).toList = .ok (ipv4Text n) := by
  have hm : ((quads n).map (Nat.toDigits 10)).mapM part? = some (quads n) := by
    rw [Text.mapM_eq_some, List.map_map]
    exact List.map_congr_left fun m _ => part?_toDigits m
  have hheads : (quads n).dropLast.any (255 < ·) = false := by
    simp [quads]
    omega
  have hroom : ¬Nat.pow 256 (5 - (quads n).length) ≤ (quads n).getLastD 0 := by
    show ¬256 ≤ n % 0x100
    omega
  have hsum : (quads n).dropLast.foldl (256 * · + ·) 0 * Nat.pow 256 (5 - (quads n).length) +
      (quads n).getLastD 0 = n := by
    show (256 * (256 * (256 * 0 + n / 0x1000000) + n / 0x10000 % 0x100) + n / 0x100 % 0x100) * 256 +
      n % 0x100 = n
    omega
  have hlength : ¬4 < (quads n).length := by simp [quads]
  unfold ipv4
  simp only [withoutLastEmpty_ipv4Text, hm, hlength, hheads, hroom, hsum, Bool.false_eq_true,
    or_false, if_false]

theorem foldl_bytes_lt {bs : List Nat} {m : Nat} (h : ∀ b ∈ bs, b ≤ 255) :
    bs.foldl (256 * · + ·) m < (m + 1) * 256 ^ bs.length := by
  induction bs generalizing m with
  | nil => simp
  | cons b bs ih =>
    have hb := h b List.mem_cons_self
    refine Nat.lt_of_lt_of_le (ih fun c hc => h c (List.mem_cons_of_mem _ hc)) ?_
    rw [List.length_cons, Nat.pow_succ', ← Nat.mul_assoc]
    refine Nat.mul_le_mul_right _ ?_
    show 256 * m + b + 1 ≤ (m + 1) * 256
    omega

/-- What is read as an address is the text of a number of 32 bits. -/
theorem of_ipv4 (h : ipv4 s = .ok t) : ∃ n, n < 0x100000000 ∧ t = ipv4Text n := by
  unfold ipv4 at h
  simp only at h
  split at h
  · cases h
  · rename_i ns hns
    split at h
    · cases h
    · rename_i hbounds
      cases h
      refine ⟨_, ?_, rfl⟩
      simp only [not_or, Nat.not_lt, List.any_eq_true, decide_eq_true_eq, not_exists, not_and,
        Nat.not_le] at hbounds
      obtain ⟨hlength, hheads, hlast⟩ := hbounds
      have hhigh := foldl_bytes_lt (m := 0) hheads
      rw [Nat.zero_add, Nat.one_mul, List.length_dropLast] at hhigh
      cases ns with
      | nil => decide
      | cons b bs =>
        rw [List.length_cons] at hlength hlast hhigh ⊢
        have hpow : 256 ^ (bs.length + 1 - 1) * Nat.pow 256 (5 - (bs.length + 1)) =
            0x100000000 := by
          show 256 ^ (bs.length + 1 - 1) * 256 ^ (5 - (bs.length + 1)) = 256 ^ 4
          rw [← Nat.pow_add]
          congr 1
          omega
        have hle := Nat.mul_le_mul_right (Nat.pow 256 (5 - (bs.length + 1)))
          (Nat.succ_le_of_lt hhigh)
        rw [hpow, Nat.succ_mul] at hle
        omega

end CloudEmulation.Url.Host
