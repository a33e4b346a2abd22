import CloudEmulation.Proofs.Number.Numeral
import CloudEmulation.Proofs.Text.Runs
import CloudEmulation.Proofs.Time.Calendar
import CloudEmulation.Time.Reading
import Mathlib.Data.Nat.Digits.Defs
/-!
The text of a point in time is read as the point in time.
-/

namespace CloudEmulation.Timestamp

open Text (isBlank trimStart)
open Numeral (isDigit digitsValue)

/-- A point in time of a year that can be read, where a fraction beyond a second belongs to the last
second of a minute. -/
structure Valid (t : Timestamp) : Prop where
  year : Read.minYear ≤ t.date.year ∧ t.date.year ≤ Read.maxYear
  nanos : t.nanos < 1000000000 ∨ t.nanos < 2000000000 ∧ t.seconds % 60 = 59

/-! Padded numbers. -/

section

variable {width n : Nat} {c : Char} {rest : List Char}

def paddedDigits (width n : Nat) : List Char :=
  List.replicate (width - (Nat.toDigits 10 n).length) '0' ++ Nat.toDigits 10 n

theorem toList_padded (width n : Nat) : (padded width n).toList = paddedDigits width n :=
  String.toList_ofList

theorem isDigit_padded : ∀ c ∈ paddedDigits width n, isDigit c = true := by
  intro c hc
  obtain hc | hc := List.mem_append.mp hc
  · rw [List.eq_of_mem_replicate hc]
    rfl
  · exact Numeral.isDigit_of_mem hc

theorem padded_ne_nil : paddedDigits width n ≠ [] := by
  intro h
  exact Nat.toDigits_ne_nil (List.append_eq_nil_iff.mp h).2

theorem digitsValue_padded : digitsValue 0 (paddedDigits width n) = n := by
  have hzeros : ∀ k, (List.replicate k '0').foldl
      (fun n c => 10 * n + (c.toNat - '0'.toNat)) 0 = 0 := by
    intro k
    induction k with
    | zero => rfl
    | succ k ih => exact ih
  rw [digitsValue, paddedDigits, List.foldl_append, hzeros]
  show digitsValue 0 _ = n
  rw [Numeral.digitsValue_eq, Nat.ofDigitChars_ten_toDigits]

theorem length_padded (h : n < 10 ^ width) (hw : 0 < width) :
    (paddedDigits width n).length = width := by
  have hle := Nat.toDigits_length 10 n width hw h
  rw [paddedDigits, List.length_append, List.length_replicate]
  omega

/-- A character that ends a number. -/
def Ends (rest : List Char) : Prop := ∀ c ∈ rest.head?, isDigit c = false

theorem Ends.halts (h : Ends rest) : Text.Halts isDigit rest := h

theorem Ends.take (h : Ends rest) (n : Nat) : Ends (rest.take n) := by
  cases n with
  | zero => exact fun c hc => by cases hc
  | succ n =>
    cases rest with
    | nil => exact h
    | cons c rest => exact h

theorem read_digits {ds : List Char} {k : Nat} (hd : ∀ c ∈ ds, isDigit c = true) (hne : ds ≠ [])
    (hk : ds.length ≤ k) (he : Ends rest ∨ ds.length = k)
    (hv : digitsValue 0 ds ≤ Read.numberLimit) :
    Read.digits k (ds ++ rest) = .ok (digitsValue 0 ds, rest) := by
  have hend : (rest.take (k - ds.length)).takeWhile isDigit = [] := by
    obtain he | rfl := he
    · exact (he.take _).halts.takeWhile
    · rw [Nat.sub_self, List.take_zero, List.takeWhile_nil]
  have hrun : ((ds ++ rest).take k).takeWhile isDigit = ds := by
    rw [List.take_append, List.take_of_length_le hk, List.takeWhile_append_of_pos hd, hend,
      List.append_nil]
  cases hds : ds with
  | nil => exact absurd hds hne
  | cons c cs =>
    have hc : isDigit c = true := hd c (hds ▸ List.mem_cons_self)
    rw [hds] at hrun hv
    simp only [Read.digits, List.cons_append, hc, Bool.not_true, Bool.false_eq_true, if_false]
    rw [← List.cons_append, hrun, if_neg (Nat.not_lt.mpr hv), List.drop_left]

theorem read_padded (h : n < 10 ^ width) (hw : 0 < width) (hv : n ≤ Read.numberLimit) :
    Read.digits width (paddedDigits width n ++ rest) = .ok (n, rest) := by
  have hlength := length_padded h hw
  have hread : Read.digits width (paddedDigits width n ++ rest) =
      .ok (digitsValue 0 (paddedDigits width n), rest) :=
    read_digits isDigit_padded padded_ne_nil (Nat.le_of_eq hlength) (.inr hlength)
      (digitsValue_padded.symm ▸ hv)
  rwa [digitsValue_padded] at hread

theorem not_blank_of_isDigit (h : isDigit c = true) : isBlank c = false := by
  rw [isDigit, Bool.and_eq_true, decide_eq_true_eq, decide_eq_true_eq] at h
  have hlow : 48 ≤ c.toNat := h.1
  have hhigh : c.toNat ≤ 57 := h.2
  have hspace : c ≠ ' ' := by
    rintro rfl
    exact absurd hlow (by decide)
  rw [isBlank, if_pos (by omega), decide_eq_false hspace, Bool.false_or]
  simp only [Bool.and_eq_false_iff, decide_eq_false_iff_not]
  omega

theorem trimStart_cons (h : isBlank c = false) : trimStart (c :: rest) = c :: rest := by
  rw [trimStart, List.dropWhile_cons, h, if_neg Bool.false_ne_true]

theorem trimStart_padded : trimStart (paddedDigits width n ++ rest) =
    paddedDigits width n ++ rest := by
  cases hds : paddedDigits width n with
  | nil => exact absurd hds padded_ne_nil
  | cons c cs =>
    have hc := not_blank_of_isDigit (isDigit_padded c (hds ▸ List.mem_cons_self))
    rw [List.cons_append, trimStart_cons hc]

theorem read_field {low high : Nat} (h : n < 100) (hlow : low ≤ n) (hhigh : n ≤ high) :
    Read.field low high (paddedDigits 2 n ++ rest) = .ok (n, rest) := by
  have hread : Read.digits 2 (paddedDigits 2 n ++ rest) = .ok (n, rest) :=
    read_padded h (by decide) (by simp only [Read.numberLimit]; omega)
  simp only [Read.field, trimStart_padded, hread, bind, Except.bind, if_pos (And.intro hlow hhigh)]
  rfl

theorem read_literal (h : isBlank c = false) : Read.literal c (c :: rest) = .ok rest := by
  rw [Read.literal, trimStart_cons h]
  exact if_pos rfl

/-! Years. -/

theorem Ends.of_cons (h : isDigit c = false) : Ends (c :: rest) := by
  intro x hx
  cases hx
  exact h

theorem yearText_eq {y : Int} : (yearText y).toList =
    if 0 ≤ y ∧ y ≤ 9999 then paddedDigits 4 y.toNat
    else (if y < 0 then '-' else '+') :: paddedDigits 4 y.natAbs := by
  rw [yearText]
  split
  · exact toList_padded _ _
  · rw [String.toList_append, toList_padded]
    split <;> rfl

theorem padded_ne_sign {cs : List Char} (h : paddedDigits width n = c :: cs) :
    c ≠ '-' ∧ c ≠ '+' := by
  have hc : isDigit c = true := isDigit_padded c (h ▸ List.mem_cons_self)
  constructor
  · rintro rfl
    cases hc
  · rintro rfl
    cases hc

theorem read_signed (hv : n ≤ Read.numberLimit) (he : Ends rest) :
    Read.digits (paddedDigits 4 n ++ rest).length (paddedDigits 4 n ++ rest) = .ok (n, rest) := by
  have hk : (paddedDigits 4 n).length ≤ (paddedDigits 4 n ++ rest).length := by
    rw [List.length_append]
    omega
  have hvalue : digitsValue 0 (paddedDigits 4 n) = n := digitsValue_padded
  have hread := read_digits isDigit_padded padded_ne_nil hk (.inl he) (hvalue.symm ▸ hv)
  rwa [digitsValue_padded] at hread

/-- Whether a year is small enough to be read. -/
def Bounded (y : Int) : Prop := -(Read.yearLimit : Int) ≤ y ∧ y < Read.yearLimit

theorem ok_bind {α β : Type} (a : α) (f : α → Read.Reading β) :
    ((.ok a : Read.Reading α) >>= f) = f a := rfl

/-! Bounds of years are never computed below: they are too large to count up to. -/

theorem year_minus {s : List Char} (h : Read.digits s.length s = .ok (n, rest))
    (hb : Bounded (-Int.ofNat n)) : Read.year ('-' :: s) = .ok (-Int.ofNat n, rest) := by
  have hblank : isBlank '-' = false := by decide
  rw [Read.year, trimStart_cons hblank]
  split
  · rename_i he
    obtain rfl := (List.cons.inj he).2
    rw [h, ok_bind]
    split
    rename_i hx
    cases hx
    rw [pure_bind]
    exact if_pos hb
  · rename_i he
    exact absurd (List.cons.inj he).1 (by decide)
  · rename_i hne _
    exact absurd rfl (hne s)

theorem year_plus {s : List Char} (h : Read.digits s.length s = .ok (n, rest))
    (hb : Bounded (Int.ofNat n)) : Read.year ('+' :: s) = .ok (Int.ofNat n, rest) := by
  have hblank : isBlank '+' = false := by decide
  rw [Read.year, trimStart_cons hblank]
  split
  · rename_i he
    exact absurd (List.cons.inj he).1 (by decide)
  · rename_i he
    obtain rfl := (List.cons.inj he).2
    rw [h, ok_bind]
    split
    rename_i hx
    cases hx
    rw [pure_bind]
    exact if_pos hb
  · rename_i hne
    exact absurd rfl (hne s)

theorem year_plain {m : Nat} {s : List Char}
    (h : Read.digits 4 (paddedDigits width m ++ s) = .ok (n, rest)) (hb : Bounded (Int.ofNat n)) :
    Read.year (paddedDigits width m ++ s) = .ok (Int.ofNat n, rest) := by
  rw [Read.year, trimStart_padded]
  split
  · rename_i he
    obtain ⟨cs, hcs, -⟩ := List.append_eq_cons_iff.mp he |>.resolve_left (by simp [padded_ne_nil])
    exact absurd rfl (padded_ne_sign hcs).1
  · rename_i he
    obtain ⟨cs, hcs, -⟩ := List.append_eq_cons_iff.mp he |>.resolve_left (by simp [padded_ne_nil])
    exact absurd rfl (padded_ne_sign hcs).2
  · rw [h, ok_bind]
    split
    rename_i hx
    cases hx
    rw [pure_bind]
    exact if_pos hb

theorem bounded_of_readable {y : Int} (hy : Read.minYear ≤ y ∧ y ≤ Read.maxYear) : Bounded y := by
  simp only [Read.minYear, Read.maxYear] at hy
  simp only [Bounded, Read.yearLimit]
  omega

theorem read_year {y : Int} (hy : Read.minYear ≤ y ∧ y ≤ Read.maxYear) (he : Ends rest) :
    Read.year ((yearText y).toList ++ rest) = .ok (y, rest) := by
  have hb := bounded_of_readable hy
  have hv : y.natAbs ≤ Read.numberLimit := by
    simp only [Read.minYear, Read.maxYear] at hy
    have hle : y.natAbs ≤ 262143 := by omega
    exact Nat.le_trans hle (by decide)
  have hsigned := read_signed hv he
  rw [yearText_eq]
  by_cases hplain : 0 ≤ y ∧ y ≤ 9999
  · have hy : Int.ofNat y.toNat = y := Int.toNat_of_nonneg hplain.1
    have hread : Read.digits 4 (paddedDigits 4 y.toNat ++ rest) = .ok (y.toNat, rest) :=
      read_padded (by omega) (by decide) (by simp only [Read.numberLimit]; omega)
    rw [if_pos hplain, year_plain hread (hy.symm ▸ hb), hy]
  · rw [if_neg hplain, List.cons_append]
    by_cases hneg : y < 0
    · have hy : -Int.ofNat y.natAbs = y := by
        rw [Int.ofNat_eq_natCast]
        omega
      rw [if_pos hneg, year_minus hsigned (hy.symm ▸ hb), hy]
    · have hy : Int.ofNat y.natAbs = y := by
        rw [Int.ofNat_eq_natCast]
        omega
      rw [if_neg hneg, year_plus hsigned (hy.symm ▸ hb), hy]

/-! Fractions of a second. -/

/-- The digits of a fraction, as few as are exact. -/
def fractionDigits (f : Nat) : List Char :=
  if f = 0 then []
  else if f % 1000000 = 0 then '.' :: paddedDigits 3 (f / 1000000)
  else if f % 1000 = 0 then '.' :: paddedDigits 6 (f / 1000)
  else '.' :: paddedDigits 9 f

theorem read_fraction_digits (h : n < 10 ^ width) (hw : 0 < width) (hle : width ≤ 9)
    (he : Ends rest) : Read.fraction ('.' :: (paddedDigits width n ++ rest)) =
      .ok (n * Nat.pow 10 (9 - width), rest) := by
  have hlength := length_padded h hw
  have hv : digitsValue 0 (paddedDigits width n) ≤ Read.numberLimit := by
    have hpow : 10 ^ width ≤ 10 ^ 9 := Nat.pow_le_pow_right (by decide) hle
    have hlimit : 10 ^ 9 ≤ Read.numberLimit := by decide
    rw [digitsValue_padded]
    omega
  have hread := read_digits isDigit_padded padded_ne_nil (hlength.symm ▸ hle) (.inl he) hv
  rw [digitsValue_padded] at hread
  have hcount : (paddedDigits width n ++ rest).length - rest.length = width := by
    rw [List.length_append, hlength]
    omega
  simp only [Read.fraction, hread, bind, Except.bind, pure, Except.pure, hcount,
    he.halts.dropWhile]

theorem read_fraction {f : Nat} (hf : f < 1000000000) (h : isDigit c = false) (hdot : c ≠ '.') :
    Read.fraction (fractionDigits f ++ c :: rest) = .ok (f, c :: rest) := by
  have he : Ends (c :: rest) := .of_cons h
  unfold fractionDigits
  split
  · rename_i hzero
    subst hzero
    rw [List.nil_append]
    unfold Read.fraction
    split
    · rename_i he
      cases he
      exact absurd rfl hdot
    · rfl
  · split
    · rw [List.cons_append, read_fraction_digits (by omega) (by decide) (by decide) he]
      show Except.ok (f / 1000000 * 1000000, _) = _
      rw [Nat.div_mul_cancel (Nat.dvd_of_mod_eq_zero ‹_›)]
    · split
      · rw [List.cons_append, read_fraction_digits (by omega) (by decide) (by decide) he]
        show Except.ok (f / 1000 * 1000, _) = _
        rw [Nat.div_mul_cancel (Nat.dvd_of_mod_eq_zero ‹_›)]
      · rw [List.cons_append, read_fraction_digits (by omega) (by decide) (by decide) he]
        show Except.ok (f * 1, _) = _
        rw [Nat.mul_one]

end

/-! The whole text. -/

variable {t : Timestamp}

theorem toList_text (t : Timestamp) : t.text.toList =
    (yearText t.date.year).toList ++ '-' :: (paddedDigits 2 t.date.month ++
      '-' :: (paddedDigits 2 t.date.day ++ 'T' :: (paddedDigits 2 t.hour ++
        ':' :: (paddedDigits 2 t.minute ++ ':' :: (paddedDigits 2 t.second ++
          (fractionDigits t.fraction ++ ['Z'])))))) := by
  have hfraction : (if t.fraction = 0 then ""
      else if t.fraction % 1000000 = 0 then "." ++ padded 3 (t.fraction / 1000000)
      else if t.fraction % 1000 = 0 then "." ++ padded 6 (t.fraction / 1000)
      else "." ++ padded 9 t.fraction).toList = fractionDigits t.fraction := by
    unfold fractionDigits
    split
    · rfl
    · split
      · rw [String.toList_append, toList_padded]
        rfl
      · split
        · rw [String.toList_append, toList_padded]
          rfl
        · rw [String.toList_append, toList_padded]
          rfl
  simp only [text, withFraction, String.toList_append, toList_padded, hfraction]
  simp

theorem daysInMonth_le (year : Int) (month : Nat) : Date.daysInMonth year month ≤ 31 := by
  unfold Date.daysInMonth
  split
  · split <;> decide
  all_goals decide

theorem secondOfDay_eq (t : Timestamp) : (t.secondOfDay : Int) = t.seconds % 86400 := by
  have hmod : t.seconds.fmod 86400 = t.seconds % 86400 :=
    Int.fmod_eq_emod_of_nonneg _ (by decide)
  rw [secondOfDay, hmod]
  omega

theorem read_offset : Read.offset ['Z'] = .ok (0, []) := by
  have hblank : isBlank 'Z' = false := by decide
  rw [Read.offset, trimStart_cons hblank]
  rfl

theorem isValid_date (t : Timestamp) : t.date.isValid = true := Date.isValid_ofDays _

theorem hour_le (t : Timestamp) : t.hour ≤ 23 := by
  have hsecond := secondOfDay_eq t
  rw [hour]
  omega

theorem minute_le (t : Timestamp) : t.minute ≤ 59 := by
  rw [minute]
  omega

/-- A second is written as it is, or as the sixtieth where the fraction goes beyond it. -/
theorem Valid.second_cases (h : t.Valid) :
    t.second = t.secondOfDay % 60 ∧ t.nanos / 1000000000 = 0 ∨
      t.second = 60 ∧ t.secondOfDay % 60 = 59 ∧ t.nanos / 1000000000 = 1 := by
  have hsecond := secondOfDay_eq t
  have hnanos := h.nanos
  rw [second]
  omega

theorem Valid.seconds_eq (h : t.Valid) : t.date.toDays * 86400 +
    (t.hour * 3600 + t.minute * 60 + (t.second - (t.second / 60 : Nat))) = t.seconds := by
  have hsecond := secondOfDay_eq t
  have hleap := h.second_cases
  rw [date, Date.toDays_ofDays, Int.fdiv_eq_ediv_of_nonneg _ (by decide), hour, minute]
  omega

theorem Valid.nanos_eq (h : t.Valid) : t.fraction + t.second / 60 * 1000000000 = t.nanos := by
  have hleap := h.second_cases
  rw [fraction]
  omega

theorem Valid.in_range (h : t.Valid) : ¬(86400 ≤ (0 : Int).natAbs ∨ (!t.date.isValid) = true ∨
    t.date.year < Read.minYear ∨ Read.maxYear < t.date.year) := by
  have hyear := h.year
  rw [isValid_date t]
  simp only [Int.natAbs_zero, Bool.not_true, Bool.false_eq_true, false_or]
  omega

theorem Valid.parse_text (h : t.Valid) : parse t.text = .ok t := by
  obtain ⟨hmonth, hmonth', hday, hday'⟩ := Date.isValid_iff.mp (isValid_date t)
  have hday' := Nat.le_trans hday' (daysInMonth_le _ _)
  have hhour := hour_le t
  have hminute := minute_le t
  have hsecond : t.second ≤ 60 := by
    have hleap := h.second_cases
    omega
  have hfraction : t.fraction < 1000000000 := Nat.mod_lt _ (by decide)
  have hdash : isBlank '-' = false := by decide
  have hcolon : isBlank ':' = false := by decide
  -- The parts are read from the left, each up to the character that ends it.
  rw [parse, toList_text, Read.timestamp, read_year h.year (.of_cons (by decide))]
  simp only [ok_bind, read_literal hdash]
  rw [read_field (by omega) hmonth hmonth']
  simp only [ok_bind, read_literal hdash]
  rw [read_field (by omega) hday hday']
  simp only [ok_bind, Read.separator]
  rw [if_pos (by decide)]
  simp only [ok_bind]
  rw [read_field (by omega) (Nat.zero_le _) hhour]
  simp only [ok_bind, read_literal hcolon]
  rw [read_field (by omega) (Nat.zero_le _) hminute]
  simp only [ok_bind, read_literal hcolon]
  rw [read_field (by omega) (Nat.zero_le _) hsecond]
  simp only [ok_bind]
  rw [read_fraction hfraction (by decide) (by decide)]
  simp only [ok_bind, read_offset]
  rw [if_neg (by simp [trimStart]), if_neg h.in_range]
  show Except.ok (Timestamp.mk _ _) = .ok ⟨t.seconds, t.nanos⟩
  rw [Int.sub_zero, h.seconds_eq, h.nanos_eq]

end CloudEmulation.Timestamp
