import CloudEmulation.Time.Timestamp
import Mathlib.Tactic.IntervalCases
/-!
The civil calendar: the date of a day is one that exists, and tells the day.
-/

namespace CloudEmulation.Date

variable {d : Date} {m : Nat}

theorem isValid_iff : d.isValid = true ↔
    1 ≤ d.month ∧ d.month ≤ 12 ∧ 1 ≤ d.day ∧ d.day ≤ daysInMonth d.year d.month := by
  simp [isValid, and_assoc]

/-- The month that is so many months after March. -/
def monthOf (fromMarch : Nat) : Nat := if fromMarch < 10 then fromMarch + 3 else fromMarch - 9

theorem monthOf_bounds (h : m < 12) : 1 ≤ monthOf m ∧ monthOf m ≤ 12 := by
  rw [monthOf]
  split <;> omega

theorem monthOf_fromMarch (h : m < 12) : (monthOf m + 9) % 12 = m := by
  rw [monthOf]
  split <;> omega

theorem daysInMonth_monthOf (h : m < 11) (year : Int) :
    daysInMonth year (monthOf m) = daysBefore (m + 1) - daysBefore m := by
  interval_cases m <;> rfl

/-- A day of an era of four hundred years: centuries, cycles of four years, years and days that have
passed. Years begin in March, so that the day that only leap years have is the last one. -/
structure Place where
  century : Nat
  cycle : Nat
  year : Nat
  day : Nat

namespace Place

def number (p : Place) : Nat := 36524 * p.century + 1461 * p.cycle + 365 * p.year + p.day

def yearOfEra (p : Place) : Nat := 100 * p.century + 4 * p.cycle + p.year

/-- Whether the year ends with a leap day. -/
def Leaps (p : Place) : Prop := p.year = 3 ∧ (p.cycle = 24 → p.century = 3)

structure Valid (p : Place) : Prop where
  century : p.century ≤ 3
  cycle : p.cycle ≤ 24
  year : p.year ≤ 3
  day : p.day ≤ 365
  leap : p.day = 365 → p.Leaps

variable {p : Place}

theorem exists_place {e : Nat} (h : e < 146097) : ∃ p : Place, p.Valid ∧ p.number = e := by
  -- The last day of the era and the last one of a cycle belong to the year before.
  let century := min (e / 36524) 3
  let ofCentury := e - 36524 * century
  let cycle := ofCentury / 1461
  let ofCycle := ofCentury % 1461
  let year := min (ofCycle / 365) 3
  have hcentury : century ≤ 3 ∧ 36524 * century ≤ e ∧ ofCentury ≤ 36524 ∧
      (century < 3 → ofCentury < 36524) := by omega
  have hyear : year ≤ 3 ∧ 365 * year ≤ ofCycle ∧ ofCycle - 365 * year ≤ 365 ∧
      (ofCycle - 365 * year = 365 → year = 3) := by omega
  refine ⟨⟨century, cycle, year, ofCycle - 365 * year⟩, ⟨hcentury.1, ?_, hyear.1, hyear.2.2.1, ?_⟩, ?_⟩
  · show cycle ≤ 24
    omega
  · intro hd
    refine ⟨hyear.2.2.2 hd, fun hc => ?_⟩
    have hd : ofCycle - 365 * year = 365 := hd
    have hc : cycle = 24 := hc
    have hy := hyear.2.2.2 hd
    show century = 3
    omega
  · show 36524 * century + 1461 * cycle + 365 * year + (ofCycle - 365 * year) = e
    omega

theorem Valid.yearOfEra_lt (h : p.Valid) : p.yearOfEra < 400 := by
  have := h.century
  have := h.cycle
  have := h.year
  rw [yearOfEra]
  omega

theorem Valid.yearOfEra_eq (h : p.Valid) :
    (p.number - p.number / 1460 + p.number / 36524 - p.number / 146096) / 365 = p.yearOfEra := by
  obtain ⟨century, cycle, year, day⟩ := p
  obtain ⟨hcentury, hcycle, hyear, hday, hleap⟩ := h
  simp only [Leaps] at hcentury hcycle hyear hday hleap
  simp only [number, yearOfEra]
  generalize he : 36524 * century + 1461 * cycle + 365 * year + day = e
  have hcentury' : 1461 * cycle + 365 * year + day < 36524 ∨
      century = 3 ∧ 1461 * cycle + 365 * year + day = 36524 := by omega
  have hcenturies : e / 36524 = century + e / 146096 := by
    obtain hlt | ⟨rfl, hlast⟩ := hcentury'
    · have hera : e / 146096 = 0 := by omega
      omega
    · omega
  have hcycles : e / 1460 = 25 * century + cycle ∨
      e / 1460 = 25 * century + cycle + 1 ∧ 1095 < 365 * year + day := by omega
  omega

theorem Valid.day_eq (h : p.Valid) :
    p.number - (365 * p.yearOfEra + p.yearOfEra / 4 - p.yearOfEra / 100) = p.day := by
  obtain ⟨century, cycle, year, day⟩ := p
  obtain ⟨hcentury, hcycle, hyear, hday, hleap⟩ := h
  simp only at hcentury hcycle hyear hday
  simp only [number, yearOfEra]
  omega

/-- The date of a day, where months are counted from March on. -/
def date (era : Int) (p : Place) : Date :=
  let fromMarch := (5 * p.day + 2) / 153
  let month := monthOf fromMarch
  let year := era * 400 + p.yearOfEra
  ⟨if month ≤ 2 then year + 1 else year, month, p.day - daysBefore fromMarch + 1⟩

theorem Valid.leap_year (h : p.Valid) (hd : p.day = 365) (era : Int) :
    isLeap (era * 400 + p.yearOfEra + 1) = true := by
  obtain ⟨century, cycle, year, day⟩ := p
  obtain ⟨hcentury, hcycle, -, -, hleap⟩ := h
  obtain ⟨hyear, hlast⟩ := hleap hd
  simp only at hcentury hcycle hyear hlast
  simp only [isLeap, yearOfEra, hyear, Bool.and_eq_true, Bool.or_eq_true, decide_eq_true_eq]
  refine ⟨by omega, ?_⟩
  by_cases hc : cycle = 24
  · have := hlast hc
    omega
  · omega

theorem Valid.isValid_date (h : p.Valid) (era : Int) : (p.date era).isValid = true := by
  have hday := h.day
  rw [isValid_iff]
  simp only [date]
  generalize hm : (5 * p.day + 2) / 153 = m
  have hlt : m < 12 := by omega
  obtain ⟨hlow, hhigh⟩ := monthOf_bounds hlt
  refine ⟨hlow, hhigh, Nat.le_add_left _ _, ?_⟩
  rcases Nat.lt_succ_iff_lt_or_eq.mp hlt with hlt | rfl
  · rw [daysInMonth_monthOf hlt]
    simp only [daysBefore]
    omega
  · -- The last month is February, which has its last day in a leap year.
    show p.day - 337 + 1 ≤ if isLeap (era * 400 + p.yearOfEra + 1) then 29 else 28
    split
    · omega
    · rename_i hn
      have hne : p.day ≠ 365 := fun hd => hn (h.leap_year hd era)
      omega

theorem Valid.toDays_date (h : p.Valid) (era : Int) :
    (p.date era).toDays = era * 146097 + p.number - 719468 := by
  have hnumber : (p.number : Int) =
      365 * p.yearOfEra + p.yearOfEra / 4 - p.yearOfEra / 100 + p.day := by
    obtain ⟨century, cycle, year, day⟩ := p
    obtain ⟨hcentury, hcycle, hyear, -, -⟩ := h
    simp only at hcentury hcycle hyear
    simp only [number, yearOfEra]
    omega
  have hlt := h.yearOfEra_lt
  have hday := h.day
  obtain ⟨m, hm⟩ : ∃ m, (5 * p.day + 2) / 153 = m := ⟨_, rfl⟩
  have hyear : (if (p.date era).month ≤ 2 then (p.date era).year - 1 else (p.date era).year) =
      era * 400 + p.yearOfEra := by
    simp only [date]
    split <;> simp
  have hmonth : ((p.date era).month + 9) % 12 = m := by
    simp only [date, hm]
    exact monthOf_fromMarch (by omega)
  have hofYear : daysBefore m + (p.date era).day - 1 = p.day := by
    simp only [date, hm, daysBefore]
    omega
  rw [toDays, hyear, hmonth, hofYear]
  rw [Int.fdiv_eq_ediv_of_nonneg _ (by decide : (0 : Int) ≤ 4),
    Int.fdiv_eq_ediv_of_nonneg _ (by decide : (0 : Int) ≤ 100),
    Int.fdiv_eq_ediv_of_nonneg _ (by decide : (0 : Int) ≤ 400)]
  omega

end Place

theorem exists_date (days : Int) :
    ∃ (era : Int) (p : Place), p.Valid ∧ days = era * 146097 + p.number - 719468 ∧
      ofDays days = p.date era := by
  have hlt : ((days + 719468) - (days + 719468) / 146097 * 146097).toNat < 146097 := by omega
  obtain ⟨p, hp, hnumber⟩ := Place.exists_place hlt
  refine ⟨(days + 719468) / 146097, p, hp, by omega, ?_⟩
  have hera : (days + 719468).fdiv 146097 = (days + 719468) / 146097 :=
    Int.fdiv_eq_ediv_of_nonneg _ (by decide)
  simp only [ofDays, hera, ← hnumber, hp.yearOfEra_eq, hp.day_eq]
  rfl

theorem isValid_ofDays (days : Int) : (ofDays days).isValid = true := by
  obtain ⟨era, p, hp, -, hd⟩ := exists_date days
  exact hd ▸ hp.isValid_date era

theorem toDays_ofDays (days : Int) : (ofDays days).toDays = days := by
  obtain ⟨era, p, hp, hdays, hd⟩ := exists_date days
  rw [hd, hp.toDays_date, ← hdays]

end CloudEmulation.Date
