import CloudEmulation.Text.CodePoints
import Mathlib.Data.Nat.Init
/-!
Tables of code points, as the lists of their entries.
-/

namespace CloudEmulation

theorem toNat_ofNat_of_isValidChar {n : Nat} (h : n.isValidChar) : (Char.ofNat n).toNat = n := by
  rw [Char.ofNat, dif_pos h]
  exact UInt32.toNat_ofNatLT ..

namespace Run

/-- The code points of a run. -/
def members (r : Run) : List Nat :=
  (List.range ((r.high - r.low) / r.step + 1)).map (r.low + · * r.step)

theorem mem_members {r : Run} {n : Nat} (h : r.contains n = true) : n ∈ r.members := by
  simp only [contains, Bool.and_eq_true, decide_eq_true_eq] at h
  obtain ⟨⟨hlow, hhigh⟩, hstep⟩ := h
  refine List.mem_map.mpr ⟨(n - r.low) / r.step, List.mem_range.mpr ?_, ?_⟩
  · exact Nat.lt_succ_of_le (Nat.div_le_div_right (Nat.sub_le_sub_right hhigh _))
  · rw [Nat.div_mul_cancel (Nat.dvd_of_mod_eq_zero hstep)]
    exact Nat.add_sub_cancel' hlow

theorem bounds_of_contains {r : Run} {n : Nat} (h : r.contains n = true) :
    r.low ≤ n ∧ n ≤ r.high := by
  simp only [contains, Bool.and_eq_true, decide_eq_true_eq] at h
  exact h.1

/-- Whether a run has nothing of an interval. -/
def apart (r : Run) (low high : Nat) : Bool := Nat.blt high r.low || Nat.blt r.high low

theorem contains_of_apart {r : Run} {low high n : Nat} (h : r.apart low high = true)
    (hlow : low ≤ n) (hhigh : n ≤ high) : r.contains n = false := by
  rw [Bool.eq_false_iff]
  intro hn
  have hbounds := bounds_of_contains hn
  simp only [apart, Bool.or_eq_true, Nat.blt_eq] at h
  omega

end Run

/-- The entries of a table, from the characters of its text. -/
def Run.cells (text : List Char) : List (List Char) :=
  (text.splitOnP fun c => c = ' ' || c = '\n').filter (· ≠ [])

/-- A text is given as its characters, which are compared without taking it apart. -/
theorem Run.entries_ofList (text : List Char) : entries (String.ofList text) = cells text := by
  rw [entries, String.toList_ofList, cells]

theorem CodePoints.contains_iff {p : CodePoints} {c : Char} :
    p.contains c = true ↔ ∃ r ∈ p.runs.toList, r.contains c.toNat = true := by
  rw [contains, Array.any_toList.symm, List.any_eq_true]

theorem CodePoints.runs_ofText (text : List Char) :
    (ofText (String.ofList text)).runs.toList = (Run.cells text).map Run.ofText := by
  rw [ofText, Run.entries_ofList]

namespace CodePointMap

variable {m : CodePointMap} {c : Char}

theorem shifts_ofText (text : List Char) :
    (ofText (String.ofList text)).shifts.toList = (Run.cells text).map Shift.ofText := by
  rw [ofText, Run.entries_ofList]

theorem apply_cases (m : CodePointMap) (c : Char) :
    (∃ s ∈ m.shifts.toList, s.run.contains c.toNat = true ∧
      m.apply c = Char.ofNat (s.apply c.toNat)) ∨
    (∀ s ∈ m.shifts.toList, s.run.contains c.toNat = false) ∧ m.apply c = c := by
  unfold apply
  rw [← Array.find?_toList]
  cases hs : m.shifts.toList.find? (·.run.contains c.toNat) with
  | none =>
    refine .inr ⟨fun s hmem => ?_, rfl⟩
    simpa using List.find?_eq_none.mp hs s hmem
  | some s =>
    have hc := List.find?_some (p := fun s : Shift => s.run.contains c.toNat) hs
    exact .inl ⟨s, List.mem_of_find?_eq_some hs, hc, rfl⟩

theorem apply_of_apart (h : ∀ s ∈ m.shifts.toList, s.run.contains c.toNat = false) :
    m.apply c = c := by
  rcases m.apply_cases c with ⟨s, hs, hc, -⟩ | ⟨-, he⟩
  · rw [h s hs] at hc
    cases hc
  · exact he

/-- Whether the runs that a table moves, other than those left out, come to admitted intervals, and
their code points to ones that the table does not move. -/
def settles (shifts : List Shift) (out : Run → Bool) (admitted : Nat → Nat → Bool) : Bool :=
  shifts.all fun s => out s.run ||
    admitted (s.apply s.run.low) (s.apply s.run.high) &&
      let near := shifts.filter (!·.run.apart (s.apply s.run.low) (s.apply s.run.high))
      s.run.members.all fun n => near.all (!·.run.contains (s.apply n))

theorem of_settles {shifts : List Shift} {out : Run → Bool} {admitted : Nat → Nat → Bool}
    (h : settles shifts out admitted = true) {s : Shift} (hs : s ∈ shifts) {n : Nat}
    (hn : s.run.contains n = true) (ho : out s.run = false) :
    (∀ t ∈ shifts, t.run.contains (s.apply n) = false) ∧
      ∃ low high, admitted low high = true ∧ low ≤ s.apply n ∧ s.apply n ≤ high := by
  have hshift := List.all_eq_true.mp h s hs
  obtain ⟨hlow, hhigh⟩ := Run.bounds_of_contains hn
  have hle : s.apply s.run.low ≤ s.apply n ∧ s.apply n ≤ s.apply s.run.high := by
    unfold Shift.apply
    split <;> omega
  simp only [ho, Bool.false_or, Bool.and_eq_true, List.all_eq_true, Bool.not_eq_true'] at hshift
  refine ⟨fun t ht => ?_, _, _, hshift.1, hle.1, hle.2⟩
  cases ha : t.run.apart (s.apply s.run.low) (s.apply s.run.high) with
  | true => exact Run.contains_of_apart ha hle.1 hle.2
  | false => exact hshift.2 n (Run.mem_members hn) t (List.mem_filter.mpr ⟨ht, by rw [ha]; rfl⟩)

end CodePointMap

end CloudEmulation
