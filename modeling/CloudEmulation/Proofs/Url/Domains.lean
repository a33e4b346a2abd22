import CloudEmulation.Proofs.Text.CodePoints
import CloudEmulation.Proofs.Text.Parts
import CloudEmulation.Proofs.Url.Punycode
import CloudEmulation.Url.Domain
/-!
Domain names in plain form stay as they are.
-/

namespace CloudEmulation.Url.Domain

open Text (lowerChar lowercaseMap dottedCapitalI)

variable {c d : Char} {s : List Char}

/-- The runs of the characters that do not count. -/
def ignoredRuns : List Run :=
  [⟨0xAD, 0xAD, 1⟩, ⟨0x34F, 0x34F, 1⟩, ⟨0x180B, 0x180D, 1⟩, ⟨0x180F, 0x180F, 1⟩,
    ⟨0x200B, 0x200B, 1⟩, ⟨0x2060, 0x2060, 1⟩, ⟨0x2064, 0x2064, 1⟩, ⟨0xFE00, 0xFE0F, 1⟩,
    ⟨0xFEFF, 0xFEFF, 1⟩, ⟨0x1BCA0, 0x1BCA3, 1⟩, ⟨0xE0100, 0xE01EF, 1⟩]

/-- The moves of wide characters onto ASCII ones. -/
def narrowShifts : List Shift :=
  [⟨⟨0x3002, 0x3002, 1⟩, false, 0x2FD4⟩, ⟨⟨0xFF01, 0xFF5E, 1⟩, false, 0xFEE0⟩,
    ⟨⟨0xFF61, 0xFF61, 1⟩, false, 0xFF33⟩]

theorem runs_ignored : ignored.runs.toList = ignoredRuns := by
  delta ignored
  refine (CodePoints.runs_ofText _).trans ?_
  decide +kernel

theorem shifts_narrow : narrow.shifts.toList = narrowShifts := by
  delta narrow
  refine (CodePointMap.shifts_ofText _).trans ?_
  decide +kernel

/-- Whether an interval has only code points of characters in plain form: no ASCII capitals, and no
characters that do not count or are wide. -/
def arePlain (low high : Nat) : Bool :=
  (Nat.blt high 0xD800 || Nat.blt 0xDFFF low && Nat.blt high 0x110000) &&
    (Nat.blt high 65 || Nat.blt 90 low) && (Nat.blt high 0x130 || Nat.blt 0x130 low) &&
    ignoredRuns.all (·.apart low high) && narrowShifts.all (·.run.apart low high)

theorem settles_lowercase : CodePointMap.settles lowercaseMap.shifts.toList
    (fun r => narrowShifts.any fun s => s.run.low ≤ r.low && r.high ≤ s.run.high) arePlain =
      true := by
  delta lowercaseMap
  rw [CodePointMap.shifts_ofText]
  decide +kernel

theorem plainForm_of_ascii (h : c.toNat < 128) : plainForm c = [c.toLower] := by
  rw [plainForm, if_pos h]

theorem plainForm_toLower (h : c.toNat < 128) : plainForm c.toLower = [c.toLower] := by
  have hc : c.toLower.toNat < 128 ∧ c.toLower.toLower = c.toLower := Text.of_ascii h (by decide)
  rw [plainForm_of_ascii hc.1, hc.2]

/-- A character beyond ASCII that no table knows stays. -/
theorem plainForm_self (h : 128 ≤ c.toNat)
    (hignored : ∀ r ∈ ignoredRuns, r.contains c.toNat = false)
    (hnarrow : ∀ s ∈ narrowShifts, s.run.contains c.toNat = false) (hdotted : c ≠ dottedCapitalI)
    (hlower : ∀ s ∈ lowercaseMap.shifts.toList, s.run.contains c.toNat = false) :
    plainForm c = [c] := by
  have hi : ignored.contains c = false := by
    rw [Bool.eq_false_iff, ne_eq, CodePoints.contains_iff, runs_ignored]
    rintro ⟨r, hr, hc⟩
    rw [hignored r hr] at hc
    cases hc
  have hn : narrow.apply c = c := CodePointMap.apply_of_apart (shifts_narrow ▸ hnarrow)
  have hascii : ¬c.toNat < 128 := by omega
  rw [plainForm, if_neg hascii, hi, hn, lowerChar, if_neg hascii, if_neg hdotted,
    CodePointMap.apply_of_apart hlower]
  rfl

theorem ascii_of_narrow {s : Shift} (hs : s ∈ narrowShifts) {n : Nat}
    (hn : s.run.contains n = true) : s.apply n < 128 := by
  have hb := Run.bounds_of_contains hn
  simp only [narrowShifts, List.mem_cons, List.not_mem_nil, or_false] at hs
  rcases hs with rfl | rfl | rfl <;>
    simp only [Shift.apply, Bool.false_eq_true, if_false] at hb ⊢ <;> omega

theorem not_narrow_run {s : Shift} (hn : ∀ t ∈ narrowShifts, t.run.contains c.toNat = false)
    (hc : s.run.contains c.toNat = true) :
    (narrowShifts.any fun t => t.run.low ≤ s.run.low && s.run.high ≤ t.run.high) = false := by
  rw [Bool.eq_false_iff, ne_eq, List.any_eq_true]
  rintro ⟨t, ht, hle⟩
  have hb := Run.bounds_of_contains hc
  have hstep : ∀ t ∈ narrowShifts, t.run.step = 1 := by decide
  have hnt := hn t ht
  simp only [Bool.and_eq_true, decide_eq_true_eq] at hle
  simp only [Run.contains, hstep t ht, Nat.mod_one, decide_true, Bool.and_true,
    Bool.and_eq_false_iff, decide_eq_false_iff_not] at hnt
  omega

/-- What a lower-case letter is moved to stays. -/
theorem plainForm_moved {s : Shift} (hs : s ∈ lowercaseMap.shifts.toList)
    (hn : ∀ t ∈ narrowShifts, t.run.contains c.toNat = false)
    (hc : s.run.contains c.toNat = true) :
    plainForm (Char.ofNat (s.apply c.toNat)) = [Char.ofNat (s.apply c.toNat)] := by
  obtain ⟨hlower, low, high, hplain, hle, hge⟩ :=
    CodePointMap.of_settles settles_lowercase hs hc (not_narrow_run hn hc)
  simp only [arePlain, Bool.and_eq_true, Bool.or_eq_true, Nat.blt_eq, List.all_eq_true] at hplain
  obtain ⟨⟨⟨⟨hvalid, hcapital⟩, hdotted⟩, hignored⟩, hnarrow⟩ := hplain
  generalize s.apply c.toNat = n at hlower hle hge
  have hn : (Char.ofNat n).toNat = n := toNat_ofNat_of_isValidChar (by
    unfold Nat.isValidChar
    omega)
  by_cases hascii : n < 128
  · have hd : ∀ n, n < 128 → ¬(65 ≤ n ∧ n ≤ 90) → (Char.ofNat n).toLower = Char.ofNat n := by decide
    rw [plainForm_of_ascii (by omega), hd n hascii (by omega)]
  · refine plainForm_self (by omega) ?_ ?_ ?_ ?_
    · exact fun r hr => hn.symm ▸ Run.contains_of_apart (hignored r hr) hle hge
    · exact fun t ht => hn.symm ▸ Run.contains_of_apart (hnarrow t ht) hle hge
    · intro he
      have hcode := congrArg Char.toNat he
      rw [hn] at hcode
      have hdot : dottedCapitalI.toNat = 0x130 := by decide
      omega
    · exact hn.symm ▸ hlower

theorem plainForm_combining : plainForm (Char.ofNat 0x307) = [Char.ofNat 0x307] := by
  refine plainForm_self (by decide) (by decide) (by decide) (by decide) ?_
  have hall : (lowercaseMap.shifts.toList.all fun s => !s.run.contains 0x307) = true := by
    delta lowercaseMap
    rw [CodePointMap.shifts_ofText]
    decide +kernel
  intro s hs
  simpa using List.all_eq_true.mp hall s hs

/-- What a character that is neither ignored nor wide is lowered to stays. -/
theorem plainForm_of_lower (hascii : ¬c.toNat < 128)
    (hi : ∀ r ∈ ignoredRuns, r.contains c.toNat = false)
    (hn : ∀ t ∈ narrowShifts, t.run.contains c.toNat = false) (h : d ∈ lowerChar c) :
    plainForm d = [d] := by
  rw [lowerChar, if_neg hascii] at h
  split at h
  · simp only [List.mem_cons, List.not_mem_nil, or_false] at h
    rcases h with rfl | rfl
    · rfl
    · exact plainForm_combining
  · rename_i hdotted
    rw [List.mem_singleton] at h
    rcases lowercaseMap.apply_cases c with ⟨s, hs, hc, hl⟩ | ⟨hl, hl'⟩
    · rw [h, hl]
      exact plainForm_moved hs hn hc
    · rw [h, hl']
      exact plainForm_self (by omega) hi hn hdotted hl

/-- Characters in plain form stay as they are. -/
theorem plainForm_of_mem (h : d ∈ plainForm c) : plainForm d = [d] := by
  by_cases hascii : c.toNat < 128
  · rw [plainForm_of_ascii hascii, List.mem_singleton] at h
    rw [h]
    exact plainForm_toLower hascii
  · rw [plainForm, if_neg hascii] at h
    split at h
    · cases h
    · rename_i hignored
      have hi : ∀ r ∈ ignoredRuns, r.contains c.toNat = false := by
        intro r hr
        rw [Bool.eq_false_iff]
        exact fun hc => hignored (CodePoints.contains_iff.mpr ⟨r, runs_ignored ▸ hr, hc⟩)
      rcases narrow.apply_cases c with ⟨s, hs, hc, hn⟩ | ⟨hn, hself⟩
      · -- A wide letter becomes one of the ASCII letters.
        rw [shifts_narrow] at hs
        have hlt := ascii_of_narrow hs hc
        have hcode : (Char.ofNat (s.apply c.toNat)).toNat = s.apply c.toNat :=
          toNat_ofNat_of_isValidChar (.inl (by omega))
        rw [hn, lowerChar, if_pos (by omega), List.mem_singleton] at h
        rw [h]
        exact plainForm_toLower (by omega)
      · rw [shifts_narrow] at hn
        exact plainForm_of_lower hascii hi hn (hself ▸ h)

theorem flatMap_plainForm_of_forall (h : ∀ c ∈ s, plainForm c = [c]) :
    s.flatMap plainForm = s := by
  induction s with
  | nil => rfl
  | cons c s ih =>
    rw [List.flatMap_cons, h c List.mem_cons_self, ih fun d hd => h d (List.mem_cons_of_mem _ hd),
      List.singleton_append]

/-! Labels and names. -/

variable {l : List Char} {ls : List (List Char)}

theorem plainForm_of_isDigitChar (h : Punycode.isDigitChar c = true) : plainForm c = [c] := by
  have hascii := Punycode.ascii_of_isDigitChar h
  have hlower : c.toLower = c := Text.of_ascii hascii (by decide) h
  rw [plainForm_of_ascii hascii, hlower]

theorem label?_cases (h : label? s = some l) :
    (l = s ∧ ∀ c ∈ s, c.toNat < 128) ∨
      (l = encoded ++ Punycode.encode s ∧ isAscii s = false ∧ isLabel s = true) := by
  unfold label? at h
  split at h
  · rename_i hprefix
    split at h
    · rename_i hencoding
      cases h
      obtain ⟨t, rfl⟩ := List.isPrefixOf_iff_prefix.mp hprefix
      rw [List.drop_left] at hencoding
      unfold isEncoding at hencoding
      split at hencoding
      · rename_i hd
        refine .inl ⟨rfl, fun c hc => ?_⟩
        rcases List.mem_append.mp hc with hc | hc
        · have hmark : ∀ c ∈ encoded, c.toNat < 128 := Text.forall_of_all (by decide)
          exact hmark c hc
        · exact Punycode.ascii_of_decode? hd c hc
      · cases hencoding
    · cases h
  · split at h
    · rename_i hascii
      cases h
      exact .inl ⟨rfl, fun c hc => of_decide_eq_true (List.all_eq_true.mp hascii c hc)⟩
    · rename_i hascii
      split at h
      · rename_i hlabel
        cases h
        exact .inr ⟨rfl, Bool.eq_false_iff.mpr hascii, hlabel⟩
      · cases h

/-- A label stays as it is. -/
theorem label?_self (h : label? s = some l) (hs : ∀ c ∈ s, plainForm c = [c]) :
    label? l = some l := by
  rcases label?_cases h with ⟨rfl, -⟩ | ⟨rfl, hascii, hlabel⟩
  · exact h
  · have hprefix : encoded.isPrefixOf (encoded ++ Punycode.encode s) = true :=
      List.isPrefixOf_iff_prefix.mpr (List.prefix_append _ _)
    have hencoding : isEncoding (Punycode.encode s) = true := by
      simp [isEncoding, Punycode.decode?_encode, hascii, hlabel, flatMap_plainForm_of_forall hs]
    rw [label?, if_pos hprefix, List.drop_left, if_pos hencoding]

theorem mem_label (h : label? s = some l) (hc : c ∈ l) :
    c.toNat < 128 ∧ (c ∈ s ∨ c = '-' ∨ Punycode.isDigitChar c = true) := by
  rcases label?_cases h with ⟨rfl, hascii⟩ | ⟨rfl, -, -⟩
  · exact ⟨hascii c hc, .inl hc⟩
  · have hword : c = '-' ∨ Punycode.isDigitChar c = true →
        c.toNat < 128 ∧ (c ∈ s ∨ c = '-' ∨ Punycode.isDigitChar c = true) := by
      rintro (rfl | hd)
      · exact ⟨by decide, .inr (.inl rfl)⟩
      · exact ⟨Punycode.ascii_of_isDigitChar hd, .inr (.inr hd)⟩
    rcases List.mem_append.mp hc with hc | hc
    · have hmark : ∀ c ∈ encoded, c = '-' ∨ Punycode.isDigitChar c = true :=
        Text.forall_of_all (by decide)
      exact hword (hmark c hc)
    · rcases Punycode.mem_encode hc with ⟨hc, hascii⟩ | hc
      · exact ⟨hascii, .inl hc⟩
      · exact hword hc

/-- A name is made of its ASCII characters and of what Punycode adds. -/
theorem mem_name (h : labels? s = some ls) (hc : c ∈ ['.'].intercalate ls) :
    c.toNat < 128 ∧ (c ∈ s ∨ c = '.' ∨ c = '-' ∨ Punycode.isDigitChar c = true) := by
  rcases Text.mem_intercalate hc with rfl | ⟨l, hl, hc⟩
  · exact ⟨by decide, .inr (.inl rfl)⟩
  · obtain ⟨part, hpart, hlabel⟩ := Text.exists_of_mapM h hl
    obtain ⟨hascii, hc⟩ := mem_label hlabel hc
    exact ⟨hascii, hc.imp (fun hc => (Text.of_mem_splitOnP hpart c hc).1) .inr⟩

/-- A name has its own labels. -/
theorem labels?_self (h : labels? s = some ls) (hs : ∀ c ∈ s, plainForm c = [c]) :
    labels? (['.'].intercalate ls) = some ls := by
  have hpart : ∀ l ∈ ls, '.' ∉ l ∧ label? l = some l := by
    intro l hl
    obtain ⟨part, hpart, hlabel⟩ := Text.exists_of_mapM h hl
    have hmem := Text.of_mem_splitOnP hpart
    refine ⟨fun hdot => ?_, label?_self hlabel fun c hc => hs c (hmem c hc).1⟩
    obtain ⟨-, hdot | hdot | hdot⟩ := mem_label hlabel hdot
    · exact absurd (hmem _ hdot).2 (by decide)
    · cases hdot
    · cases hdot
  have hne : ls ≠ [] := by
    rintro rfl
    have hsplit := congrArg List.length (Text.mapM_eq_some.mp h)
    rw [List.length_map] at hsplit
    exact List.splitOnP_ne_nil _ _ (List.eq_nil_of_length_eq_zero hsplit)
  rw [labels?, Text.splitOnP_intercalate (fun l hl => (hpart l hl).1) hne, Text.mapM_eq_some]
  exact List.map_congr_left fun l hl => (hpart l hl).2

end CloudEmulation.Url.Domain
