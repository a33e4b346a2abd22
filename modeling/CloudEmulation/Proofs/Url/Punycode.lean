import CloudEmulation.Url.Punycode
import Mathlib.Data.List.TakeWhile
/-!
What is written in Punycode is read as the label that it was written for.
-/

namespace CloudEmulation.Url.Punycode

variable {q k bias : Nat}

/-! Numbers. -/

theorem threshold_le (k bias : Nat) : threshold k bias ≤ 26 := by
  unfold threshold
  split
  · decide
  · split <;> omega

theorem value?_digit (h : q < 36) : value? (digit q) = some q := by
  have hd : ∀ d, d < 36 → value? (digit d) = some d := by decide
  exact hd q h

theorem number?_weighted (bias q k weight : Nat) (rest : List Char) :
    number? bias k weight (weighted bias q k ++ rest) = some (q * weight, rest) := by
  induction q using Nat.strongRecOn generalizing k weight with
  | _ q ih =>
    have ht := threshold_pos k bias
    have ht' := threshold_le k bias
    rw [weighted]
    split
    · rename_i hlt
      rw [List.singleton_append, number?, value?_digit (by omega)]
      simp only [Option.bind_eq_bind, Option.bind_some, if_pos hlt]
      rfl
    · rename_i hge
      have hmod := Nat.mod_lt (q - threshold k bias) (y := 36 - threshold k bias) (by omega)
      have hlt := Nat.lt_of_le_of_lt
        (Nat.div_le_self (q - threshold k bias) (36 - threshold k bias)) (by omega : _ < q)
      rw [List.cons_append, number?, value?_digit (by omega)]
      simp only [Option.bind_eq_bind, Option.bind_some]
      rw [if_neg (by omega), ih _ hlt]
      have hq := Nat.mod_add_div' (q - threshold k bias) (36 - threshold k bias)
      generalize (q - threshold k bias) % (36 - threshold k bias) = low at hq
      generalize (q - threshold k bias) / (36 - threshold k bias) = high at hq
      have hsum : (threshold k bias + low) * weight + high * (weight * (36 - threshold k bias)) =
          q * weight := by
        rw [Nat.mul_comm weight, ← Nat.mul_assoc, ← Nat.add_mul, Nat.add_assoc, hq,
          Nat.add_sub_cancel' (by omega)]
      simp only [Option.bind_some, hsum]
      rfl

theorem weighted_ne_nil : weighted bias q k ≠ [] := by
  rw [weighted]
  split <;> simp

/-! Reading what was written. -/

/-- Whether reading some digits leads from one state to another, whatever follows them. -/
inductive Leads : Decoded → List Char → Decoded → Prop
  | refl (t : Decoded) : Leads t [] t
  | step {t u v digits more} {n : Nat} :
    (∀ rest, number? t.bias 36 1 (digits ++ rest) = some (n, rest)) →
    digits ≠ [] → insertBy n t = some u → Leads u more v → Leads t (digits ++ more) v

variable {basic m n : Nat} {c : Char} {label read rest digits more : List Char} {s : State}
  {t u v : Decoded}

theorem Leads.trans (h : Leads t digits u) (h' : Leads u more v) : Leads t (digits ++ more) v := by
  induction h with
  | refl t => exact h'
  | step hn hne hu _ ih =>
    rw [List.append_assoc]
    exact .step hn hne hu (ih h')

theorem Leads.insertAll (h : Leads t digits u) {fuel : Nat} (hf : digits.length ≤ fuel) :
    insertAll fuel t digits = some u.text := by
  induction h generalizing fuel with
  | refl t => cases fuel <;> rfl
  | @step t digits u more v n hn hne hu _ ih =>
    obtain ⟨d, ds, rfl⟩ := List.exists_cons_of_ne_nil hne
    cases fuel with
    | zero => simp at hf
    | succ fuel =>
      rw [List.cons_append, Punycode.insertAll, ← List.cons_append, hn]
      · simp only [Option.bind_eq_bind, Option.bind_some, hu]
        refine ih ?_
        simp only [List.length_append, List.length_cons] at hf
        omega
      · simp

/-- What the writer knows of a label where it looks for the occurrences of a code point, and what
the reader has of it: the characters below the code point, and its occurrences so far. -/
structure Synced (basic : Nat) (read rest : List Char) (m : Nat) (s : State) (t : Decoded) :
    Prop where
  text : t.text = read.filter (·.toNat ≤ m) ++ rest.filter (·.toNat < m)
  handled : s.handled = t.text.length
  bias : s.bias = t.bias
  code : t.code ≤ m
  place : t.place + s.delta =
    (m - t.code) * (t.text.length + 1) + (read.filter (·.toNat ≤ m)).length
  first : s.handled = basic ↔ t.place = 0
  basic : basic ≤ s.handled

theorem Synced.below (h : Synced basic read (c :: rest) m s t) (hc : c.toNat < m) :
    Synced basic (read ++ [c]) rest m (pass m basic s c.toNat) t := by
  have hread : (read ++ [c]).filter (·.toNat ≤ m) = read.filter (·.toNat ≤ m) ++ [c] := by
    rw [List.filter_append, List.filter_cons_of_pos (by simpa using Nat.le_of_lt hc),
      List.filter_nil]
  have hrest : (c :: rest).filter (·.toNat < m) = c :: rest.filter (·.toNat < m) :=
    List.filter_cons_of_pos (by simpa using hc)
  have hplace := h.place
  rw [pass, if_pos hc]
  refine ⟨?_, h.handled, h.bias, h.code, ?_, h.first, h.basic⟩
  · rw [h.text, hread, hrest, List.append_assoc, List.singleton_append]
  · rw [hread, List.length_append, List.length_singleton]
    show t.place + (s.delta + 1) = _
    omega

theorem Synced.above (h : Synced basic read (c :: rest) m s t) (hc : m < c.toNat) :
    Synced basic (read ++ [c]) rest m (pass m basic s c.toNat) t := by
  have hread : (read ++ [c]).filter (·.toNat ≤ m) = read.filter (·.toNat ≤ m) := by
    rw [List.filter_append, List.filter_cons_of_neg (by simpa using hc), List.filter_nil,
      List.append_nil]
  have hrest : (c :: rest).filter (·.toNat < m) = rest.filter (·.toNat < m) :=
    List.filter_cons_of_neg (by simpa using Nat.le_of_lt hc)
  rw [pass, if_neg (by omega), if_neg (by omega)]
  refine ⟨?_, h.handled, h.bias, h.code, ?_, h.first, h.basic⟩
  · rw [h.text, hread, hrest]
  · rw [hread]
    exact h.place

/-- What the reader has once it put in an occurrence of the code point. -/
def occurred (read rest : List Char) (c : Char) (delta : Nat) (t : Decoded) : Decoded where
  code := c.toNat
  place := (read.filter (·.toNat ≤ c.toNat)).length + 1
  bias := adapt delta (t.text.length + 1) (t.place = 0)
  text := read.filter (·.toNat ≤ c.toNat) ++ c :: rest.filter (·.toNat < c.toNat)

theorem Synced.text_at (h : Synced basic read (c :: rest) c.toNat s t) :
    t.text = read.filter (·.toNat ≤ c.toNat) ++ rest.filter (·.toNat < c.toNat) := by
  have hrest : (c :: rest).filter (·.toNat < c.toNat) = rest.filter (·.toNat < c.toNat) :=
    List.filter_cons_of_neg (by simp)
  rw [h.text, hrest]

/-- An occurrence is written as the number that leads the reader to its place. -/
theorem Synced.insertBy (h : Synced basic read (c :: rest) c.toNat s t) :
    insertBy s.delta t = some (occurred read rest c s.delta t) := by
  have htext := h.text_at
  have hle : (read.filter (·.toNat ≤ c.toNat)).length ≤ t.text.length := by
    rw [htext, List.length_append]
    exact Nat.le_add_right _ _
  -- The number is taken apart into the code points to pass over and the place in the text.
  have hdiv : (t.place + s.delta) / (t.text.length + 1) = c.toNat - t.code := by
    rw [h.place, Nat.mul_comm, Nat.mul_add_div (by omega), Nat.div_eq_of_lt (by omega),
      Nat.add_zero]
  have hmod : (t.place + s.delta) % (t.text.length + 1) =
      (read.filter (·.toNat ≤ c.toNat)).length := by
    rw [h.place, Nat.mul_comm, Nat.mul_add_mod, Nat.mod_eq_of_lt (by omega)]
  have hcode : t.code + (c.toNat - t.code) = c.toNat := Nat.add_sub_cancel' h.code
  have htake : t.text.take (read.filter (·.toNat ≤ c.toNat)).length =
      read.filter (·.toNat ≤ c.toNat) := by rw [htext, List.take_left]
  have hdrop : t.text.drop (read.filter (·.toNat ≤ c.toNat)).length =
      rest.filter (·.toNat < c.toNat) := by rw [htext, List.drop_left]
  unfold Punycode.insertBy
  simp only [hdiv, hmod, hcode, htake, hdrop, Char.ofNat_toNat]
  exact if_pos c.valid

theorem Synced.occurred (h : Synced basic read (c :: rest) c.toNat s t) :
    Synced basic (read ++ [c]) rest c.toNat (pass c.toNat basic s c.toNat)
      (occurred read rest c s.delta t) := by
  have hread : (read ++ [c]).filter (·.toNat ≤ c.toNat) =
      read.filter (·.toNat ≤ c.toNat) ++ [c] := by
    rw [List.filter_append, List.filter_cons_of_pos (by simp), List.filter_nil]
  have hlength : (Punycode.occurred read rest c s.delta t).text.length = t.text.length + 1 := by
    rw [Punycode.occurred, h.text_at, List.length_append, List.length_append, List.length_cons,
      Nat.add_assoc]
  have hbasic := h.basic
  rw [pass, if_neg (Nat.lt_irrefl _), if_pos rfl]
  refine ⟨?_, ?_, ?_, Nat.le_refl _, ?_, ?_, ?_⟩
  · rw [hread, List.append_assoc, List.singleton_append]
    rfl
  · simp only [hlength, h.handled]
  · simp only [Punycode.occurred, h.handled, ← h.first]
  · simp only [Punycode.occurred, hread, Nat.sub_self, Nat.zero_mul, List.length_append,
      List.length_singleton, Nat.zero_add, Nat.add_zero]
  · simp only [Punycode.occurred]
    omega
  · simp only
    omega

theorem Synced.pass (h : Synced basic read (c :: rest) m s t) :
    ∃ digits u, (pass m basic s c.toNat).out = s.out ++ digits ∧ Leads t digits u ∧
      Synced basic (read ++ [c]) rest m (pass m basic s c.toNat) u := by
  rcases Nat.lt_trichotomy c.toNat m with hc | rfl | hc
  · refine ⟨[], t, ?_, .refl t, h.below hc⟩
    rw [Punycode.pass, if_pos hc, List.append_nil]
  · refine ⟨weighted s.bias s.delta 36 ++ [], _, ?_, ?_, h.occurred⟩
    · rw [Punycode.pass, if_neg (Nat.lt_irrefl _), if_pos rfl, List.append_nil]
    · refine .step (fun rest => ?_) weighted_ne_nil h.insertBy (.refl _)
      rw [h.bias, number?_weighted, Nat.mul_one]
  · refine ⟨[], t, ?_, .refl t, h.above hc⟩
    rw [Punycode.pass, if_neg (by omega), if_neg (by omega), List.append_nil]

theorem Synced.foldl (h : Synced basic read rest m s t) :
    ∃ digits u, ((rest.map Char.toNat).foldl (Punycode.pass m basic) s).out = s.out ++ digits ∧
      Leads t digits u ∧
      Synced basic (read ++ rest) [] m ((rest.map Char.toNat).foldl (Punycode.pass m basic) s)
        u := by
  induction rest generalizing read s t with
  | nil => exact ⟨[], t, by simp, .refl t, by simpa using h⟩
  | cons c rest ih =>
    obtain ⟨digits, u, hout, hleads, hsynced⟩ := h.pass
    obtain ⟨more, v, hout', hleads', hsynced'⟩ := ih hsynced
    refine ⟨digits ++ more, v, ?_, hleads.trans hleads', ?_⟩
    · rw [List.map_cons, List.foldl_cons, hout', hout, List.append_assoc]
    · rwa [List.append_assoc, List.singleton_append] at hsynced'

/-- After the last character, one further step leads to the next code point. -/
theorem Synced.next (h : Synced basic label [] m s t) :
    Synced basic [] label (m + 1) { s with delta := s.delta + 1 } t := by
  have htext : t.text = label.filter (·.toNat ≤ m) := by rw [h.text]; simp
  have hplace := h.place
  have hcode := h.code
  rw [← htext] at hplace
  refine ⟨?_, h.handled, h.bias, by omega, ?_, h.first, h.basic⟩
  · rw [htext, List.filter_nil, List.nil_append]
    exact List.filter_congr fun c _ => decide_eq_decide.mpr Nat.lt_succ_iff.symm
  · have hsucc : m + 1 - t.code = (m - t.code) + 1 := by omega
    rw [hsucc, Nat.add_mul, Nat.one_mul, List.filter_nil, List.length_nil]
    show t.place + (s.delta + 1) = _
    omega

/-- Code points that do not occur are passed over at once. -/
theorem Synced.skip (h : Synced basic [] label n s t) (hm : n ≤ m)
    (hnone : ∀ c ∈ label, n ≤ c.toNat → m ≤ c.toNat) :
    Synced basic [] label m { s with delta := s.delta + (m - n) * (s.handled + 1) } t := by
  have hplace := h.place
  have hcode := h.code
  refine ⟨?_, h.handled, h.bias, Nat.le_trans h.code hm, ?_, h.first, h.basic⟩
  · rw [h.text]
    refine congrArg _ (List.filter_congr fun c hc => ?_)
    have hc' := hnone c hc
    refine decide_eq_decide.mpr ⟨fun hlt => Nat.lt_of_lt_of_le hlt hm, fun hlt => ?_⟩
    by_contra hge
    exact absurd (hc' (Nat.le_of_not_lt hge)) (Nat.not_le.mpr hlt)
  · have hsub : m - t.code = (n - t.code) + (m - n) := by omega
    rw [hsub, Nat.add_mul]
    show t.place + (s.delta + (m - n) * (s.handled + 1)) = _
    rw [h.handled]
    simp only [List.filter_nil, List.length_nil, Nat.add_zero] at hplace ⊢
    omega

theorem Synced.complete (h : Synced basic [] label n s t)
    (hnone : label.filter (n ≤ ·.toNat) = []) : t.text = label := by
  rw [h.text, List.filter_nil, List.nil_append, List.filter_eq_self]
  intro c hc
  have hc' := List.filter_eq_nil_iff.mp hnone c hc
  simpa using hc'

theorem filter_map_toNat (label : List Char) (n : Nat) :
    (label.map Char.toNat).filter (n ≤ ·) = (label.filter (n ≤ ·.toNat)).map Char.toNat := by
  rw [List.filter_map]
  rfl

theorem length_filter_lt (hc : c ∈ label) (hn : n ≤ c.toNat) :
    (label.filter (c.toNat + 1 ≤ ·.toNat)).length < (label.filter (n ≤ ·.toNat)).length := by
  have hfilter : label.filter (c.toNat + 1 ≤ ·.toNat) =
      (label.filter (n ≤ ·.toNat)).filter (c.toNat + 1 ≤ ·.toNat) := by
    rw [List.filter_filter]
    refine List.filter_congr fun d _ => ?_
    have hd : c.toNat + 1 ≤ d.toNat → n ≤ d.toNat := by omega
    simpa using hd
  rw [hfilter, List.length_filter_lt_length_iff_exists]
  exact ⟨c, List.mem_filter.mpr ⟨hc, by simpa using hn⟩, by simp⟩

/-- Each pass is for a code point that occurs, so that there are no more passes than characters. -/
theorem Synced.passes {fuel : Nat} (h : Synced basic [] label n s t)
    (hf : (label.filter (n ≤ ·.toNat)).length ≤ fuel) :
    ∃ digits u, (passes (label.map Char.toNat) basic fuel n s).out = s.out ++ digits ∧
      Leads t digits u ∧ u.text = label := by
  induction fuel generalizing n s t with
  | zero =>
    refine ⟨[], t, (List.append_nil _).symm, .refl t, h.complete ?_⟩
    exact List.length_eq_zero_iff.mp (Nat.le_zero.mp hf)
  | succ fuel ih =>
    rw [Punycode.passes]
    cases hmin : ((label.map Char.toNat).filter (n ≤ ·)).min? with
    | none =>
      refine ⟨[], t, (List.append_nil _).symm, .refl t, h.complete ?_⟩
      rw [List.min?_eq_none_iff, filter_map_toNat] at hmin
      exact List.map_eq_nil_iff.mp hmin
    | some m =>
      obtain ⟨hm, hle⟩ := List.min?_eq_some_iff.mp hmin
      rw [filter_map_toNat, List.mem_map] at hm
      obtain ⟨c, hc, rfl⟩ := hm
      obtain ⟨hc, hn⟩ := List.mem_filter.mp hc
      have hn : n ≤ c.toNat := by simpa using hn
      have hskip := h.skip hn fun d hd hnd => hle _ (by
        rw [filter_map_toNat]
        exact List.mem_map_of_mem (List.mem_filter.mpr ⟨hd, by simpa using hnd⟩))
      obtain ⟨digits, u, hout, hleads, hsynced⟩ := hskip.foldl
      have hfewer := Nat.le_of_lt_succ (Nat.lt_of_lt_of_le (length_filter_lt hc hn) hf)
      obtain ⟨more, v, hout', hleads', hlabel⟩ := ih hsynced.next hfewer
      refine ⟨digits ++ more, v, ?_, hleads.trans hleads', hlabel⟩
      simp only at hout hout' ⊢
      rw [hout', hout, List.append_assoc]

/-! Whole labels. -/

theorem synced_start (label : List Char) (out : List Char) :
    let basic := label.filter (·.toNat < 128)
    Synced basic.length [] label 128 ⟨0, 72, basic.length, out⟩ ⟨128, 0, 72, basic⟩ where
  text := rfl
  handled := rfl
  bias := rfl
  code := Nat.le_refl _
  place := by simp
  first := by simp
  basic := Nat.le_refl _

/-- A character that stands for a digit. -/
def isDigitChar (c : Char) : Bool := (value? c).isSome

theorem ascii_of_isDigitChar (h : isDigitChar c = true) : c.toNat < 128 := by
  unfold isDigitChar value? at h
  simp only [Bool.and_eq_true, decide_eq_true_eq, Char.le_def, UInt32.le_iff_toNat_le] at h
  split at h
  · rename_i hc
    exact Nat.lt_of_le_of_lt hc.2 (by decide)
  · split at h
    · rename_i hc
      exact Nat.lt_of_le_of_lt hc.2 (by decide)
    · cases h

theorem number?_eq_some {weight : Nat} (h : number? bias k weight digits = some (n, rest)) :
    ∃ front, front ≠ [] ∧ digits = front ++ rest ∧ ∀ c ∈ front, isDigitChar c = true := by
  induction digits generalizing k weight n with
  | nil => cases h
  | cons c digits ih =>
    simp only [number?, Option.bind_eq_bind, Option.bind_eq_some_iff] at h
    obtain ⟨d, hd, h⟩ := h
    have hc : isDigitChar c = true := by
      rw [isDigitChar, hd]
      rfl
    split at h
    · cases h
      exact ⟨[c], by simp, rfl, by simpa using hc⟩
    · obtain ⟨⟨m, rest'⟩, hm, h⟩ := Option.bind_eq_some_iff.mp h
      cases h
      obtain ⟨front, -, rfl, hfront⟩ := ih hm
      exact ⟨c :: front, by simp, rfl, List.forall_mem_cons.mpr ⟨hc, hfront⟩⟩

theorem Leads.isDigitChar (h : Leads t digits u) : ∀ c ∈ digits, isDigitChar c = true := by
  induction h with
  | refl t => exact fun c hc => nomatch hc
  | step hn _ _ _ ih =>
    obtain ⟨front, -, hfront, hdigits⟩ := number?_eq_some (hn [])
    rw [List.append_nil, List.append_nil] at hfront
    subst hfront
    exact List.forall_mem_append.mpr ⟨hdigits, ih⟩

theorem isDigitChar_of_insertAll {fuel : Nat} (h : insertAll fuel t digits = some label) :
    ∀ c ∈ digits, isDigitChar c = true := by
  induction fuel generalizing t digits with
  | zero =>
    cases digits with
    | nil => exact fun c hc => nomatch hc
    | cons d ds => cases h
  | succ fuel ih =>
    cases digits with
    | nil => exact fun c hc => nomatch hc
    | cons d ds =>
      simp only [insertAll, Option.bind_eq_bind, Option.bind_eq_some_iff] at h
      obtain ⟨⟨n, rest⟩, hn, u, -, h⟩ := h
      obtain ⟨front, -, hfront, hdigits⟩ := number?_eq_some hn
      rw [hfront]
      exact List.forall_mem_append.mpr ⟨hdigits, ih h⟩

/-- What comes before the digits in a label: its ASCII characters and a hyphen, if there are any. -/
def prelude (label : List Char) : List Char :=
  let basic := label.filter (·.toNat < 128)
  if basic = [] then [] else basic ++ ['-']

/-- A label is written as its prelude and digits that lead to it. -/
theorem encode_eq (label : List Char) : ∃ digits u, encode label = prelude label ++ digits ∧
    Leads ⟨128, 0, 72, label.filter (·.toNat < 128)⟩ digits u ∧ u.text = label := by
  obtain ⟨digits, u, hout, hleads, htext⟩ := (synced_start label (prelude label)).passes
    (Nat.le_succ_of_le (List.length_filter_le _ label))
  exact ⟨digits, u, hout, hleads, htext⟩

theorem decode?_prelude (h : ∀ c ∈ digits, isDigitChar c = true) (label : List Char) :
    decode? (prelude label ++ digits) =
      insertAll digits.length ⟨128, 0, 72, label.filter (·.toNat < 128)⟩ digits := by
  have hhyphen : ∀ c ∈ digits.reverse, decide (c ≠ '-') = true := by
    intro c hc
    refine decide_eq_true ?_
    rintro rfl
    exact absurd (h '-' (List.mem_reverse.mp hc)) (by decide)
  have hlast : ((prelude label ++ digits).reverse.takeWhile (· ≠ '-')).reverse = digits := by
    have hprelude : (prelude label).reverse.takeWhile (· ≠ '-') = [] := by
      unfold prelude
      simp only
      split
      · rfl
      · rw [List.reverse_append]
        rfl
    rw [List.reverse_append, List.takeWhile_append_of_pos hhyphen, hprelude, List.append_nil,
      List.reverse_reverse]
  have hbasic : (prelude label ++ digits).take
      ((prelude label ++ digits).length - digits.length - 1) =
        label.filter (·.toNat < 128) := by
    rw [List.length_append, Nat.add_sub_cancel]
    unfold prelude
    simp only
    split
    · rename_i hnil
      rw [hnil]
      rfl
    · rw [List.length_append, List.length_singleton, Nat.add_sub_cancel, List.append_assoc,
        List.take_left]
  unfold decode?
  simp only [hlast, hbasic]
  exact if_pos (List.all_eq_true.mpr fun c hc => (List.mem_filter.mp hc).2)

theorem decode?_encode (label : List Char) : decode? (encode label) = some label := by
  obtain ⟨digits, u, hencode, hleads, htext⟩ := encode_eq label
  rw [hencode, decode?_prelude hleads.isDigitChar, hleads.insertAll (Nat.le_refl _), htext]

/-- What is written is made of the ASCII characters of the label, hyphens and digits. -/
theorem mem_encode (h : c ∈ encode label) :
    (c ∈ label ∧ c.toNat < 128) ∨ c = '-' ∨ isDigitChar c = true := by
  obtain ⟨digits, u, hencode, hleads, -⟩ := encode_eq label
  rw [hencode] at h
  rcases List.mem_append.mp h with h | h
  · unfold prelude at h
    simp only at h
    split at h
    · cases h
    · rcases List.mem_append.mp h with h | h
      · obtain ⟨hc, ha⟩ := List.mem_filter.mp h
        exact .inl ⟨hc, by simpa using ha⟩
      · exact .inr (.inl (List.mem_singleton.mp h))
  · exact .inr (.inr (hleads.isDigitChar c h))

/-- Only ASCII is read. -/
theorem ascii_of_decode? (h : decode? read = some label) : ∀ c ∈ read, c.toNat < 128 := by
  unfold decode? at h
  simp only at h
  split at h
  · rename_i hbasic
    have hdigits := isDigitChar_of_insertAll h
    have hread := congrArg List.reverse
      (List.takeWhile_append_dropWhile (p := (· ≠ '-')) (l := read.reverse))
    rw [List.reverse_append, List.reverse_reverse] at hread
    generalize (read.reverse.takeWhile (· ≠ '-')).reverse = digits at hread hbasic hdigits
    have hhyphen := List.head?_dropWhile_not (· ≠ '-') read.reverse
    intro c hc
    cases hdrop : read.reverse.dropWhile (· ≠ '-') with
    | nil =>
      rw [hdrop] at hread
      rw [← hread] at hc
      exact ascii_of_isDigitChar (hdigits c hc)
    | cons mark front =>
      rw [hdrop] at hread hhyphen
      have hmark : mark = '-' := by simpa using hhyphen
      have htake : read.take (read.length - digits.length - 1) = front.reverse := by
        have hlength : ((mark :: front).reverse ++ digits).length - digits.length - 1 =
            front.reverse.length := by
          rw [List.length_append, Nat.add_sub_cancel, List.length_reverse, List.length_reverse]
          rfl
        rw [← hread, hlength, List.reverse_cons, List.append_assoc, List.take_left]
      rw [htake] at hbasic
      rw [← hread, List.reverse_cons, List.mem_append, List.mem_append, List.mem_singleton] at hc
      rcases hc with (hc | rfl) | hc
      · simpa using List.all_eq_true.mp hbasic c hc
      · rw [hmark]
        decide
      · exact ascii_of_isDigitChar (hdigits c hc)
  · cases h

end CloudEmulation.Url.Punycode
