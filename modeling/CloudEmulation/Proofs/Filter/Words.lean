import CloudEmulation.Proofs.Filter.Comparisons
import CloudEmulation.Proofs.Filter.Lists
import CloudEmulation.Proofs.Text.Parts
/-!
Searching texts for the words of others. What stands between words does not matter, nor does case.
-/

namespace CloudEmulation.Filter

open Text (isAlphanumeric isBlank lowercase pieces Stretches none_of_all stretches_iff)

variable {opened : Bool} {wanted found words before after : List Word} {s t : List Char}

/-! Words in a row. -/

/-- Whether words are the wanted ones, where the last one may go on if it is left open. -/
def Continues (opened : Bool) (wanted found : List Word) : Prop :=
  ∃ init last word, wanted = init ++ [last] ∧ found = init ++ [word] ∧
    if opened then last <+: word else word = last

theorem continues_cons {w x : Word} (hne : wanted ≠ []) :
    Continues opened (w :: wanted) (x :: found) ↔ x = w ∧ Continues opened wanted found := by
  constructor
  · rintro ⟨init, last, word, hw, hf, hlast⟩
    cases init with
    | nil => exact absurd (List.cons.inj hw).2 hne
    | cons y init =>
      obtain ⟨rfl, rfl⟩ := List.cons.inj hw
      obtain ⟨rfl, rfl⟩ := List.cons.inj hf
      exact ⟨rfl, init, last, word, rfl, rfl, hlast⟩
  · rintro ⟨rfl, init, last, word, rfl, rfl, hlast⟩
    exact ⟨x :: init, last, word, rfl, rfl, hlast⟩

theorem beginsWith_singleton {b : Bool} {w x : Word}
    (hb : b = true ↔ if opened then w <+: x else x = w) :
    b = true ↔ ∃ found after, x :: words = found ++ after ∧ Continues opened [w] found := by
  rw [hb]
  constructor
  · exact fun h => ⟨[x], words, rfl, [], w, x, rfl, rfl, h⟩
  · rintro ⟨found, after, hf, init, last, word, hw, rfl, hlast⟩
    cases init with
    | nil =>
      obtain ⟨rfl, -⟩ := List.cons.inj hw
      obtain ⟨rfl, -⟩ := List.cons.inj hf
      exact hlast
    | cons y init => exact absurd (List.cons.inj hw).2 (by simp)

theorem Continues.leaveOpen (h : Continues opened wanted found) : Continues true wanted found := by
  obtain ⟨init, last, word, hw, hf, hlast⟩ := h
  refine ⟨init, last, word, hw, hf, ?_⟩
  cases opened with
  | true => exact hlast
  | false => exact (show word = last from hlast) ▸ List.prefix_rfl

theorem not_continues_nil : ¬Continues opened wanted [] := by
  rintro ⟨init, last, word, -, hf, -⟩
  exact absurd hf.symm (by simp)

theorem beginsWith_iff (hne : wanted ≠ []) :
    beginsWith opened wanted words = true ↔
      ∃ found after, words = found ++ after ∧ Continues opened wanted found := by
  fun_induction beginsWith opened wanted words with
  | case1 => exact absurd rfl hne
  | case2 w wanted =>
    refine ⟨fun h => absurd h (by simp), ?_⟩
    rintro ⟨found, after, hf, h⟩
    obtain ⟨rfl, -⟩ := List.append_eq_nil_iff.mp hf.symm
    exact absurd h not_continues_nil
  | case3 w x words hopened => exact beginsWith_singleton (by simp [hopened])
  | case4 w x words hopened => exact beginsWith_singleton (by simp [hopened])
  | case5 w wanted x words hmore ih =>
    rw [Bool.and_eq_true, decide_eq_true_eq, ih hmore]
    constructor
    · rintro ⟨rfl, found, after, rfl, h⟩
      exact ⟨x :: found, after, rfl, (continues_cons hmore).mpr ⟨rfl, h⟩⟩
    · rintro ⟨found, after, hf, h⟩
      cases found with
      | nil => exact absurd h not_continues_nil
      | cons y found =>
        obtain ⟨rfl, rfl⟩ := List.cons.inj hf
        obtain ⟨rfl, hrest⟩ := (continues_cons hmore).mp h
        exact ⟨rfl, found, after, rfl, hrest⟩

/-- Wanted words occur where they stand in a row, with any words before and after them. -/
theorem occurs_iff (hne : wanted ≠ []) :
    occurs opened wanted words = true ↔
      ∃ before found after, words = before ++ (found ++ after) ∧ Continues opened wanted found := by
  induction words with
  | nil =>
    rw [occurs, beginsWith_iff hne]
    constructor
    · rintro ⟨found, after, hf, h⟩
      exact ⟨[], found, after, hf, h⟩
    · rintro ⟨before, found, after, hf, h⟩
      obtain ⟨-, hf⟩ := List.append_eq_nil_iff.mp hf.symm
      exact ⟨found, after, hf.symm, h⟩
  | cons x words ih =>
    rw [occurs, Bool.or_eq_true, beginsWith_iff hne, ih]
    constructor
    · rintro (⟨found, after, hf, h⟩ | ⟨before, found, after, rfl, h⟩)
      · exact ⟨[], found, after, hf, h⟩
      · exact ⟨x :: before, found, after, rfl, h⟩
    · rintro ⟨before, found, after, hf, h⟩
      cases before with
      | nil => exact .inl ⟨found, after, hf, h⟩
      | cons y before =>
        obtain ⟨rfl, rfl⟩ := List.cons.inj hf
        exact .inr ⟨before, found, after, rfl, h⟩

/-! The words of texts. -/

def EndsInStar (s : List Char) : Prop := s.getLast? = some '*'

instance (s : List Char) : Decidable (EndsInStar s) := inferInstanceAs (Decidable (_ = _))

theorem cutStar_star (s : List Char) : cutStar (s ++ ['*']) = (s, true) := by
  simp [cutStar]

theorem cutStar_of_not (h : ¬EndsInStar s) : cutStar s = (s, false) := by
  unfold cutStar
  split
  · exact absurd ‹_› h
  · rfl

theorem cutStar_snd (s : List Char) : (cutStar s).2 = decide (EndsInStar s) := by
  by_cases h : EndsInStar s
  · obtain ⟨s, rfl⟩ := List.getLast?_eq_some_iff.mp h
    rw [cutStar_star, decide_eq_true h]
  · rw [cutStar_of_not h, decide_eq_false h]

/-- The runs of letters and digits of a text, each as long as it can be. -/
def Runs (runs : List (List Char)) (s : List Char) : Prop := Stretches (!isAlphanumeric ·) runs s

theorem Runs.words_eq {runs : List (List Char)} (h : Runs runs s) :
    Filter.words s = runs.map lowercase :=
  congrArg _ h.pieces_eq

theorem exists_runs (s : List Char) : ∃ runs, Runs runs s :=
  ⟨_, Text.stretches_pieces _ s⟩

theorem Runs.star {runs : List (List Char)} (h : Runs runs s) : Runs runs (s ++ ['*']) :=
  Stretches.gap_after h (by decide +kernel)

theorem words_cutStar (s : List Char) : Filter.words (cutStar s).1 = Filter.words s := by
  by_cases h : EndsInStar s
  · obtain ⟨s, rfl⟩ := List.getLast?_eq_some_iff.mp h
    obtain ⟨runs, hr⟩ := exists_runs s
    rw [cutStar_star, hr.words_eq, hr.star.words_eq]
  · rw [cutStar_of_not h]

theorem words_eq_nil_iff : Filter.words s = [] ↔ ∀ c ∈ s, isAlphanumeric c = false := by
  have h : pieces (!isAlphanumeric ·) s = [] ↔ ∀ c ∈ s, (!isAlphanumeric c) = true :=
    Text.pieces_eq_nil_iff
  simp only [Bool.not_eq_true'] at h
  rw [← h]
  exact List.map_eq_nil_iff

theorem exists_word_iff : (∃ c ∈ s, isAlphanumeric c = true) ↔ Filter.words s ≠ [] := by
  rw [Ne, words_eq_nil_iff]
  simp

theorem hasWords_of_words (h : ∃ c ∈ s, isAlphanumeric c = true) :
    hasWords t s = occurs (decide (EndsInStar s)) (Filter.words s) (Filter.words t) := by
  have hne := exists_word_iff.mp h
  rw [← words_cutStar s] at hne
  rw [← cutStar_snd, ← words_cutStar s]
  unfold hasWords
  split
  rename_i pattern opened hcut
  rw [hcut] at hne ⊢
  split
  · rename_i hnil
    exact absurd hnil hne
  · rfl

theorem hasWords_of_wordless (h : ∀ c ∈ s, isAlphanumeric c = false) :
    hasWords t s = sameLetters t (cutStar s).1 := by
  have hnil : Filter.words (cutStar s).1 = [] := by rw [words_cutStar, words_eq_nil_iff.mpr h]
  unfold hasWords
  split
  rename_i pattern opened hcut
  rw [hcut] at hnil ⊢
  split
  · rfl
  · rename_i hne
    exact absurd hnil hne

/-! Case. -/

theorem toLower_of_not_isUpper {c : Char} (h : c.isUpper = false) : c.toLower = c :=
  dif_neg (of_decide_eq_false h)

theorem ascii_of_isUpper {c : Char} (h : c.isUpper = true) : c.toNat < 128 := by
  have hc : c.val ≤ 'Z'.val := (of_decide_eq_true h).2
  exact Nat.lt_of_le_of_lt (UInt32.le_iff_toNat_le.mp hc) (by decide)

theorem toLower_cases (c : Char) : c.toLower = c ∨
    c.toLower.toNat < 128 ∧ c.toNat < 128 ∧ isAlphanumeric c.toLower = true ∧
      isAlphanumeric c = true := by
  cases hc : c.isUpper with
  | false => exact .inl (toLower_of_not_isUpper hc)
  | true =>
    right
    have hascii := ascii_of_isUpper hc
    revert hc
    exact Text.of_ascii hascii (by decide +kernel)

theorem isAlphanumeric_toLower (c : Char) : isAlphanumeric c.toLower = isAlphanumeric c := by
  obtain h | ⟨-, -, hlower, hc⟩ := toLower_cases c
  · rw [h]
  · rw [hlower, hc]

theorem ascii_toLower {c : Char} : c.toLower.toNat < 128 ↔ c.toNat < 128 := by
  obtain h | ⟨hlower, hc, -⟩ := toLower_cases c
  · rw [h]
  · exact iff_of_true hlower hc

theorem toLower_of_not_alphanumeric {c : Char} (h : isAlphanumeric c = false) : c.toLower = c := by
  obtain hc | ⟨-, -, -, hc⟩ := toLower_cases c
  · exact hc
  · rw [h] at hc
    cases hc

def IsAscii (s : List Char) : Prop := ∀ c ∈ s, c.toNat < 128

theorem isAscii_map_toLower : IsAscii (s.map Char.toLower) ↔ IsAscii s := by
  simp only [IsAscii, List.forall_mem_map, ascii_toLower]

theorem sameLetters_iff : sameLetters s t = true ↔ s.map Char.toLower = t.map Char.toLower :=
  decide_eq_true_iff

theorem sameLetters_of_wordless (ht : ∀ c ∈ t, isAlphanumeric c = false) :
    sameLetters s t = true ↔ s = t := by
  have hfixed {u : List Char} (hu : ∀ c ∈ u, isAlphanumeric c = false) : u.map Char.toLower = u := by
    conv_rhs => rw [← List.map_id u]
    exact List.map_congr_left fun c hc => toLower_of_not_alphanumeric (hu c hc)
  rw [sameLetters_iff, hfixed ht]
  constructor
  swap
  · rintro rfl
    exact hfixed ht
  intro h
  have hs : ∀ c ∈ s, isAlphanumeric c = false := by
    intro c hc
    rw [← isAlphanumeric_toLower]
    exact ht _ (h ▸ List.mem_map_of_mem hc)
  rw [← h, hfixed hs]

/-- An ASCII text has the words that it has in lower case. -/
theorem words_of_ascii (h : IsAscii s) :
    Filter.words s = pieces (!isAlphanumeric ·) (s.map Char.toLower) := by
  obtain ⟨runs, hr⟩ := exists_runs s
  have hlower : Stretches (!isAlphanumeric ·) (runs.map (List.map Char.toLower))
      (s.map Char.toLower) :=
    hr.map fun c _ => congrArg _ (isAlphanumeric_toLower c)
  rw [hr.words_eq, hlower.pieces_eq]
  refine List.map_congr_left fun run hrun => Text.lowerFrom_of_ascii [] run fun c hc => ?_
  exact h c (hr.subset hrun hc)

theorem words_of_sameLetters (h : IsAscii s) (hst : sameLetters s t = true) :
    Filter.words t = Filter.words s := by
  rw [sameLetters_iff] at hst
  have ht : IsAscii t := by rwa [← isAscii_map_toLower, ← hst, isAscii_map_toLower]
  rw [words_of_ascii h, words_of_ascii ht, hst]

theorem endsInStar_of_sameLetters (h : sameLetters s t = true) : EndsInStar t ↔ EndsInStar s := by
  have hlower (u : List Char) : EndsInStar (u.map Char.toLower) ↔ EndsInStar u := by
    rw [EndsInStar, EndsInStar, List.getLast?_map, Option.map_eq_some_iff]
    constructor
    · rintro ⟨c, hc, hstar⟩
      obtain hsame | ⟨-, -, hlower, -⟩ := toLower_cases c
      · rw [hc, ← hsame, hstar]
      · rw [hstar] at hlower
        exact absurd hlower (by decide +kernel)
    · exact fun hc => ⟨'*', hc, by decide⟩
  rw [← hlower t, ← hlower s, sameLetters_iff.mp h]

/-! Terms. -/

/-- Whether the words of a text occur in another in a row; the last of them may go on there if a
star ends the text. -/
def WordsOccur (s t : List Char) : Prop :=
  ∃ wanted runs, Runs wanted s ∧ Runs runs t ∧ ∃ before found after,
    runs.map lowercase = before ++ (found ++ after) ∧
    Continues (EndsInStar s) (wanted.map lowercase) found

/-- Whether only what stands between the words of two texts differs, and before and after them. -/
def SameRuns (s t : List Char) : Prop := ∃ runs, Runs runs s ∧ Runs runs t

/-- Whether ASCII texts differ in case only. -/
def Recased (s t : List Char) : Prop := IsAscii s ∧ sameLetters s t = true

theorem words_of_sameRuns (h : SameRuns s t) : Filter.words t = Filter.words s := by
  obtain ⟨runs, hs, ht⟩ := h
  rw [hs.words_eq, ht.words_eq]

theorem hasWords_iff_occur (h : ∃ c ∈ s, isAlphanumeric c = true) :
    hasWords t s = true ↔ WordsOccur s t := by
  obtain ⟨wanted, hs⟩ := exists_runs s
  obtain ⟨runs, ht⟩ := exists_runs t
  have hne : wanted.map lowercase ≠ [] := hs.words_eq ▸ exists_word_iff.mp h
  rw [hasWords_of_words h, hs.words_eq, ht.words_eq, occurs_iff hne]
  constructor
  · exact fun hrow => ⟨wanted, runs, hs, ht, hrow⟩
  · rintro ⟨wanted', runs', hs', ht', hrow⟩
    rwa [← hs.words_eq, ← ht.words_eq, hs'.words_eq, ht'.words_eq]

theorem WordsOccur.star (h : WordsOccur s t) : WordsOccur (s ++ ['*']) t := by
  obtain ⟨wanted, runs, hs, ht, before, found, after, hrow, hfound⟩ := h
  have hstar : EndsInStar (s ++ ['*']) := List.getLast?_concat
  refine ⟨wanted, runs, hs.star, ht, before, found, after, hrow, ?_⟩
  rw [decide_eq_true hstar]
  exact hfound.leaveOpen

theorem hasWords_iff_equal (h : ∀ c ∈ s, isAlphanumeric c = false) :
    hasWords t s = true ↔ s = if EndsInStar s then t ++ ['*'] else t := by
  rw [hasWords_of_wordless h]
  by_cases hstar : EndsInStar s
  · rw [if_pos hstar]
    obtain ⟨s, rfl⟩ := List.getLast?_eq_some_iff.mp hstar
    rw [cutStar_star, sameLetters_of_wordless fun c hc => h c (List.mem_append_left _ hc)]
    exact ⟨fun he => by rw [he], fun he => (List.append_cancel_right he).symm⟩
  · rw [if_neg hstar, cutStar_of_not hstar, sameLetters_of_wordless h]
    exact eq_comm

theorem holds_has (k : Key) {o : Operand} {q : Quote} {v t : String} {j : Json}
    (ho : o.literal = .quoted q v) (hj : lookup j k.names = some (.string t)) :
    Holds k .has o j ↔ hasWords t.toList v.toList = true := by
  rw [holds_operand k o fun _ => by rw [ho]; exact id, ho,
    accepts_scalar (v := .text t) hj]
  rfl

def web : Operand where
  gap := " "
  literal := .quoted .double "Web-x*"
  blank := Text.forall_of_all (by decide)
  apart := fun op => by cases op <;> exact Text.halts_cons.mpr (by decide)

def dash : Operand where
  gap := " "
  literal := .quoted .single "-*"
  blank := Text.forall_of_all (by decide)
  apart := fun op => by cases op <;> exact Text.halts_cons.mpr (by decide)

def inZone (zone : String) : Json := .object [("zone", .string zone)]

end CloudEmulation.Filter
