import Mathlib.Data.List.Basic
import Mathlib.Data.List.TakeWhile
/-!
Runs of characters of one class and the texts that end them, and texts as runs with separators around
them: every text has one list of runs, which splitting it gives.
-/

namespace CloudEmulation.Text

variable {p sep : Char → Bool} {c : Char} {runs : List (List Char)} {gap run s r rest : List Char}

/-- Whether a run of such characters ends where the text begins. -/
def Halts (p : Char → Bool) (r : List Char) : Prop := ∀ c ∈ r.head?, p c = false

theorem Halts.nil : Halts p [] := by simp [Halts]

theorem halts_cons : Halts p (c :: r) ↔ p c = false := by simp [Halts]

instance : Decidable (Halts p r) :=
  match r with
  | [] => isTrue .nil
  | _ :: _ => decidable_of_iff _ halts_cons.symm

theorem none_of_all (h : s.all (!p ·) = true) : ∀ c ∈ s, p c = false := by
  intro c hc
  simpa using List.all_eq_true.mp h c hc

theorem Halts.append (hs : Halts p s) (hne : s ≠ []) (r : List Char) : Halts p (s ++ r) := by
  cases s with
  | nil => exact absurd rfl hne
  | cons c s => exact halts_cons.mpr (halts_cons.mp hs)

theorem Halts.takeWhile_append (h : Halts p r) (s : List Char) :
    (s ++ r).takeWhile p = s.takeWhile p := by
  induction s with
  | nil =>
    cases r with
    | nil => rfl
    | cons c r => simp [halts_cons.mp h]
  | cons c s ih => rw [List.cons_append, List.takeWhile_cons, List.takeWhile_cons, ih]

theorem Halts.dropWhile_append (h : Halts p r) (s : List Char) :
    (s ++ r).dropWhile p = s.dropWhile p ++ r := by
  induction s with
  | nil =>
    cases r with
    | nil => rfl
    | cons c r => simp [halts_cons.mp h]
  | cons c s ih =>
    rw [List.cons_append, List.dropWhile_cons, List.dropWhile_cons, ih]
    split <;> rfl

theorem Halts.takeWhile (h : Halts p r) : r.takeWhile p = [] := h.takeWhile_append []

theorem Halts.dropWhile (h : Halts p r) : r.dropWhile p = r := h.dropWhile_append []

theorem takeWhile_run (hs : ∀ c ∈ s, p c = true) (hr : Halts p r) :
    (s ++ r).takeWhile p = s := by
  rw [List.takeWhile_append_of_pos hs, hr.takeWhile, List.append_nil]

theorem dropWhile_run (hs : ∀ c ∈ s, p c = true) (hr : Halts p r) :
    (s ++ r).dropWhile p = r := by
  rw [List.dropWhile_append_of_pos hs, hr.dropWhile]

/-! Texts as runs. -/

/-- Whether a text consists of some runs without a separator, each as long as it can be: between
them stand separators, and as many as one likes stand before and after them. -/
inductive Stretches (sep : Char → Bool) : List (List Char) → List Char → Prop
  | nil {gap : List Char} (hgap : ∀ c ∈ gap, sep c = true) : Stretches sep [] gap
  | cons {gap run rest : List Char} {runs : List (List Char)} (hgap : ∀ c ∈ gap, sep c = true)
      (hne : run ≠ []) (hrun : ∀ c ∈ run, sep c = false) (hrest : ∀ c ∈ rest.head?, sep c = true)
      (h : Stretches sep runs rest) : Stretches sep (run :: runs) (gap ++ (run ++ rest))

/-- The runs that splitting a text gives. -/
def pieces (sep : Char → Bool) (s : List Char) : List (List Char) :=
  (s.splitOnP sep).filter (· ≠ [])

theorem pieces_cons {c : Char} (hc : sep c = true) : pieces sep (c :: s) = pieces sep s := by
  rw [pieces, List.splitOnP_cons_eq_if_modifyHead, if_pos hc, List.filter_cons_of_neg (by simp)]
  rfl

theorem pieces_gap (hgap : ∀ c ∈ gap, sep c = true) : pieces sep (gap ++ s) = pieces sep s := by
  induction gap with
  | nil => rfl
  | cons c gap ih =>
    rw [List.cons_append, pieces_cons (hgap c List.mem_cons_self)]
    exact ih fun d hd => hgap d (List.mem_cons_of_mem _ hd)

theorem pieces_run (hne : run ≠ []) (hrun : ∀ c ∈ run, sep c = false)
    (hrest : ∀ c ∈ rest.head?, sep c = true) : pieces sep (run ++ rest) = run :: pieces sep rest := by
  cases rest with
  | nil =>
    rw [List.append_nil, pieces, List.splitOnP_eq_singleton hrun,
      List.filter_cons_of_pos (by simpa using hne)]
    rfl
  | cons c rest =>
    have hc : sep c = true := hrest c rfl
    rw [pieces_cons hc, pieces, List.splitOnP_append_cons_of_forall_mem hrun c hc,
      List.filter_cons_of_pos (by simpa using hne)]
    rfl

theorem Stretches.pieces_eq (h : Stretches sep runs s) : pieces sep s = runs := by
  induction h with
  | @nil gap hgap =>
    have hg := pieces_gap (s := []) hgap
    rw [List.append_nil] at hg
    rw [hg]
    rfl
  | cons hgap hne hrun hrest h ih => rw [pieces_gap hgap, pieces_run hne hrun hrest, ih]

theorem halts_dropWhile (p : Char → Bool) (s : List Char) : Halts p (s.dropWhile p) := by
  intro c hc
  have hnot := List.head?_dropWhile_not p s
  rw [Option.mem_def.mp hc] at hnot
  exact hnot

/-- A text has separators only, or a first run with separators before it. -/
theorem exists_first_run (sep : Char → Bool) (s : List Char) :
    (∀ c ∈ s, sep c = true) ∨ ∃ gap run rest, s = gap ++ (run ++ rest) ∧
      (∀ c ∈ gap, sep c = true) ∧ run ≠ [] ∧ (∀ c ∈ run, sep c = false) ∧
      ∀ c ∈ rest.head?, sep c = true := by
  have hgap : ∀ c ∈ s.takeWhile sep, sep c = true := fun c hc => List.mem_takeWhile_imp hc
  have hs : s.takeWhile sep ++ s.dropWhile sep = s := List.takeWhile_append_dropWhile
  cases hr : s.dropWhile sep with
  | nil =>
    rw [hr, List.append_nil] at hs
    exact .inl (hs ▸ hgap)
  | cons c r =>
    have hc : sep c = false := halts_dropWhile sep s c (by rw [hr]; rfl)
    refine .inr ⟨_, (c :: r).takeWhile (!sep ·), (c :: r).dropWhile (!sep ·), ?_, hgap, ?_, ?_, ?_⟩
    · rw [List.takeWhile_append_dropWhile, ← hr, hs]
    · simp [hc]
    · intro d hd
      simpa using List.mem_takeWhile_imp hd
    · intro d hd
      simpa using halts_dropWhile (!sep ·) (c :: r) d hd

theorem stretches_pieces (sep : Char → Bool) (s : List Char) : Stretches sep (pieces sep s) s := by
  -- The induction is on the length: what is left after the first run is shorter.
  induction hn : s.length using Nat.strongRecOn generalizing s with
  | _ n ih =>
    subst hn
    obtain hgap | ⟨gap, run, rest, rfl, hgap, hne, hrun, hrest⟩ := exists_first_run sep s
    · have h : Stretches sep [] s := .nil hgap
      rwa [h.pieces_eq]
    · have hlt : rest.length < (gap ++ (run ++ rest)).length := by
        have hpos := List.length_pos_of_ne_nil hne
        simp only [List.length_append]
        omega
      have h : Stretches sep (run :: pieces sep rest) (gap ++ (run ++ rest)) :=
        .cons hgap hne hrun hrest (ih _ hlt rest rfl)
      rwa [h.pieces_eq]

/-- A text has the runs that splitting it gives, and no others. -/
theorem stretches_iff : Stretches sep runs s ↔ pieces sep s = runs :=
  ⟨Stretches.pieces_eq, fun h => h ▸ stretches_pieces sep s⟩

theorem Stretches.subset (h : Stretches sep runs s) : run ∈ runs → run ⊆ s := by
  induction h with
  | nil => exact fun hrun => nomatch hrun
  | cons hgap hne hrun hrest h ih =>
    intro hmem c hc
    rw [List.mem_append, List.mem_append]
    cases hmem with
    | head => exact .inr (.inl hc)
    | tail _ hmem => exact .inr (.inr (ih hmem hc))

theorem Stretches.gap_after (h : Stretches sep runs s) (hc : sep c = true) :
    Stretches sep runs (s ++ [c]) := by
  induction h with
  | nil hgap =>
    refine .nil fun d hd => ?_
    obtain hd | hd := List.mem_append.mp hd
    · exact hgap d hd
    · exact List.mem_singleton.mp hd ▸ hc
  | @cons gap run rest runs hgap hne hrun hrest h ih =>
    rw [List.append_assoc, List.append_assoc]
    refine .cons hgap hne hrun (fun d hd => ?_) ih
    cases rest with
    | nil => exact Option.some.inj hd ▸ hc
    | cons e rest => exact hrest d hd

/-- Characters may be replaced by others that separate where they do. -/
theorem Stretches.map {f : Char → Char} (h : Stretches sep runs s)
    (hf : ∀ c ∈ s, sep (f c) = sep c) : Stretches sep (runs.map (List.map f)) (s.map f) := by
  induction h with
  | nil hgap =>
    refine .nil (List.forall_mem_map.mpr fun c hc => ?_)
    rw [hf c hc]
    exact hgap c hc
  | @cons gap run rest runs hgap hne hrun hrest h ih =>
    rw [List.forall_mem_append, List.forall_mem_append] at hf
    obtain ⟨hfgap, hfrun, hfrest⟩ := hf
    rw [List.map_append, List.map_append]
    refine .cons (List.forall_mem_map.mpr fun c hc => ?_) (mt List.map_eq_nil_iff.mp hne)
      (List.forall_mem_map.mpr fun c hc => ?_) ?_ (ih hfrest)
    · rw [hfgap c hc]
      exact hgap c hc
    · rw [hfrun c hc]
      exact hrun c hc
    · rw [List.head?_map]
      intro d hd
      obtain ⟨c, hc, rfl⟩ := Option.map_eq_some_iff.mp hd
      rw [hfrest c (List.mem_of_mem_head? hc)]
      exact hrest c hc

theorem pieces_eq_nil_iff : pieces sep s = [] ↔ ∀ c ∈ s, sep c = true := by
  rw [← stretches_iff]
  constructor
  · intro h
    cases h with
    | nil hgap => exact hgap
  · exact .nil

end CloudEmulation.Text
