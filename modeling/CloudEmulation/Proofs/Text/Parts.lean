import Mathlib.Data.List.Basic
/-!
Texts that are read part by part, and classes of ASCII characters.
-/

namespace CloudEmulation

/-! Readings that may fail. -/

theorem Except.bind_eq_ok {ε α β : Type} {x : Except ε α} {f : α → Except ε β} {b : β} :
    (x >>= f) = .ok b ↔ ∃ a, x = .ok a ∧ f a = .ok b := by
  cases x <;> simp [bind, Except.bind]

theorem Except.map_eq_ok {ε α β : Type} {f : α → β} {x : Except ε α} {b : β} :
    x.map f = .ok b ↔ ∃ a, x = .ok a ∧ f a = b := by
  cases x <;> simp [Except.map]

theorem Except.mapM_eq_ok {ε α β : Type} {f : α → Except ε β} {as : List α} {bs : List β} :
    as.mapM f = .ok bs ↔ as.map f = bs.map .ok := by
  induction as generalizing bs with
  | nil =>
    constructor
    · rintro ⟨⟩
      rfl
    · intro h
      rw [List.map_eq_nil_iff.mp h.symm]
      rfl
  | cons a as ih =>
    rw [List.mapM_cons, List.map_cons]
    cases hf : f a with
    | error e =>
      constructor
      · rintro ⟨⟩
      · intro h
        obtain ⟨b, bs, -, hb, -⟩ := List.map_eq_cons_iff.mp h.symm
        cases hb
    | ok b =>
      constructor
      · intro h
        obtain ⟨b', ⟨⟩, h⟩ := bind_eq_ok.mp h
        obtain ⟨rest, hrest, ⟨⟩⟩ := bind_eq_ok.mp h
        rw [List.map_cons, ih.mp hrest]
      · intro h
        obtain ⟨b', bs', rfl, hb, hbs⟩ := List.map_eq_cons_iff.mp h.symm
        cases hb
        have hrest := ih.mpr hbs.symm
        rw [hrest]
        rfl

namespace Text

variable {α β : Type} {c : Char}

/-- What holds of every ASCII character is found by trying them. -/
@[elab_as_elim]
theorem of_ascii {P : Char → Prop} (hc : c.toNat < 128) (h : ∀ n, n < 128 → P (Char.ofNat n)) :
    P c := by
  have hn := h c.toNat hc
  rwa [Char.ofNat_toNat] at hn

theorem forall_of_all {P : Char → Prop} [DecidablePred P] {s : List Char}
    (h : (s.all fun c => P c) = true) : ∀ c ∈ s, P c :=
  fun c hc => of_decide_eq_true (List.all_eq_true.mp h c hc)

theorem mapM_eq_some {f : α → Option β} {as : List α} {bs : List β} :
    as.mapM f = some bs ↔ as.map f = bs.map some := by
  induction as generalizing bs with
  | nil => cases bs <;> simp
  | cons a as ih =>
    simp only [List.mapM_cons, List.map_cons, bind, Option.bind_eq_some_iff, pure,
      Option.some.injEq]
    constructor
    · rintro ⟨b, hb, bs, hbs, rfl⟩
      rw [List.map_cons, hb, ih.mp hbs]
    · intro h
      obtain ⟨b, bs, rfl, hb, hbs⟩ := List.map_eq_cons_iff.mp h.symm
      exact ⟨b, hb.symm, bs, ih.mpr hbs.symm, rfl⟩

theorem exists_of_mapM {f : α → Option β} {as : List α} {bs : List β} (h : as.mapM f = some bs)
    {b : β} (hb : b ∈ bs) : ∃ a ∈ as, f a = some b := by
  have hm : some b ∈ as.map f := mapM_eq_some.mp h ▸ List.mem_map_of_mem hb
  exact List.mem_map.mp hm

/-- Parts without the mark between them are told apart. -/
theorem splitOnP_intercalate {parts : List (List Char)} (h : ∀ l ∈ parts, c ∉ l)
    (hne : parts ≠ []) : ([c].intercalate parts).splitOnP (· = c) = parts := by
  have hf : (fun d : Char => decide (d = c)) = (· == c) := rfl
  rw [hf, ← List.splitOn_eq_splitOnP, List.splitOn_intercalate c h hne]

theorem mem_intercalate {x : Char} {parts : List (List Char)} (h : c ∈ [x].intercalate parts) :
    c = x ∨ ∃ l ∈ parts, c ∈ l := by
  induction parts with
  | nil => cases h
  | cons l parts ih =>
    cases parts with
    | nil =>
      rw [List.intercalate_singleton] at h
      exact .inr ⟨l, List.mem_singleton_self l, h⟩
    | cons l' parts =>
      rw [List.intercalate_cons_cons, List.append_assoc, List.mem_append, List.mem_append,
        List.mem_singleton] at h
      rcases h with h | h | h
      · exact .inr ⟨l, List.mem_cons_self, h⟩
      · exact .inl h
      · exact (ih h).imp_right fun ⟨m, hm, hc⟩ => ⟨m, List.mem_cons_of_mem _ hm, hc⟩

theorem of_mem_splitOnP {p : Char → Bool} {s l : List Char} (h : l ∈ s.splitOnP p) :
    ∀ c ∈ l, c ∈ s ∧ p c = false := by
  induction s generalizing l with
  | nil =>
    rw [List.splitOnP_nil, List.mem_singleton] at h
    rw [h]
    exact fun c hc => nomatch hc
  | cons d s ih =>
    intro c hc
    have hrest {l : List Char} (hl : l ∈ s.splitOnP p) (hc : c ∈ l) : c ∈ d :: s ∧ p c = false :=
      ⟨List.mem_cons_of_mem _ (ih hl c hc).1, (ih hl c hc).2⟩
    rw [List.splitOnP_cons_eq_if_modifyHead] at h
    split at h
    · rcases List.mem_cons.mp h with rfl | h
      · cases hc
      · exact hrest h hc
    · rename_i hd
      obtain ⟨first, more, hsplit⟩ := List.exists_cons_of_ne_nil (List.splitOnP_ne_nil p s)
      rw [hsplit, List.modifyHead_cons] at h
      rcases List.mem_cons.mp h with rfl | h
      · rcases List.mem_cons.mp hc with rfl | hc
        · exact ⟨List.mem_cons_self, Bool.eq_false_iff.mpr hd⟩
        · exact hrest (hsplit ▸ List.mem_cons_self) hc
      · exact hrest (hsplit ▸ List.mem_cons_of_mem _ h) hc

end Text

end CloudEmulation
