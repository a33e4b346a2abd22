import CloudEmulation.Emulation.Page
import CloudEmulation.Proofs.Number.Numeral
/-!
A page is a stretch of its list. Following the tokens of pages from the first one on leads through the
whole list once, and a token of any origin leads to a stretch of the list or nowhere.
-/

namespace CloudEmulation.Page

section

variable {α β : Type} {items : List α} {limit : Option Nat} {token : Option String}
  {n size : Nat} {p : Page α}

theorem slice_cases (items : List α) (limit : Option Nat) (n : Nat) :
    slice items limit n = ⟨items.drop n, none⟩ ∨
    ∃ m, limit = some m ∧ n + m < items.length ∧
      slice items limit n = ⟨(items.drop n).take m, some (toString (n + m))⟩ := by
  cases limit with
  | none => exact .inl rfl
  | some m =>
    by_cases h : m < (items.drop n).length
    · have hm : n + m < items.length := by
        rw [List.length_drop] at h
        omega
      exact .inr ⟨m, rfl, hm, by simp only [slice, if_pos h]⟩
    · exact .inl (by simp only [slice, if_neg h])

theorem map_slice (f : α → β) (items : List α) (limit : Option Nat) (n : Nat) :
    slice (items.map f) limit n = (slice items limit n).map f := by
  cases limit with
  | none => simp [slice, map]
  | some m =>
    simp only [slice, List.length_drop, List.length_map, map]
    split <;> simp

theorem of_eq_ok : Page.of items limit token = .ok p ↔
    ∃ n, offset items.length token = .ok n ∧ slice items limit n = p := by
  unfold Page.of
  cases offset items.length token <;> simp [Except.map]

theorem mem_slice {a : α} (h : a ∈ (slice items limit n).items) : a ∈ items := by
  rcases slice_cases items limit n with hs | ⟨m, -, -, hs⟩
  · rw [hs] at h
    exact List.mem_of_mem_drop h
  · rw [hs] at h
    exact List.mem_of_mem_drop (List.mem_of_mem_take h)

theorem mem_of {a : α} (h : Page.of items limit token = .ok p) (ha : a ∈ p.items) : a ∈ items := by
  obtain ⟨n, -, rfl⟩ := of_eq_ok.mp h
  exact mem_slice ha

theorem offset_start (h : token.getD "" = "") : offset size token = .ok 0 := by
  cases token with
  | none => rfl
  | some t =>
    have ht : t = "" := h
    rw [ht]
    rfl

theorem le_of_offset (h : offset size token = .ok n) : n ≤ size := by
  unfold offset at h
  split at h
  · cases h
    exact Nat.zero_le _
  · split at h
    · cases h
      exact Nat.zero_le _
    · split at h
      · rename_i m hm
        cases h
        exact of_decide_eq_true (Option.filter_eq_some_iff.mp hm).2
      · cases h

theorem length_slice_le (items : List α) (size offset : Nat) :
    (slice items (some size) offset).items.length ≤ size := by
  simp only [slice]
  split
  · exact List.length_take_le _ _
  · rename_i h
    exact Nat.le_of_not_lt h

theorem offset_toString (h : n ≤ size) (hs : size ≤ Numeral.word64Limit) :
    offset size (some (toString n)) = .ok n := by
  have hne : toString n ≠ "" := by
    intro he
    have hd : Nat.toDigits 10 n = [] := by
      rw [← String.toList_ofList (l := Nat.toDigits 10 n), ← Nat.toString_eq_ofList_toDigits, he]
      rfl
    exact Nat.toDigits_ne_nil hd
  have hw := Numeral.word64?_toString (Nat.le_trans h hs)
  simp only [offset, if_neg hne, hw, Option.filter_some, decide_eq_true h, if_true]

end

/-! Following tokens. -/

section

open Numeral (word64Limit)

variable {α : Type} {items : List α} {limit : Option Nat} {token : Option String} {n m : Nat}
  {pages pages' : List (Page α)}

/-- The number that a token stands for; no token is the beginning. -/
def start? : Option String → Option Nat
  | none => some 0
  | some t => if t = "" then some 0 else Numeral.word64? t

/-- Pages one after another, each of them begun by the token of the one before. -/
inductive Sequence (items : List α) (limit : Option Nat) : Option String → List (Page α) → Prop
  | last {token p} : Page.of items limit token = .ok p → p.next = none →
    Sequence items limit token [p]
  | more {token p next rest} : Page.of items limit token = .ok p → p.next = some next →
    Sequence items limit (some next) rest → Sequence items limit token (p :: rest)

theorem of_offset (h : offset items.length token = .ok n) (limit : Option Nat) :
    Page.of items limit token = .ok (slice items limit n) := of_eq_ok.mpr ⟨n, h, rfl⟩

/-- A token that leads nowhere stands for no number, or for one that is too large. -/
theorem offset_cases (size : Nat) (token : Option String) :
    (∃ n, start? token = some n ∧ n ≤ size ∧ offset size token = .ok n) ∨
    (∃ t, token = some t ∧ offset size token = .error (.invalidArgument (.pageToken t)) ∧
      ∀ n, start? token = some n → size < n) := by
  cases token with
  | none => exact .inl ⟨0, rfl, Nat.zero_le _, rfl⟩
  | some t =>
    by_cases ht : t = ""
    · exact .inl ⟨0, if_pos ht, Nat.zero_le _, offset_start ht⟩
    · simp only [start?, offset, if_neg ht]
      cases hw : Numeral.word64? t with
      | none => exact .inr ⟨t, rfl, rfl, by simp⟩
      | some n =>
        by_cases hn : n ≤ size
        · refine .inl ⟨n, rfl, hn, ?_⟩
          simp only [Option.filter_some, decide_eq_true hn, if_true]
        · refine .inr ⟨t, rfl, ?_, ?_⟩
          · simp only [Option.filter_some, decide_eq_false hn, Bool.false_eq_true, if_false]
          · intro k hk
            rw [← Option.some.inj hk]
            exact Nat.lt_of_not_le hn

namespace Sequence

theorem unique (h : Sequence items limit token pages) (k : Sequence items limit token pages') :
    pages = pages' := by
  induction h generalizing pages' with
  | last hp hn =>
    cases k with
    | last hp' _ => rw [Except.ok.inj (hp.symm.trans hp')]
    | more hp' hn' _ =>
      rw [Except.ok.inj (hp.symm.trans hp'), hn'] at hn
      cases hn
  | more hp hn _ ih =>
    cases k with
    | last hp' hn' =>
      rw [Except.ok.inj (hp.symm.trans hp'), hn'] at hn
      cases hn
    | more hp' hn' k =>
      have hpage := Except.ok.inj (hp.symm.trans hp')
      rw [hpage, hn'] at hn
      cases hn
      rw [hpage, ih k]

/-- From an offset on, the pages are full but for the last one and hold what is left. -/
theorem exists_full (hm : 0 < m) (hfit : items.length ≤ word64Limit)
    (ho : offset items.length token = .ok n) : ∃ pages last,
      Sequence items (some m) token (pages ++ [last]) ∧
      (∀ p ∈ pages, p.items.length = m) ∧ last.items.length ≤ m ∧
      (last.items = [] → items.drop n = []) ∧
      (pages ++ [last]).flatMap Page.items = items.drop n := by
  -- A page that is not the last one leaves fewer items.
  induction hk : items.length - n using Nat.strongRecOn generalizing token n with
  | _ k ih =>
    have hof := of_offset ho (some m)
    have hle := length_slice_le items m n
    obtain hs | ⟨_, ⟨⟩, hlt, hs⟩ := slice_cases items (some m) n
    · rw [hs] at hof hle
      refine ⟨[], ⟨items.drop n, none⟩, .last hof rfl, nofun, hle, id, ?_⟩
      rw [List.nil_append, List.flatMap_singleton]
    · rw [hs] at hof
      have hnext := offset_toString (Nat.le_of_lt hlt) hfit
      obtain ⟨pages, last, hsequence, hfull, hlast, hempty, hall⟩ :=
        ih (items.length - (n + m)) (by omega) hnext rfl
      refine ⟨_ :: pages, last, .more hof rfl hsequence, ?_, hlast, ?_, ?_⟩
      · intro p hp
        obtain rfl | hp := List.mem_cons.mp hp
        · rw [List.length_take, List.length_drop]
          omega
        · exact hfull p hp
      · intro he
        have hdrop := List.drop_eq_nil_iff.mp (hempty he)
        omega
      · rw [List.cons_append, List.flatMap_cons, hall, ← List.drop_drop]
        exact List.take_append_drop _ _

end Sequence

/-- From the first page on the tokens lead through the list once, on full pages but for the last;
a token of any origin is refused or leads to the stretch of the list that begins where it says. -/
theorem pages_hold_list (items : List α) (hfit : items.length ≤ word64Limit) :
    (∀ m, 0 < m → ∃ pages last, Sequence items (some m) none (pages ++ [last]) ∧
      (∀ pages', Sequence items (some m) none pages' → pages' = pages ++ [last]) ∧
      (∀ p ∈ pages, p.items.length = m) ∧ last.items.length ≤ m ∧
      (last.items = [] → items = []) ∧ (pages ++ [last]).flatMap Page.items = items) ∧
    ∀ limit token,
      (∃ t, token = some t ∧
        Page.of items limit token = .error (.invalidArgument (.pageToken t)) ∧
        ∀ n, start? token = some n → items.length < n) ∨
      ∃ n p, start? token = some n ∧ n ≤ items.length ∧ Page.of items limit token = .ok p ∧
        p.items <+: items.drop n ∧
        (p.next.isSome = true ↔ n + p.items.length < items.length) ∧
        (p.next = none → p.items = items.drop n) ∧
        ∀ next, p.next = some next → ∃ m, limit = some m ∧ n + m ≤ word64Limit ∧
          p.items.length = m ∧ next = toString (n + m) := by
  constructor
  · intro m hm
    have hstart : offset items.length none = .ok 0 := rfl
    obtain ⟨pages, last, hsequence, hfull, hlast, hempty, hall⟩ :=
      Sequence.exists_full hm hfit hstart
    exact ⟨pages, last, hsequence, fun pages' k => k.unique hsequence, hfull, hlast, hempty, hall⟩
  · intro limit token
    obtain ⟨n, hstart, hn, ho⟩ | ⟨t, rfl, ho, hlarge⟩ := offset_cases items.length token
    · refine .inr ⟨n, slice items limit n, hstart, hn, of_offset ho limit, ?_⟩
      obtain hs | ⟨m, rfl, hlt, hs⟩ := slice_cases items limit n
      · rw [hs]
        refine ⟨List.prefix_rfl, ?_, fun _ => rfl, nofun⟩
        rw [List.length_drop]
        simp only [Option.isSome_none, Bool.false_eq_true, false_iff]
        omega
      · have hlength : ((items.drop n).take m).length = m := by
          rw [List.length_take, List.length_drop]
          omega
        rw [hs]
        refine ⟨List.take_prefix _ _, ?_, nofun, ?_⟩
        · rw [hlength]
          simpa using hlt
        · rintro _ ⟨⟩
          exact ⟨m, rfl, Nat.le_trans (Nat.le_of_lt hlt) hfit, hlength, rfl⟩
    · refine .inl ⟨t, rfl, ?_, hlarge⟩
      unfold Page.of
      rw [ho]
      rfl

/-- Four items on pages of two: the second page is the last one. -/
theorem two_full_pages : ∃ pages last,
    Sequence ["a", "b", "c", "d"] (some 2) none (pages ++ [last]) ∧
      pages.map Page.items = [["a", "b"]] ∧ last.items = ["c", "d"] := by
  obtain ⟨hpages, -⟩ := pages_hold_list ["a", "b", "c", "d"] (by decide)
  obtain ⟨pages, last, hsequence, hunique, -⟩ := hpages 2 (by decide)
  let items := ["a", "b", "c", "d"]
  have hfirst : Page.of items (some 2) none = .ok ⟨["a", "b"], some (toString 2)⟩ := rfl
  have htoken : offset items.length (some (toString 2)) = .ok 2 :=
    offset_toString (by decide) (by decide)
  have hsecond : Page.of items (some 2) (some (toString 2)) = .ok ⟨["c", "d"], none⟩ :=
    of_offset htoken (some 2)
  have hboth : [⟨["a", "b"], some (toString 2)⟩] ++ [⟨["c", "d"], none⟩] = pages ++ [last] :=
    hunique _ (.more hfirst rfl (.last hsecond rfl))
  obtain ⟨hpages, hlast⟩ := List.append_inj' hboth rfl
  refine ⟨pages, last, hsequence, ?_, ?_⟩
  · rw [← hpages]
    rfl
  · cases hlast
    rfl

end

end CloudEmulation.Page
