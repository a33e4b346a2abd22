import CloudEmulation.Proofs.Json.Records
import Mathlib.Data.List.Sort
/-!
Dictionaries whose names stand in order: they are the same where they give every name the same
value.
-/

namespace CloudEmulation.Dictionary

variable {α : Type} {m m' : Dictionary α} {name other : String} {names : List String} {v : α}

/-- Whether the names stand in order, each once. -/
def Sorted (m : Dictionary α) : Prop := m.Pairwise (·.1 < ·.1)

instance (m : Dictionary α) : Decidable m.Sorted :=
  inferInstanceAs (Decidable (m.Pairwise (·.1 < ·.1)))

theorem get?_cons (p : String × α) (m : Dictionary α) (name : String) :
    get? (p :: m) name = if p.1 = name then some p.2 else m.get? name := by
  by_cases h : p.1 = name
  · simp [get?, h]
  · simp [get?, h]

theorem get?_of_not_mem (h : ∀ p ∈ m, p.1 ≠ name) : m.get? name = none := by
  have hf : m.find? (·.1 = name) = none := by simpa using h
  rw [get?, hf]
  rfl

theorem mem_of_get? (h : m.get? name = some v) : (name, v) ∈ m := by
  obtain ⟨p, hp, rfl⟩ := Option.map_eq_some_iff.mp h
  have hn : p.1 = name := by simpa using List.find?_some hp
  exact hn ▸ List.mem_of_find?_eq_some hp

theorem Sorted.get?_eq_some (h : m.Sorted) : m.get? name = some v ↔ (name, v) ∈ m := by
  refine ⟨mem_of_get?, ?_⟩
  intro hm
  induction m with
  | nil => cases hm
  | cons p m ih =>
    obtain ⟨hp, hs⟩ := List.pairwise_cons.mp h
    rw [get?_cons]
    rcases List.mem_cons.mp hm with rfl | hm
    · rw [if_pos rfl]
    · have hlt : p.1 < name := hp _ hm
      rw [if_neg (String.ne_of_lt hlt), ih hs hm]

theorem Sorted.insert (h : m.Sorted) (name : String) (v : α) : (m.insert name v).Sorted := by
  induction m with
  | nil => exact List.pairwise_singleton _ _
  | cons p m ih =>
    obtain ⟨hp, hs⟩ := List.pairwise_cons.mp h
    rw [Dictionary.insert]
    split
    · rename_i hn
      exact List.pairwise_cons.mpr ⟨hn ▸ hp, hs⟩
    · rename_i hn
      split
      · rename_i hlt
        refine List.pairwise_cons.mpr ⟨?_, h⟩
        intro q hq
        rcases List.mem_cons.mp hq with rfl | hq
        · exact hlt
        · exact String.lt_trans hlt (hp q hq)
      · rename_i hlt
        refine List.pairwise_cons.mpr ⟨?_, ih hs⟩
        intro q hq
        rcases mem_insert hq with rfl | hq
        · exact Std.lt_of_le_of_ne hlt (Ne.symm hn)
        · exact hp q hq

theorem sorted_ofList (pairs : List (String × α)) : (ofList pairs).Sorted := by
  induction pairs using List.reverseRecOn with
  | nil => exact List.Pairwise.nil
  | append_singleton pairs p ih =>
    rw [ofList_concat]
    exact ih.insert p.1 p.2

theorem Sorted.without (h : m.Sorted) (names : List String) : (m.without names).Sorted :=
  List.Pairwise.filter _ h

theorem Sorted.ext (h : m.Sorted) (h' : m'.Sorted) (he : ∀ name, m.get? name = m'.get? name) :
    m = m' := by
  have : Std.Irrefl fun p q : String × α => p.1 < q.1 := ⟨fun p => String.lt_irrefl p.1⟩
  have : Std.Antisymm fun p q : String × α => p.1 < q.1 :=
    ⟨fun p q hp hq => absurd (String.lt_trans hp hq) (String.lt_irrefl p.1)⟩
  refine List.Pairwise.eq_of_mem_iff h h' ?_
  rintro ⟨name, v⟩
  rw [← h.get?_eq_some, he, h'.get?_eq_some]

theorem get?_without (m : Dictionary α) (names : List String) (name : String) :
    (m.without names).get? name = if name ∈ names then none else m.get? name := by
  split
  · rename_i hn
    refine get?_of_not_mem ?_
    rintro p hp rfl
    exact (mem_without.mp hp).2 hn
  · rename_i hn
    have hp : (fun p : String × α => decide ((!names.contains p.1) = true ∧
        decide (p.1 = name) = true)) = fun p => decide (p.1 = name) := by
      funext p
      by_cases he : p.1 = name
      · simp [he, hn]
      · simp [he]
    rw [get?, without, List.find?_filter, hp]
    rfl

/-- Where every name stands once, it does not matter which of its values counts. -/
theorem get?_ofList_of_nodup {pairs : List (String × α)} (h : (pairs.map Prod.fst).Nodup)
    (name : String) : (ofList pairs).get? name = get? pairs name := by
  induction pairs using List.reverseRecOn with
  | nil => rfl
  | append_singleton pairs p ih =>
    rw [List.map_append] at h
    obtain ⟨hn, -, hd⟩ := List.nodup_append.mp h
    rw [ofList_concat, get?_insert, ih hn, get?, get?, List.find?_append]
    split
    · rename_i he
      have hf : pairs.find? (·.1 = name) = none := by
        rw [List.find?_eq_none]
        intro q hq heq
        exact hd q.1 (List.mem_map.mpr ⟨q, hq, rfl⟩) p.1 (by simp)
          ((of_decide_eq_true heq).trans he)
      rw [hf]
      simp [he]
    · rename_i he
      simp [Ne.symm he]

theorem Sorted.nodup (h : m.Sorted) : (m.map Prod.fst).Nodup :=
  (List.pairwise_map.mpr h).imp String.ne_of_lt

theorem Sorted.ofList_eq (h : m.Sorted) : ofList m = m :=
  (sorted_ofList m).ext h fun name => get?_ofList_of_nodup h.nodup name

end CloudEmulation.Dictionary
