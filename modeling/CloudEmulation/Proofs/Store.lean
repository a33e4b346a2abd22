import CloudEmulation.Store
import Mathlib.Data.List.Nodup
/-!
Looking resources up in a store whose identities differ within each scope.
-/

namespace CloudEmulation.Store

variable {α : Type} {s : Store α} {scope : Scope} {a : α}

theorem eq_of_entries {t : Store α} (h : t.entries = s.entries) : t = s := by
  cases t
  cases s
  exact congrArg mk h

theorem mem_list : a ∈ s.list scope ↔ (scope, a) ∈ s.entries := by
  simp only [list, List.mem_filterMap]
  constructor
  · rintro ⟨⟨other, b⟩, hm, h⟩
    split at h
    · rename_i he
      cases h
      exact he ▸ hm
    · cases h
  · exact fun hm => ⟨_, hm, by simp⟩

theorem list_append (s : Store α) (scope other : Scope) (a : α) :
    (s.append scope a).list other = s.list other ++ (if scope = other then [a] else []) := by
  by_cases h : scope = other
  · subst h
    simp [list_append_self]
  · simp [list_append_other s a (Ne.symm h), h]

theorem list_eq_filter (s : Store α) (scope : Scope) :
    s.list scope = (s.entries.filter (·.1 = scope)).map Prod.snd := by
  unfold list
  induction s.entries with
  | nil => rfl
  | cons e es ih =>
    by_cases h : e.1 = scope
    · simpa [h] using ih
    · simpa [h] using ih

variable [Identified α] {id : String} {f : Fault}

theorem has_iff : s.has scope id = true ↔ id ∈ (s.list scope).map identity := by
  simp [has, List.any_eq_true]

theorem has_eq_false_iff : s.has scope id = false ↔ id ∉ (s.list scope).map identity := by
  rw [← Bool.not_eq_true, has_iff]

theorem get_eq_ok_iff (h : ((s.list scope).map identity).Nodup) :
    s.get scope id = .ok a ↔ a ∈ s.list scope ∧ identity a = id := by
  unfold get find?
  cases hf : (s.list scope).find? (identity · = id) with
  | none =>
    simp only [reduceCtorEq, false_iff]
    rintro ⟨hm, hi⟩
    exact absurd hi (by simpa using List.find?_eq_none.mp hf a hm)
  | some b =>
    have hb := List.mem_of_find?_eq_some hf
    have hi : identity b = id := by simpa using List.find?_some hf
    constructor
    · rintro ⟨⟩
      exact ⟨hb, hi⟩
    · rintro ⟨hm, ha⟩
      rw [List.inj_on_of_nodup_map h hb hm (hi.trans ha.symm)]

theorem exists_get (h : s.has scope id = true) : ∃ a ∈ s.list scope, s.get scope id = .ok a := by
  unfold get find?
  cases hf : (s.list scope).find? (identity · = id) with
  | none =>
    obtain ⟨a, ha, hi⟩ := List.mem_map.mp (has_iff.mp h)
    exact absurd hi (by simpa using List.find?_eq_none.mp hf a ha)
  | some a => exact ⟨a, List.mem_of_find?_eq_some hf, rfl⟩

theorem get_eq_notFound (h : s.has scope id = false) : s.get scope id = .error (.notFound id scope) := by
  have hn : s.find? scope id = none := by
    simp only [find?, List.find?_eq_none, decide_eq_true_eq]
    intro a ha hi
    exact has_eq_false_iff.mp h (List.mem_map.mpr ⟨a, ha, hi⟩)
  simp [get, hn]

theorem get_eq_error_iff :
    s.get scope id = .error f ↔ f = .notFound id scope ∧ ∀ a ∈ s.list scope, identity a ≠ id := by
  cases hh : s.has scope id with
  | true =>
    obtain ⟨a, ha, hg⟩ := exists_get hh
    obtain ⟨b, hb, hi⟩ := List.mem_map.mp (has_iff.mp hh)
    simp only [hg, reduceCtorEq, false_iff, not_and]
    exact fun _ hne => hne b hb hi
  | false =>
    have hne : ∀ a ∈ s.list scope, identity a ≠ id := by
      rintro a ha rfl
      exact has_eq_false_iff.mp hh (List.mem_map_of_mem ha)
    rw [get_eq_notFound hh, Except.error.injEq]
    exact ⟨fun he => ⟨he.symm, hne⟩, fun he => he.1.symm⟩

/-- Identities differ within each scope. -/
def Distinct (s : Store α) : Prop := ∀ scope, ((s.list scope).map identity).Nodup

theorem distinct_empty : (empty : Store α).Distinct := fun _ => .nil

theorem Distinct.append (h : s.Distinct) (hv : s.has scope (identity a) = false) :
    (s.append scope a).Distinct := by
  intro other
  rw [list_append]
  split
  · rename_i he
    subst he
    rw [List.map_append]
    refine List.nodup_append.mpr ⟨h scope, by simp, ?_⟩
    rintro i hi j hj rfl
    rw [List.map_singleton, List.mem_singleton] at hj
    exact has_eq_false_iff.mp hv (hj ▸ hi)
  · simpa using h other

theorem create_of_vacant (h : s.has scope (identity a) = false) :
    s.create scope a = .ok (s.append scope a) := by
  simp [create, add, h]

end CloudEmulation.Store
