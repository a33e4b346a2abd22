import CloudEmulation.Oracle.Order
import Mathlib.Data.List.Basic
/-!
Sorting a list that has grown keeps what was there in the order it had.
-/

namespace CloudEmulation.Oracle

variable {α : Type} {le : α → α → Bool} {l l' : List α}

theorem mergeSort_cons_parts (trans : ∀ a b c, le a b → le b c → le a c)
    (total : ∀ a b, le a b || le b a) (a : α) (l : List α) :
    (a :: l).mergeSort le =
      (l.mergeSort le).filter (!le a ·) ++ a :: (l.mergeSort le).filter (le a) := by
  obtain ⟨l₁, l₂, ha, hl, hlow⟩ := List.mergeSort_cons trans total a l
  -- The new element stands right before the first one that it may precede.
  have hsorted := List.pairwise_mergeSort trans total (a :: l)
  rw [ha] at hsorted
  have hhigh : ∀ b ∈ l₂, le a b = true := by
    have h := (List.pairwise_append.mp hsorted).2.1
    exact (List.pairwise_cons.mp h).1
  have hlow' : ∀ b ∈ l₁, le a b = false := by
    intro b hb
    have h := hlow b hb
    rwa [Bool.not_eq_true'] at h
  rw [ha, hl, List.filter_append, List.filter_append]
  congr 1
  · have h₁ : l₁.filter (!le a ·) = l₁ := List.filter_eq_self.mpr hlow
    have h₂ : l₂.filter (!le a ·) = [] := by
      rw [List.filter_eq_nil_iff]
      intro b hb
      rw [hhigh b hb]
      decide
    rw [h₁, h₂, List.append_nil]
  · have h₁ : l₁.filter (le a) = [] := by
      rw [List.filter_eq_nil_iff]
      intro b hb
      rw [hlow' b hb]
      decide
    have h₂ : l₂.filter (le a) = l₂ := List.filter_eq_self.mpr hhigh
    rw [h₁, h₂, List.nil_append]

theorem mergeSort_sublist (trans : ∀ a b c, le a b → le b c → le a c)
    (total : ∀ a b, le a b || le b a) (h : l.Sublist l') :
    (l.mergeSort le).Sublist (l'.mergeSort le) := by
  induction h with
  | slnil => exact List.Sublist.refl _
  | @cons l₁ l₂ a h ih =>
    obtain ⟨k₁, k₂, ha, hl, -⟩ := List.mergeSort_cons trans total a l₂
    rw [hl] at ih
    rw [ha]
    exact ih.middle a
  | @cons_cons l₁ l₂ a h ih =>
    rw [mergeSort_cons_parts trans total, mergeSort_cons_parts trans total]
    exact (ih.filter _).append ((ih.filter _).cons_cons a)

/-! The orders of instances. -/

theorem SortKey.trans_compare (k : SortKey) : Std.TransCmp k.compare := by
  cases k with
  | timeCreated =>
    show Std.TransCmp (compareLex (compareOn fun i : Instance => i.createdAt.seconds)
      (compareOn fun i : Instance => i.createdAt.nanos))
    infer_instance
  | displayName =>
    show Std.TransCmp (compareOn Instance.name)
    infer_instance

theorem mayPrecede_trans (k : SortKey) (o : SortOrder) (a b c : Instance)
    (hab : mayPrecede k o a b = true) (hbc : mayPrecede k o b c = true) :
    mayPrecede k o a c = true := by
  have := k.trans_compare
  cases o with
  | ascending =>
    simp only [mayPrecede, decide_eq_true_eq, Ordering.ne_gt_iff_isLE] at *
    exact Std.TransCmp.isLE_trans hab hbc
  | descending =>
    simp only [mayPrecede, decide_eq_true_eq, Ordering.ne_gt_iff_isLE] at *
    exact Std.TransCmp.isLE_trans hbc hab

theorem mayPrecede_total (k : SortKey) (o : SortOrder) (a b : Instance) :
    (mayPrecede k o a b || mayPrecede k o b a) = true := by
  have := k.trans_compare
  have hswap : k.compare b a = (k.compare a b).swap := Std.OrientedCmp.eq_swap
  cases o <;> cases h : k.compare a b <;> simp [mayPrecede, hswap, h]

theorem sorted_sublist (k : SortKey) (o : SortOrder) {l l' : List Instance} (h : l.Sublist l') :
    (sorted k o l).Sublist (sorted k o l') :=
  mergeSort_sublist (mayPrecede_trans k o) (mayPrecede_total k o) h

end CloudEmulation.Oracle
