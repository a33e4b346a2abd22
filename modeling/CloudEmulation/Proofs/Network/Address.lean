import CloudEmulation.Network.Address
import CloudEmulation.Proofs.Number.Numeral
import CloudEmulation.Proofs.Text.Parts
/-!
Addresses that are read are numbers of 32 bits, and have the texts that they are read from.
-/

namespace CloudEmulation.Address

variable {a : Address} {s : List Char} {n : Nat}

theorem lt_of_byte? (h : byte? s = some n) : n < 256 := by
  unfold byte? at h
  split at h
  · cases h
  · split at h
    · cases h
    · have hn := (Option.filter_eq_some_iff.mp h).2
      exact of_decide_eq_true hn

theorem number_lt (h : ofChars? s = some a) : a.number < 0x100000000 := by
  unfold ofChars? at h
  split at h
  · rename_i w x y z hm
    cases h
    have hb : ∀ n ∈ [w, x, y, z], n < 256 := by
      intro n hn
      obtain ⟨part, -, hp⟩ := Text.exists_of_mapM hm hn
      exact lt_of_byte? hp
    have hw := hb w (by simp)
    have hx := hb x (by simp)
    have hy := hb y (by simp)
    have hz := hb z (by simp)
    show w * 0x1000000 + x * 0x10000 + y * 0x100 + z < 0x100000000
    omega
  · cases h

theorem toList_of_byte? (h : byte? s = some n) : (toString n).toList = s := by
  unfold byte? at h
  split at h
  · cases h
  · rename_i hs
    split at h
    · cases h
    · rename_i hzero
      have hn := (Option.filter_eq_some_iff.mp h).1
      cases hn
      simp only [Bool.or_eq_true, List.isEmpty_iff, decide_eq_true_eq, Bool.not_eq_true',
        not_or, Bool.not_eq_false, Bool.and_eq_true, not_and] at hs hzero
      rw [Nat.toString_eq_ofList_toDigits, String.toList_ofList]
      exact Numeral.toDigits_digitsValue hs.1.1 hs.2 hzero

theorem text_of_ofChars? (h : ofChars? s = some a) : a.text.toList = s := by
  unfold ofChars? at h
  split at h
  · rename_i w x y z hm
    cases h
    have hsplit : s.splitOnP (· = '.') = s.splitOn '.' := List.splitOn_eq_splitOnP.symm
    obtain ⟨p, _, hparts, hw, hrest⟩ := List.map_eq_cons_iff.mp (Text.mapM_eq_some.mp hm)
    obtain ⟨q, _, rfl, hx, hrest⟩ := List.map_eq_cons_iff.mp hrest
    obtain ⟨r, _, rfl, hy, hrest⟩ := List.map_eq_cons_iff.mp hrest
    obtain ⟨t, _, rfl, hz, hrest⟩ := List.map_eq_cons_iff.mp hrest
    obtain rfl := List.map_eq_nil_iff.mp hrest
    have hs : ['.'].intercalate (s.splitOn '.') = s := List.intercalate_splitOn '.'
    have hw' := lt_of_byte? hw
    have hx' := lt_of_byte? hx
    have hy' := lt_of_byte? hy
    have hz' := lt_of_byte? hz
    have h₁ : (w * 0x1000000 + x * 0x10000 + y * 0x100 + z) / 0x1000000 = w := by omega
    have h₂ : (w * 0x1000000 + x * 0x10000 + y * 0x100 + z) / 0x10000 % 0x100 = x := by omega
    have h₃ : (w * 0x1000000 + x * 0x10000 + y * 0x100 + z) / 0x100 % 0x100 = y := by omega
    have h₄ : (w * 0x1000000 + x * 0x10000 + y * 0x100 + z) % 0x100 = z := by omega
    rw [← hs, ← hsplit, hparts, ← toList_of_byte? hw, ← toList_of_byte? hx, ← toList_of_byte? hy,
      ← toList_of_byte? hz, text]
    simp [h₁, h₂, h₃, h₄, String.toList_append, List.intercalate, List.intersperse]
  · cases h

/-- An address keeps the text that it is read from. -/
theorem text_of_ofText? {raw : String} (h : ofText? raw = some a) : a.text = raw :=
  String.toList_inj.mp (text_of_ofChars? h)

end CloudEmulation.Address
