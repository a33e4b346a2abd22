import CloudEmulation.Text.Utf8
import Mathlib.Algebra.GroupWithZero.Nat
import Mathlib.Tactic.SplitIfs
/-!
Reading the bytes of a text gives the text, and no text is longer than the bytes it is read from.
-/

namespace CloudEmulation.Utf8

variable {v : Nat}

theorem toNat_byte (n : Nat) (h : n < 256) : (UInt8.ofNat n).toNat = n := by
  rw [UInt8.toNat_ofNat', Nat.mod_eq_of_lt h]

theorem followers_succ {n low high bits b : Nat} {r : Bytes} (hb : b < 256) (hl : low ≤ b)
    (hh : b ≤ high) : followers (n + 1) low high bits (UInt8.ofNat b :: r) =
      followers n 0x80 0xBF (bits * 64 + b % 64) r := by
  rw [followers, toNat_byte b hb, if_pos ⟨hl, hh⟩]

theorem front_one (h : v < 0x80) (r : Bytes) : front (UInt8.ofNat v) r = (some (Char.ofNat v), r) := by
  have hl : lead? v = some ⟨0, 0, 0, v⟩ := by simp [lead?, h]
  rw [front, toNat_byte v (by omega), hl]
  rfl

theorem front_two (h : 0x80 ≤ v) (h' : v < 0x800) (r : Bytes) :
    front (UInt8.ofNat (v / 64 % 0x20 + 0xC0)) (UInt8.ofNat (v % 0x40 + 0x80) :: r) =
      (some (Char.ofNat v), r) := by
  have hl : lead? (v / 64 % 0x20 + 0xC0) = some ⟨1, 0x80, 0xBF, v / 64⟩ := by
    unfold lead?
    rw [if_neg (by omega), if_neg (by omega), if_pos (by omega)]
    have hb : v / 64 % 0x20 + 0xC0 - 0xC0 = v / 64 := by omega
    rw [hb]
  rw [front, toNat_byte _ (by omega), hl]
  simp only
  rw [followers_succ (by omega) (by omega) (by omega)]
  have hv : v / 64 * 64 + (v % 0x40 + 0x80) % 64 = v := by omega
  rw [hv]
  rfl

/-- The second byte of three keeps within the bounds that the first one sets. -/
theorem lead_three (h : 0x800 ≤ v) (h' : v < 0x10000) (hs : v < 0xD800 ∨ 0xDFFF < v) :
    ∃ low high, lead? (v / 4096 % 0x10 + 0xE0) = some ⟨2, low, high, v / 4096⟩ ∧
      low ≤ v / 64 % 0x40 + 0x80 ∧ v / 64 % 0x40 + 0x80 ≤ high := by
  unfold lead?
  rw [if_neg (by omega), if_neg (by omega), if_neg (by omega)]
  by_cases h₀ : v / 4096 = 0
  · rw [if_pos (by omega)]
    exact ⟨0xA0, 0xBF, by rw [h₀], by omega, by omega⟩
  · rw [if_neg (by omega)]
    by_cases h₁ : v / 4096 = 13
    · rw [if_pos (by omega)]
      exact ⟨0x80, 0x9F, by rw [h₁], by omega, by omega⟩
    · rw [if_neg (by omega), if_pos (by omega)]
      have hb : v / 4096 % 0x10 + 0xE0 - 0xE0 = v / 4096 := by omega
      exact ⟨0x80, 0xBF, by rw [hb], by omega, by omega⟩

theorem front_three (h : 0x800 ≤ v) (h' : v < 0x10000) (hs : v < 0xD800 ∨ 0xDFFF < v) (r : Bytes) :
    front (UInt8.ofNat (v / 4096 % 0x10 + 0xE0))
        (UInt8.ofNat (v / 64 % 0x40 + 0x80) :: UInt8.ofNat (v % 0x40 + 0x80) :: r) =
      (some (Char.ofNat v), r) := by
  obtain ⟨low, high, hl, hlow, hhigh⟩ := lead_three h h' hs
  rw [front, toNat_byte _ (by omega), hl]
  simp only
  rw [followers_succ (by omega) hlow hhigh, followers_succ (by omega) (by omega) (by omega)]
  have hv : (v / 4096 * 64 + (v / 64 % 0x40 + 0x80) % 64) * 64 + (v % 0x40 + 0x80) % 64 = v := by
    omega
  rw [hv]
  rfl

theorem lead_four (h : 0x10000 ≤ v) (h' : v < 0x110000) :
    ∃ low high, lead? (v / 262144 % 0x08 + 0xF0) = some ⟨3, low, high, v / 262144⟩ ∧
      low ≤ v / 4096 % 0x40 + 0x80 ∧ v / 4096 % 0x40 + 0x80 ≤ high := by
  unfold lead?
  rw [if_neg (by omega), if_neg (by omega), if_neg (by omega), if_neg (by omega),
    if_neg (by omega), if_neg (by omega)]
  by_cases h₀ : v / 262144 = 0
  · rw [if_pos (by omega)]
    exact ⟨0x90, 0xBF, by rw [h₀], by omega, by omega⟩
  · rw [if_neg (by omega)]
    by_cases h₁ : v / 262144 = 4
    · rw [if_neg (by omega), if_pos (by omega)]
      exact ⟨0x80, 0x8F, by rw [h₁], by omega, by omega⟩
    · rw [if_pos (by omega)]
      have hb : v / 262144 % 0x08 + 0xF0 - 0xF0 = v / 262144 := by omega
      exact ⟨0x80, 0xBF, by rw [hb], by omega, by omega⟩

theorem front_four (h : 0x10000 ≤ v) (h' : v < 0x110000) (r : Bytes) :
    front (UInt8.ofNat (v / 262144 % 0x08 + 0xF0))
        (UInt8.ofNat (v / 4096 % 0x40 + 0x80) :: UInt8.ofNat (v / 64 % 0x40 + 0x80) ::
          UInt8.ofNat (v % 0x40 + 0x80) :: r) =
      (some (Char.ofNat v), r) := by
  obtain ⟨low, high, hl, hlow, hhigh⟩ := lead_four h h'
  rw [front, toNat_byte _ (by omega), hl]
  simp only
  rw [followers_succ (by omega) hlow hhigh, followers_succ (by omega) (by omega) (by omega),
    followers_succ (by omega) (by omega) (by omega)]
  have hv : ((v / 262144 * 64 + (v / 4096 % 0x40 + 0x80) % 64) * 64 +
    (v / 64 % 0x40 + 0x80) % 64) * 64 + (v % 0x40 + 0x80) % 64 = v := by omega
  rw [hv]
  rfl

theorem decodeEach_char (c : Char) (r : Bytes) :
    decodeEach (String.utf8EncodeChar c ++ r) = some c :: decodeEach r := by
  have hc : c.toNat < 0xD800 ∨ 0xDFFF < c.toNat ∧ c.toNat < 0x110000 := c.valid
  have hn : Char.ofNat c.toNat = c := Char.ofNat_toNat c
  unfold String.utf8EncodeChar
  generalize hv : c.val.toNat = v
  have hv' : c.toNat = v := hv
  rw [hv'] at hc hn
  simp only
  split_ifs with h₁ h₂ h₃
  · rw [List.singleton_append, decodeEach, front_one (by omega), hn]
  · rw [List.cons_append, List.singleton_append, decodeEach, front_two (by omega) (by omega), hn]
  · rw [List.cons_append, List.cons_append, List.singleton_append, decodeEach,
      front_three (by omega) (by omega) (by omega), hn]
  · rw [List.cons_append, List.cons_append, List.cons_append, List.singleton_append, decodeEach,
      front_four (by omega) (by omega), hn]

theorem decodeEach_encode (s : List Char) : decodeEach (encode s) = s.map some := by
  induction s with
  | nil => rw [encode, List.flatMap_nil, decodeEach, List.map_nil]
  | cons c s ih =>
    rw [encode, List.flatMap_cons, decodeEach_char, List.map_cons]
    exact congrArg _ ih

theorem decodeLossy_encode (s : List Char) : decodeLossy (encode s) = s := by
  rw [decodeLossy, decodeEach_encode, List.map_map]
  exact List.map_id s

theorem decode?_encode (s : List Char) : decode? (encode s) = some s := by
  rw [decode?, decodeEach_encode]
  induction s with
  | nil => rfl
  | cons c s ih => simp [List.mapM_cons, ih]

/-! How long a text is. -/

theorem length_encode (s : List Char) : (encode s).length = size s := by
  induction s with
  | nil => rfl
  | cons c s ih =>
    rw [size, ← ih, encode, List.flatMap_cons, List.length_append, String.length_utf8EncodeChar]
    rfl

theorem size_eq_sum (s : List Char) : size s = (s.map Char.utf8Size).sum := by
  induction s with
  | nil => rfl
  | cons c s ih => rw [size, ih, List.map_cons, List.sum_cons]

theorem size_append (s t : List Char) : size (s ++ t) = size s + size t := by
  rw [size_eq_sum, List.map_append, List.sum_append, ← size_eq_sum, ← size_eq_sum]

theorem utf8ByteSize_ofList (s : List Char) : (String.ofList s).utf8ByteSize = size s := by
  rw [← length_encode, ← String.size_toByteArray, String.toByteArray_ofList]
  simp [List.utf8Encode, encode]

/-- Below this number characters have at most so many bytes more than one. -/
def limit : Nat → Nat
  | 0 => 0x80
  | 1 => 0x800
  | 2 => 0x10000
  | _ => 0x1000000

theorem utf8Size_le {c : Char} {k : Nat} (h : c.toNat < limit k) : c.utf8Size ≤ k + 1 := by
  have hsize : c.utf8Size = if c.toNat ≤ 0x7F then 1 else if c.toNat ≤ 0x7FF then 2
      else if c.toNat ≤ 0xFFFF then 3 else 4 := by
    unfold Char.utf8Size
    simp only [UInt32.le_iff_toNat_le]
    rfl
  rw [hsize]
  match k, h with
  | 0, h | 1, h | 2, h =>
    simp only [limit] at h
    split_ifs <;> omega
  | k + 3, _ => split_ifs <;> omega

theorem toNat_ofNat_le (v : Nat) : (Char.ofNat v).toNat ≤ v := by
  by_cases h : v.isValidChar
  · rw [Char.ofNat, dif_pos h]
    exact Nat.le_refl _
  · rw [Char.ofNat, dif_neg h]
    exact Nat.zero_le _

theorem followers_eq_some {n low high bits : Nat} {r rest : Bytes}
    (h : followers n low high bits r = (some v, rest)) :
    r.length = rest.length + n ∧ v < (bits + 1) * 64 ^ n := by
  induction n generalizing low high bits r with
  | zero =>
    cases h
    exact ⟨rfl, by omega⟩
  | succ n ih =>
    cases r with
    | nil => cases h
    | cons b r =>
      rw [followers] at h
      split at h
      · obtain ⟨hlength, hv⟩ := ih h
        refine ⟨by rw [List.length_cons, hlength, Nat.add_assoc], Nat.lt_of_lt_of_le hv ?_⟩
        rw [Nat.pow_succ, Nat.mul_comm (64 ^ n), ← Nat.mul_assoc]
        exact Nat.mul_le_mul_right _ (by omega)
      · cases h

theorem lead?_room {b : Nat} {l : Lead} (h : lead? b = some l) :
    (l.bits + 1) * 64 ^ l.following ≤ limit l.following := by
  unfold lead? at h
  split_ifs at h <;> cases h <;> simp only [limit] <;> omega

/-- A character has no more bytes than it was read from. -/
theorem front_size {b : UInt8} {r rest : Bytes} {c : Char} (h : front b r = (some c, rest)) :
    c.utf8Size + rest.length ≤ 1 + r.length := by
  unfold front at h
  cases hl : lead? b.toNat with
  | none =>
    rw [hl] at h
    cases h
  | some l =>
    rw [hl] at h
    cases hf : followers l.following l.low l.high l.bits r with
    | mk v? r' =>
      simp only [hf] at h
      cases v? with
      | none => cases h
      | some v =>
        cases h
        obtain ⟨hlength, hv⟩ := followers_eq_some hf
        have hsize := utf8Size_le
          (Nat.lt_of_le_of_lt (toNat_ofNat_le v) (Nat.lt_of_lt_of_le hv (lead?_room hl)))
        omega

/-- A text has no more bytes than it was read from. -/
theorem size_le_of_decode? {b : Bytes} {s : List Char} (h : decode? b = some s) :
    size s ≤ b.length := by
  unfold decode? at h
  induction b using decodeEach.induct generalizing s with
  | case1 =>
    rw [decodeEach] at h
    cases h
    exact Nat.le_refl _
  | case2 b r ih =>
    rw [decodeEach, List.mapM_cons, Option.bind_eq_bind, Option.bind_eq_some_iff] at h
    obtain ⟨c, hc, h⟩ := h
    rw [Option.bind_eq_bind, Option.bind_eq_some_iff] at h
    obtain ⟨rest, hrest, h⟩ := h
    cases h
    have hfront := front_size (Prod.ext hc rfl : front b r = (some c, (front b r).2))
    have htail := ih hrest
    rw [size, List.length_cons]
    omega

end CloudEmulation.Utf8
