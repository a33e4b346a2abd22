import CloudEmulation.Proofs.Text.Utf8
import CloudEmulation.Text.Percent
/-!
Reading percent-coded bytes gives the bytes.
-/

namespace CloudEmulation.Percent

open Utf8 (Bytes)

theorem decodeBytes_cons {b : UInt8} (h : b ≠ 37) (r : Bytes) :
    decodeBytes (b :: r) = b :: decodeBytes r := by
  rw [decodeBytes]
  rintro hi lo rest rfl
  exact absurd rfl h

/-- The digits of a byte are written as one byte each and read back. -/
theorem hexDigit_spec : ∀ n, n < 16 →
    String.utf8EncodeChar (hexDigit n) = [UInt8.ofNat (hexDigit n).toNat] ∧
      hexValue? (UInt8.ofNat (hexDigit n).toNat).toNat = some n ∧ hexDigit n ≠ '+' := by
  decide

theorem decodeBytes_encodeByte (b : UInt8) (r : Bytes) :
    decodeBytes (Utf8.encode (encodeByte b) ++ r) = b :: decodeBytes r := by
  have hb : b.toNat < 256 := b.toNat_lt
  obtain ⟨hhi, vhi, -⟩ := hexDigit_spec (b.toNat / 16) (by omega)
  obtain ⟨hlo, vlo, -⟩ := hexDigit_spec (b.toNat % 16) (by omega)
  have hp : String.utf8EncodeChar '%' = [37] := by decide
  have he : Utf8.encode (encodeByte b) = [37, UInt8.ofNat (hexDigit (b.toNat / 16)).toNat,
      UInt8.ofNat (hexDigit (b.toNat % 16)).toNat] := by
    rw [Utf8.encode, encodeByte, List.flatMap_cons, List.flatMap_cons, List.flatMap_cons, hp, hhi,
      hlo]
    rfl
  rw [he]
  simp only [List.cons_append, List.nil_append, decodeBytes, vhi, vlo]
  have hv : 16 * (b.toNat / 16) + b.toNat % 16 = b.toNat := by omega
  rw [hv, UInt8.ofNat_toNat]

theorem decodeBytes_encodeBytes (bs r : Bytes) :
    decodeBytes (Utf8.encode (bs.flatMap encodeByte) ++ r) = bs ++ decodeBytes r := by
  induction bs with
  | nil => rfl
  | cons b bs ih =>
    have he : Utf8.encode ((b :: bs).flatMap encodeByte) =
        Utf8.encode (encodeByte b) ++ Utf8.encode (bs.flatMap encodeByte) := by
      rw [List.flatMap_cons, Utf8.encode, List.flatMap_append]
      rfl
    rw [he, List.append_assoc, decodeBytes_encodeByte, ih, List.cons_append]

theorem utf8EncodeChar_ascii {c : Char} (h : c.toNat < 128) :
    String.utf8EncodeChar c = [UInt8.ofNat c.toNat] := by
  unfold String.utf8EncodeChar
  have hv : c.val.toNat ≤ 0x7F := by
    have hc : c.toNat = c.val.toNat := rfl
    omega
  simp only [hv, if_true]
  rfl

theorem decodeBytes_kept {c : Char} (h : c.toNat < 128) (hc : c ≠ '%') (r : Bytes) :
    decodeBytes (String.utf8EncodeChar c ++ r) = String.utf8EncodeChar c ++ decodeBytes r := by
  rw [utf8EncodeChar_ascii h, List.singleton_append, List.singleton_append, decodeBytes_cons]
  intro he
  have hn := congrArg UInt8.toNat he
  rw [Utf8.toNat_byte _ (by omega)] at hn
  apply hc
  rw [← Char.ofNat_toNat c, hn]
  rfl

/-! Whole texts. -/

theorem decode_of_plain {s : List Char} (h : ∀ c ∈ s, c.toNat < 128 ∧ c ≠ '%') :
    decode s = Utf8.encode s := by
  have hr (r : Bytes) : decodeBytes (Utf8.encode s ++ r) = Utf8.encode s ++ decodeBytes r := by
    induction s with
    | nil => rfl
    | cons c s ih =>
      obtain ⟨hascii, hc⟩ := h c List.mem_cons_self
      have he : Utf8.encode (c :: s) = String.utf8EncodeChar c ++ Utf8.encode s := rfl
      rw [he, List.append_assoc, decodeBytes_kept hascii hc,
        ih fun d hd => h d (List.mem_cons_of_mem _ hd), List.append_assoc]
  have hs := hr []
  rwa [List.append_nil, decodeBytes, List.append_nil] at hs

theorem encode_cons (keep : Char → Bool) (c : Char) (cs : List Char) :
    encode keep (c :: cs) = encode keep [c] ++ encode keep cs := by
  rw [encode, encode, encode, List.flatMap_singleton, List.flatMap_cons]

theorem encode_kept {keep : Char → Bool} {cs : List Char}
    (h : ∀ c ∈ cs, c.toNat < 128 ∧ keep c = true) : encode keep cs = cs := by
  induction cs with
  | nil => rfl
  | cons c cs ih =>
    have hc : encode keep [c] = [c] := by
      rw [encode, List.flatMap_singleton, if_pos (h c List.mem_cons_self)]
    rw [encode_cons, hc, ih fun d hd => h d (List.mem_cons_of_mem _ hd), List.singleton_append]

theorem encode_cases (keep : Char → Bool) (c : Char) :
    (c.toNat < 128 ∧ keep c = true ∧ encode keep [c] = [c]) ∨
    encode keep [c] = (String.utf8EncodeChar c).flatMap encodeByte := by
  rw [encode, List.flatMap_singleton]
  by_cases hk : c.toNat < 128 ∧ keep c = true
  · rw [if_pos hk]
    exact .inl ⟨hk.1, hk.2, rfl⟩
  · rw [if_neg hk]
    exact .inr rfl

theorem eq_nil_of_encode {keep : Char → Bool} {cs : List Char} (h : encode keep cs = []) :
    cs = [] := by
  cases cs with
  | nil => rfl
  | cons c cs =>
    rw [encode_cons, List.append_eq_nil_iff] at h
    rcases encode_cases keep c with ⟨-, -, he⟩ | he
    · rw [he] at h
      cases h.1
    · rw [he, List.flatMap_eq_nil_iff] at h
      obtain ⟨b, bs, hb⟩ := List.exists_cons_of_ne_nil (String.utf8EncodeChar_ne_nil (c := c))
      have hbyte := h.1 b (hb ▸ List.mem_cons_self)
      cases hbyte

theorem head?_encode {keep : Char → Bool} {c d : Char} {cs : List Char}
    (h : (encode keep (c :: cs)).head? = some d) : d = c ∨ d = '%' := by
  rw [encode_cons] at h
  rcases encode_cases keep c with ⟨-, -, he⟩ | he
  · rw [he] at h
    exact .inl (Option.some.inj h).symm
  · obtain ⟨b, bs, hb⟩ := List.exists_cons_of_ne_nil (String.utf8EncodeChar_ne_nil (c := c))
    rw [he, hb] at h
    exact .inr (Option.some.inj h).symm

theorem decodeBytes_encode {keep : Char → Bool} (h : keep '%' = false) (cs : List Char)
    (r : Bytes) :
    decodeBytes (Utf8.encode (encode keep cs) ++ r) = Utf8.encode cs ++ decodeBytes r := by
  induction cs with
  | nil => rfl
  | cons c cs ih =>
    have hc (t : Bytes) : decodeBytes (Utf8.encode (encode keep [c]) ++ t) =
        String.utf8EncodeChar c ++ decodeBytes t := by
      rcases encode_cases keep c with ⟨hlow, hk, he⟩ | he
      · have hne : c ≠ '%' := by
          rintro rfl
          rw [h] at hk
          cases hk
        rw [he, Utf8.encode, List.flatMap_singleton]
        exact decodeBytes_kept hlow hne t
      · rw [he, decodeBytes_encodeBytes]
    have he : Utf8.encode (encode keep (c :: cs)) =
        Utf8.encode (encode keep [c]) ++ Utf8.encode (encode keep cs) := by
      rw [encode_cons, Utf8.encode, List.flatMap_append]
      rfl
    rw [he, List.append_assoc, hc, ih, ← List.append_assoc]
    rfl

/-- A coded byte is a percent sign and two digits. -/
theorem forall_mem_encodeByte {P : Char → Prop} (hp : P '%') (hd : ∀ n, n < 16 → P (hexDigit n))
    {b : UInt8} {c : Char} (h : c ∈ encodeByte b) : P c := by
  have hb : b.toNat < 256 := b.toNat_lt
  rw [encodeByte] at h
  simp only [List.mem_cons, List.not_mem_nil, or_false] at h
  rcases h with rfl | rfl | rfl
  · exact hp
  · exact hd _ (by omega)
  · exact hd _ (by omega)

/-- What is written are the kept characters, percent signs and digits. -/
theorem forall_mem_encode {P : Char → Prop} {keep : Char → Bool} {cs : List Char}
    (hkept : ∀ c ∈ cs, c.toNat < 128 → keep c = true → P c) (hp : P '%')
    (hd : ∀ n, n < 16 → P (hexDigit n)) : ∀ c ∈ encode keep cs, P c := by
  intro c h
  obtain ⟨d, hmem, hc⟩ := List.mem_flatMap.mp h
  split at hc
  · rename_i hk
    rw [List.mem_singleton.mp hc]
    exact hkept d hmem hk.1 hk.2
  · obtain ⟨b, -, hb⟩ := List.mem_flatMap.mp hc
    exact forall_mem_encodeByte hp hd hb

variable {α β : Type} {keep : Char → Bool} {c : Char}

/-! Digits at the beginning of a text or of its bytes. -/

section

variable (code : α → Nat)

def digit? : List α → Option (Nat × List α)
  | [] => none
  | a :: r => (hexValue? (code a)).map (·, r)

/-- The byte that two digits stand for, and what follows them. -/
def hexes? (s : List α) : Option (UInt8 × List α) :=
  (digit? code s).bind fun h =>
    (digit? code h.2).map fun l => (UInt8.ofNat (16 * h.1 + l.1), l.2)

end

/-- What writes every digit as one digit keeps the bytes that they stand for. -/
theorem hexes?_write {code : α → Nat} {code' : β → Nat} {write : List α → List β}
    (h : ∀ s, digit? code' (write s) = (digit? code s).map (Prod.map id write)) (s : List α) :
    hexes? code' (write s) = (hexes? code s).map (Prod.map id write) := by
  rw [hexes?, hexes?, h, Option.bind_map, Option.map_bind]
  congr 1
  funext p
  show (digit? code' (write p.2)).map _ = ((digit? code p.2).map _).map _
  rw [h, Option.map_map, Option.map_map]
  rfl

theorem ascii_of_hexValue? {n v : Nat} (h : hexValue? n = some v) : n < 128 := by
  unfold hexValue? at h
  split_ifs at h <;> omega

theorem hexValue?_large {n : Nat} (h : 128 ≤ n) : hexValue? n = none := by
  cases hv : hexValue? n with
  | none => rfl
  | some v => exact absurd (ascii_of_hexValue? hv) (by omega)

/-- Characters beyond ASCII consist of bytes beyond ASCII. -/
theorem large_of_mem {b : UInt8} (hc : 128 ≤ c.toNat) (hb : b ∈ String.utf8EncodeChar c) :
    128 ≤ b.toNat := by
  have hv : c.toNat = c.val.toNat := rfl
  unfold String.utf8EncodeChar at hb
  simp only at hb
  split_ifs at hb
  · omega
  all_goals
    simp only [List.mem_cons, List.not_mem_nil, or_false] at hb
    rcases hb with rfl | rfl | rfl | rfl <;> rw [Utf8.toNat_byte _ (by omega)] <;> omega

theorem digit?_bytes (s : List Char) :
    digit? UInt8.toNat (Utf8.encode s) = (digit? Char.toNat s).map (Prod.map id Utf8.encode) := by
  cases s with
  | nil => rfl
  | cons c s =>
    rw [Utf8.encode, List.flatMap_cons, digit?]
    by_cases hc : c.toNat < 128
    · rw [utf8EncodeChar_ascii hc, List.singleton_append, digit?, Utf8.toNat_byte _ (by omega),
        Option.map_map]
      rfl
    · obtain ⟨b, bs, hb⟩ := List.exists_cons_of_ne_nil (String.utf8EncodeChar_ne_nil (c := c))
      have hlarge : 128 ≤ b.toNat := large_of_mem (by omega) (hb ▸ List.mem_cons_self)
      rw [hb, List.cons_append, digit?, hexValue?_large hlarge, hexValue?_large (by omega)]
      rfl

/-! Reading character by character. -/

theorem decodeBytes_append {bs : Bytes} (h : ∀ b ∈ bs, b ≠ 37) (r : Bytes) :
    decodeBytes (bs ++ r) = bs ++ decodeBytes r := by
  induction bs with
  | nil => rfl
  | cons b bs ih =>
    rw [List.cons_append, decodeBytes_cons (h b List.mem_cons_self),
      ih fun b hb => h b (List.mem_cons_of_mem _ hb), List.cons_append]

theorem decode_cons (hc : c ≠ '%') (s : List Char) :
    decode (c :: s) = String.utf8EncodeChar c ++ decode s := by
  show decodeBytes (String.utf8EncodeChar c ++ Utf8.encode s) = _
  by_cases hascii : c.toNat < 128
  · exact decodeBytes_kept hascii hc _
  · refine decodeBytes_append (fun b hb he => ?_) _
    have hlarge := large_of_mem (by omega) hb
    rw [he] at hlarge
    exact absurd hlarge (by decide)

theorem decodeBytes_percent (bs : Bytes) : decodeBytes (37 :: bs) =
    match hexes? UInt8.toNat bs with
    | some (b, r) => b :: decodeBytes r
    | none => 37 :: decodeBytes bs := by
  match bs with
  | [] => rfl
  | [b] =>
    rw [decodeBytes, hexes?]
    · cases hb : hexValue? b.toNat <;> simp [digit?, hb]
    · intro h l r _ he
      cases he
  | h :: l :: r =>
    rw [decodeBytes, hexes?]
    cases hh : hexValue? h.toNat with
    | none => simp [digit?, hh]
    | some h' => cases hl : hexValue? l.toNat <;> simp [digit?, hh, hl]

theorem decode_percent (s : List Char) : decode ('%' :: s) =
    match hexes? Char.toNat s with
    | some (b, r) => b :: decode r
    | none => 37 :: decode s := by
  show decodeBytes (37 :: Utf8.encode s) = _
  rw [decodeBytes_percent, hexes?_write digit?_bytes]
  cases hexes? Char.toNat s <;> rfl

theorem length_of_hexes? {code : α → Nat} {s r : List α} {b : UInt8}
    (h : hexes? code s = some (b, r)) : r.length < s.length := by
  match s with
  | [] => cases h
  | [a] =>
    cases ha : hexValue? (code a) <;> simp [hexes?, digit?, ha] at h
  | a :: a' :: t =>
    cases ha : hexValue? (code a) with
    | none => simp [hexes?, digit?, ha] at h
    | some v =>
      cases ha' : hexValue? (code a') with
      | none => simp [hexes?, digit?, ha, ha'] at h
      | some v' =>
        simp only [hexes?, digit?, ha, ha', Option.map_some, Option.bind_some, Option.some.injEq,
          Prod.mk.injEq] at h
        rw [← h.2, List.length_cons, List.length_cons]
        omega

/-- Reading a byte takes one byte or three. -/
theorem decodeBytes_shorter (bs : Bytes) :
    decodeBytes bs = bs ∨ (decodeBytes bs).length < bs.length := by
  have hcons {b : UInt8} {r : Bytes} (h : decodeBytes r = r ∨ (decodeBytes r).length < r.length) :
      b :: decodeBytes r = b :: r ∨ (b :: decodeBytes r).length < (b :: r).length :=
    h.imp (congrArg (b :: ·)) Nat.succ_lt_succ
  induction bs using decodeBytes.induct with
  | case1 h l r h' l' hh hl ih =>
    rw [decodeBytes, hh, hl]
    simp only [List.length_cons]
    rcases ih with he | hlt
    · rw [he]
      omega
    · omega
  | case2 h l r hn ih =>
    rw [decodeBytes]
    · split
      · rename_i h' l' hh hl
        exact absurd hl (hn h' l' hh)
      · exact hcons ih
  | case3 b r hn ih =>
    rw [decodeBytes]
    · exact hcons ih
    · exact hn
  | case4 => exact .inl rfl

/-! Texts whose percent signs and digits are kept. -/

theorem encode_cons_kept (hc : c.toNat < 128) (hk : keep c = true) (s : List Char) :
    encode keep (c :: s) = c :: encode keep s := by
  rw [encode_cons, encode_kept fun d hd => List.mem_singleton.mp hd ▸ ⟨hc, hk⟩,
    List.singleton_append]

theorem digit?_encode (hd : ∀ c v, hexValue? c.toNat = some v → keep c = true) (s : List Char) :
    digit? Char.toNat (encode keep s) =
      (digit? Char.toNat s).map (Prod.map id (encode keep)) := by
  cases s with
  | nil => rfl
  | cons c s =>
    rw [digit?]
    cases hv : hexValue? c.toNat with
    | some v =>
      rw [encode_cons_kept (ascii_of_hexValue? hv) (hd c v hv), digit?, hv]
      rfl
    | none =>
      cases he : encode keep (c :: s) with
      | nil => rfl
      | cons d t =>
        have hnone : hexValue? d.toNat = none := by
          rcases head?_encode (he ▸ rfl : (encode keep (c :: s)).head? = some d) with rfl | rfl
          · exact hv
          · rfl
        rw [digit?, hnone]
        rfl

theorem decode_encode_kept (hp : keep '%' = true)
    (hd : ∀ c v, hexValue? c.toNat = some v → keep c = true) (s : List Char) :
    decode (encode keep s) = decode s := by
  induction hn : s.length using Nat.strongRecOn generalizing s with
  | _ n ih =>
    subst hn
    cases s with
    | nil => rfl
    | cons c t =>
      have ht := ih t.length (Nat.lt_succ_self _) t rfl
      by_cases hc : c = '%'
      · subst hc
        rw [encode_cons_kept (by decide) hp, decode_percent, decode_percent,
          hexes?_write (digit?_encode hd)]
        cases hs : hexes? Char.toNat t with
        | none => exact congrArg (37 :: ·) ht
        | some p =>
          have hr := ih p.2.length (Nat.lt_succ_of_lt (length_of_hexes? hs)) p.2 rfl
          exact congrArg (p.1 :: ·) hr
      · rw [encode_cons, decode_cons hc]
        rcases encode_cases keep c with ⟨-, -, he⟩ | he
        · rw [he, List.singleton_append, decode_cons hc, ht]
        · rw [he, decode, Utf8.encode, List.flatMap_append]
          show decodeBytes (Utf8.encode _ ++ Utf8.encode (encode keep t)) = _
          rw [decodeBytes_encodeBytes]
          exact congrArg _ ht

end CloudEmulation.Percent
