import CloudEmulation.Proofs.Text.Parts
import CloudEmulation.Proofs.Text.Percent
import CloudEmulation.Url.Query
/-!
The pairs of a query that was written from pairs are those pairs.
-/

namespace CloudEmulation.Url.Query

open Utf8 (Bytes)

theorem keeps_spec {c : Char} (h : keeps c = true) :
    c ≠ '%' ∧ c ≠ '+' ∧ c ≠ '&' ∧ c ≠ '=' := by
  refine ⟨?_, ?_, ?_, ?_⟩ <;>
    · rintro rfl
      exact absurd h (by decide)

theorem mem_encodeByte {b : UInt8} {c : Char} (h : c ∈ Percent.encodeByte b) :
    c ≠ '+' ∧ c ≠ '&' ∧ c ≠ '=' :=
  Percent.forall_mem_encodeByte (P := fun c => c ≠ '+' ∧ c ≠ '&' ∧ c ≠ '=') (by decide)
    (by decide) h

theorem encodeChar_cases (c : Char) :
    (c = ' ' ∧ encodeChar c = ['+']) ∨
    (c.toNat < 128 ∧ keeps c = true ∧ encodeChar c = [c]) ∨
    encodeChar c = (String.utf8EncodeChar c).flatMap Percent.encodeByte := by
  unfold encodeChar
  by_cases hb : c = ' '
  · exact .inl ⟨hb, if_pos hb⟩
  · rw [if_neg hb]
    exact .inr (Percent.encode_cases keeps c)

/-- A text is written with kept characters, plus signs, percent signs and digits. -/
theorem forall_mem_encodeText {P : Char → Prop}
    (hkept : ∀ c, c.toNat < 128 → keeps c = true → P c) (hplus : P '+') (hpercent : P '%')
    (hdigit : ∀ n, n < 16 → P (Percent.hexDigit n)) (s : String) : ∀ c ∈ encodeText s, P c := by
  intro c h
  obtain ⟨d, -, hc⟩ := List.mem_flatMap.mp h
  rcases encodeChar_cases d with ⟨-, he⟩ | ⟨hascii, hk, he⟩ | he
  · rw [he, List.mem_singleton] at hc
    exact hc ▸ hplus
  · rw [he, List.mem_singleton] at hc
    exact hc ▸ hkept d hascii hk
  · rw [he] at hc
    obtain ⟨b, -, hb⟩ := List.mem_flatMap.mp hc
    exact Percent.forall_mem_encodeByte hpercent hdigit hb

theorem mem_encodeText {s : String} {c : Char} (h : c ∈ encodeText s) : c ≠ '&' ∧ c ≠ '=' :=
  forall_mem_encodeText (P := fun c => c ≠ '&' ∧ c ≠ '=') (fun _ _ hk => (keeps_spec hk).2.2)
    (by decide) (by decide) (by decide) s c h

theorem decodeBytes_encodeChar (c : Char) (r : Bytes) :
    Percent.decodeBytes (Utf8.encode ((encodeChar c).map plusToBlank) ++ r) =
      String.utf8EncodeChar c ++ Percent.decodeBytes r := by
  rcases encodeChar_cases c with ⟨rfl, he⟩ | ⟨hc, hk, he⟩ | he
  · have hb : (' ' : Char).toNat < 128 ∧ (' ' : Char) ≠ '%' := by decide
    rw [he]
    exact Percent.decodeBytes_kept hb.1 hb.2 r
  · obtain ⟨hpercent, hplus, -⟩ := keeps_spec hk
    rw [he, List.map_singleton, plusToBlank, if_neg hplus, Utf8.encode, List.flatMap_singleton]
    exact Percent.decodeBytes_kept hc hpercent r
  · have hm : (encodeChar c).map plusToBlank = encodeChar c := by
      rw [he]
      refine (List.map_congr_left ?_).trans (List.map_id _)
      intro d hd
      obtain ⟨b, -, hb⟩ := List.mem_flatMap.mp hd
      exact if_neg (mem_encodeByte hb).1
    rw [hm, he, Percent.decodeBytes_encodeBytes]

theorem decodeBytes_encodeText (cs : List Char) (r : Bytes) :
    Percent.decodeBytes (Utf8.encode ((cs.flatMap encodeChar).map plusToBlank) ++ r) =
      Utf8.encode cs ++ Percent.decodeBytes r := by
  induction cs with
  | nil => rfl
  | cons c cs ih =>
    have he : Utf8.encode (((c :: cs).flatMap encodeChar).map plusToBlank) =
        Utf8.encode ((encodeChar c).map plusToBlank) ++
          Utf8.encode ((cs.flatMap encodeChar).map plusToBlank) := by
      rw [List.flatMap_cons, List.map_append, Utf8.encode, List.flatMap_append]
      rfl
    rw [he, List.append_assoc, decodeBytes_encodeChar, ih, ← List.append_assoc]
    rfl

theorem decodeText_encodeText (s : String) : decodeText (encodeText s) = s := by
  have hd := decodeBytes_encodeText s.toList []
  rw [List.append_nil, Percent.decodeBytes, List.append_nil] at hd
  rw [decodeText, Percent.decode, encodeText, hd, Utf8.decodeLossy_encode, String.ofList_toList]

theorem decodePair_encodePair (p : String × String) : decodePair (encodePair p).toList = p := by
  have hn : ∀ c ∈ encodeText p.1, decide (c ≠ '=') = true :=
    fun c hc => decide_eq_true (mem_encodeText hc).2
  have hcut : cutPair (encodePair p).toList = (encodeText p.1, encodeText p.2) := by
    rw [encodePair, String.toList_ofList, cutPair, List.takeWhile_append_of_pos hn,
      List.dropWhile_append_of_pos hn]
    simp
  rw [decodePair, hcut]
  simp only [decodeText_encodeText]

theorem mem_encodePair {p : String × String} {c : Char} (h : c ∈ (encodePair p).toList) :
    c ≠ '&' := by
  rw [encodePair, String.toList_ofList] at h
  rcases List.mem_append.mp h with h | h
  · exact (mem_encodeText h).1
  · rcases List.mem_cons.mp h with rfl | h
    · decide
    · exact (mem_encodeText h).1

theorem encodePair_ne_nil (p : String × String) : (encodePair p).toList ≠ [] := by
  rw [encodePair, String.toList_ofList]
  simp

/-- Between the texts of a query stand equals signs and ampersands. -/
theorem forall_mem_encode {P : Char → Prop}
    (hkept : ∀ c, c.toNat < 128 → keeps c = true → P c) (hmarks : ∀ c ∈ "%+=&".toList, P c)
    (hdigit : ∀ n, n < 16 → P (Percent.hexDigit n)) (pairs : Pairs) :
    ∀ c ∈ (encode pairs).toList, P c := by
  have htext := forall_mem_encodeText hkept (hmarks '+' (by decide)) (hmarks '%' (by decide)) hdigit
  intro c hc
  rw [encode, String.toList_intercalate] at hc
  rcases Text.mem_intercalate hc with rfl | ⟨l, hl, hc⟩
  · exact hmarks '&' (by decide)
  · obtain ⟨part, hpart, rfl⟩ := List.mem_map.mp hl
    obtain ⟨p, -, rfl⟩ := List.mem_map.mp hpart
    rw [encodePair, String.toList_ofList] at hc
    rcases List.mem_append.mp hc with hc | hc
    · exact htext p.1 c hc
    · rcases List.mem_cons.mp hc with rfl | hc
      · exact hmarks '=' (by decide)
      · exact htext p.2 c hc

theorem decode_encode (pairs : Pairs) : decode (encode pairs) = pairs := by
  have hsep : "&".toList = ['&'] := rfl
  cases pairs with
  | nil => rfl
  | cons p pairs =>
    have hparts : ∀ l ∈ ((p :: pairs).map encodePair).map String.toList, '&' ∉ l := by
      intro l hl hc
      obtain ⟨part, hpart, rfl⟩ := List.mem_map.mp hl
      obtain ⟨q, -, rfl⟩ := List.mem_map.mp hpart
      exact mem_encodePair hc rfl
    have hkeep : (((p :: pairs).map encodePair).map String.toList).filter (· ≠ []) =
        ((p :: pairs).map encodePair).map String.toList := by
      refine List.filter_eq_self.mpr ?_
      intro l hl
      obtain ⟨part, hpart, rfl⟩ := List.mem_map.mp hl
      obtain ⟨q, -, rfl⟩ := List.mem_map.mp hpart
      exact decide_eq_true (encodePair_ne_nil q)
    rw [decode, encode, String.toList_intercalate, hsep,
      Text.splitOnP_intercalate hparts (by simp), hkeep, List.map_map, List.map_map]
    refine (List.map_congr_left ?_).trans (List.map_id _)
    intro q hq
    exact decodePair_encodePair q

end CloudEmulation.Url.Query
