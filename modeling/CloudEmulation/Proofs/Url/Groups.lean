import CloudEmulation.Proofs.Url.Numbers
import Mathlib.Data.List.TakeWhile
/-!
IPv6 addresses: the text of eight groups is read as the groups, also where a run of zeros is left
out.
-/

namespace CloudEmulation.Url.Host

variable {g : Nat} {gs left right : List Nat} {c : Char} {s rest done : List Char} {t : String}

/-- Eight groups of 16 bits. -/
structure Grouped (gs : List Nat) : Prop where
  length : gs.length = 8
  bound : ∀ g ∈ gs, g < 0x10000

/-! Groups and the colons between them. -/

def isHexDigit (c : Char) : Bool := (hexDigit? c).isSome

theorem isHexDigit_of_mem {n : Nat} (h : c ∈ Nat.toDigits 16 n) : isHexDigit c = true := by
  induction n using Nat.strongRecOn with
  | _ n ih =>
    by_cases hn : n < 16
    · rw [Nat.toDigits_of_lt_base hn, List.mem_singleton] at h
      rw [h, isHexDigit, hexDigit?_digitChar hn]
      rfl
    · rw [Nat.toDigits_of_base_le (by decide) (by omega), List.mem_append,
        List.mem_singleton] at h
      rcases h with h | h
      · exact ih (n / 16) (Nat.div_lt_self (by omega) (by decide)) h
      · rw [h, isHexDigit, hexDigit?_digitChar (Nat.mod_lt n (by decide))]
        rfl

/-- The text of some groups. -/
def joined (gs : List Nat) : List Char := [':'].intercalate (gs.map (Nat.toDigits 16))

theorem toList_join (gs : List Nat) : (":".intercalate (gs.map hexText)).toList = joined gs := by
  have hdigits : (gs.map hexText).map String.toList = gs.map (Nat.toDigits 16) := by
    rw [List.map_map]
    refine List.map_congr_left fun n _ => ?_
    rw [Function.comp_apply, hexText, String.toList_ofList]
  rw [String.toList_intercalate, hdigits]
  rfl

theorem mem_joined (h : c ∈ joined gs) : c = ':' ∨ isHexDigit c = true := by
  refine (Text.mem_intercalate h).imp_right ?_
  rintro ⟨l, hl, hc⟩
  obtain ⟨n, -, rfl⟩ := List.mem_map.mp hl
  exact isHexDigit_of_mem hc

theorem colon_notMem {n : Nat} : ':' ∉ Nat.toDigits 16 n := by
  intro h
  exact absurd (isHexDigit_of_mem h) (by decide)

theorem dot_notMem_joined : '.' ∉ joined gs := by
  intro h
  rcases mem_joined h with h | h
  · cases h
  · exact absurd h (by decide)

theorem joined_cons_cons (g h : Nat) (gs : List Nat) :
    joined (g :: h :: gs) = Nat.toDigits 16 g ++ ':' :: joined (h :: gs) := by
  rw [joined, List.map_cons, List.map_cons, List.intercalate_cons_cons, List.append_assoc]
  rfl

theorem head_joined (g : Nat) (gs : List Nat) : ∃ c r, joined (g :: gs) = c :: r ∧ c ≠ ':' := by
  obtain ⟨c, r, hc⟩ := List.exists_cons_of_ne_nil (Nat.toDigits_ne_nil (n := g) (b := 16))
  have hcolon : c ≠ ':' := by
    rintro rfl
    exact colon_notMem (hc ▸ List.mem_cons_self)
  cases gs with
  | nil => exact ⟨c, r, hc ▸ List.intercalate_singleton, hcolon⟩
  | cons h gs => exact ⟨c, r ++ ':' :: joined (h :: gs), by rw [joined_cons_cons, hc]; rfl, hcolon⟩

/-- Where groups are separated by single colons, there is no place to cut. -/
theorem cutDouble_run (h : ':' ∉ s) :
    cutDouble done (s ++ rest) = cutDouble (s.reverse ++ done) rest := by
  induction s generalizing done with
  | nil => rfl
  | cons c s ih =>
    have hc : c ≠ ':' := fun he => h (he ▸ List.mem_cons_self)
    rw [List.cons_append, cutDouble, ih fun hm => h (List.mem_cons_of_mem _ hm),
      List.reverse_cons, List.append_assoc]
    · rfl
    · exact fun _ he _ => hc he

theorem cutDouble_colon (hc : c ≠ ':') :
    cutDouble done (':' :: c :: rest) = cutDouble (':' :: done) (c :: rest) := by
  rw [cutDouble]
  rintro r - he
  cases he
  exact hc rfl

theorem cutDouble_joined (gs : List Nat) (done rest : List Char) :
    cutDouble done (joined gs ++ rest) = cutDouble ((joined gs).reverse ++ done) rest := by
  induction gs generalizing done with
  | nil => rfl
  | cons g gs ih =>
    cases gs with
    | nil =>
      rw [joined, List.map_singleton, List.intercalate_singleton]
      exact cutDouble_run colon_notMem
    | cons h gs =>
      obtain ⟨c, r, hhead, hc⟩ := head_joined h gs
      have hrec := ih (':' :: ((Nat.toDigits 16 g).reverse ++ done))
      rw [joined_cons_cons, List.append_assoc, cutDouble_run colon_notMem, List.cons_append]
      rw [hhead, List.cons_append] at hrec ⊢
      rw [cutDouble_colon hc, hrec, List.reverse_append, List.append_assoc, List.reverse_cons,
        List.append_assoc]
      simp

theorem group?_toDigits (h : g < 0x10000) : group? (Nat.toDigits 16 g) = some [g] := by
  have hlength : (Nat.toDigits 16 g).length ≤ 4 :=
    (Nat.length_toDigits_le_iff (by decide) (by decide)).mpr h
  rw [group?, if_pos ⟨Nat.toDigits_ne_nil, hlength⟩,
    ofDigits?_toDigits (by decide) (by decide), Option.map_some]

theorem groups?_joined (h : ∀ g ∈ gs, g < 0x10000) : groups? (joined gs) = some gs := by
  rcases List.eq_nil_or_concat' gs with rfl | ⟨front, g, rfl⟩
  · rfl
  · have hne : joined (front ++ [g]) ≠ [] := by
      obtain ⟨h, more, he⟩ := List.exists_cons_of_ne_nil
        (List.append_ne_nil_of_right_ne_nil front (List.cons_ne_nil g []))
      obtain ⟨c, r, hc, -⟩ := head_joined h more
      rw [he, hc]
      exact List.cons_ne_nil c r
    have hsplit : (joined (front ++ [g])).splitOnP (· = ':') =
        (front ++ [g]).map (Nat.toDigits 16) := by
      refine Text.splitOnP_intercalate ?_ (by simp)
      intro l hl hcolon
      obtain ⟨n, -, rfl⟩ := List.mem_map.mp hl
      exact colon_notMem hcolon
    have hfront : (front.map (Nat.toDigits 16)).mapM group? = some (front.map ([·])) := by
      rw [Text.mapM_eq_some, List.map_map, List.map_map]
      exact List.map_congr_left fun n hn => group?_toDigits (h n (List.mem_append_left _ hn))
    have hdot : '.' ∉ Nat.toDigits 16 g := fun hm => absurd (isHexDigit_of_mem hm) (by decide)
    have hlast := group?_toDigits (h g (List.mem_append_right _ (List.mem_singleton_self g)))
    rw [groups?, if_neg hne]
    simp [hsplit, hfront, hdot, hlast, ← List.flatMap_def]

/-! The run of zeros that is left out. -/

theorem foldl_longer (runs : List (Nat × Nat)) (best : Nat × Nat) :
    runs.foldl (fun best run => if best.2 < run.2 then run else best) best = best ∨
      runs.foldl (fun best run => if best.2 < run.2 then run else best) best ∈ runs := by
  induction runs generalizing best with
  | nil => exact .inl rfl
  | cons run runs ih =>
    rw [List.foldl_cons]
    split
    · rcases ih run with he | hm
      · exact .inr (he.symm ▸ List.mem_cons_self)
      · exact .inr (List.mem_cons_of_mem _ hm)
    · exact (ih best).imp_right (List.mem_cons_of_mem _)

/-- What is left out are zeros. -/
theorem longestZeros_spec (gs : List Nat) : ∃ left n right,
    gs = left ++ (List.replicate n 0 ++ right) ∧ longestZeros gs = (left.length, n) := by
  have hspec : longestZeros gs = (0, 0) ∨ longestZeros gs ∈ _ := foldl_longer _ _
  rcases hspec with hspec | hspec
  · exact ⟨[], 0, gs, rfl, hspec⟩
  · obtain ⟨i, hi, he⟩ := List.mem_map.mp hspec
    rw [List.mem_range] at hi
    have hzeros : (gs.drop i).takeWhile (· = 0) =
        List.replicate ((gs.drop i).takeWhile (· = 0)).length 0 :=
      List.eq_replicate_of_mem fun z hz => by simpa using List.mem_takeWhile_imp hz
    refine ⟨gs.take i, ((gs.drop i).takeWhile (· = 0)).length, (gs.drop i).dropWhile (· = 0), ?_,
      he.symm.trans ?_⟩
    · rw [← hzeros, List.takeWhile_append_dropWhile, List.take_append_drop]
    · rw [List.length_take, Nat.min_eq_left (by omega)]

theorem toList_ipv6Text (gs : List Nat) :
    (ipv6Text gs).toList = joined gs ∨
      ∃ left n right, gs = left ++ (List.replicate n 0 ++ right) ∧ 2 ≤ n ∧
        (ipv6Text gs).toList = joined left ++ ':' :: ':' :: joined right := by
  obtain ⟨left, n, right, rfl, hzeros⟩ := longestZeros_spec gs
  rw [ipv6Text, hzeros]
  by_cases hn : n < 2
  · simp only [if_pos hn]
    exact .inl (toList_join _)
  · have hdrop : (left ++ (List.replicate n 0 ++ right)).drop (left.length + n) = right := by
      rw [← List.append_assoc]
      exact List.drop_left' (by simp)
    simp only [if_neg hn, List.take_left, hdrop, String.toList_append, toList_join]
    refine .inr ⟨left, n, right, rfl, by omega, ?_⟩
    rw [List.append_assoc]
    rfl

theorem ipv6Groups?_ipv6Text (h : Grouped gs) : ipv6Groups? (ipv6Text gs).toList = some gs := by
  rcases toList_ipv6Text gs with ht | ⟨left, n, right, rfl, hn, ht⟩
  · have hcut := cutDouble_joined gs [] []
    rw [List.append_nil] at hcut
    simp [ht, ipv6Groups?, hcut, cutDouble, groups?_joined h.bound, h.length]
  · have hcut := cutDouble_joined left [] (':' :: ':' :: joined right)
    rw [cutDouble, List.append_nil, List.reverse_reverse] at hcut
    have hl := groups?_joined fun g hg => h.bound g (List.mem_append_left _ hg)
    have hr := groups?_joined fun g hg =>
      h.bound g (List.mem_append_right _ (List.mem_append_right _ hg))
    have hlength := h.length
    rw [List.length_append, List.length_append, List.length_replicate] at hlength
    have hroom : 8 - left.length - right.length = n := by omega
    have hfew : ¬7 < left.length + right.length := by omega
    simp [ht, ipv6Groups?, hcut, hl, hr, hroom, hfew, dot_notMem_joined]

theorem mem_ipv6Text (h : c ∈ (ipv6Text gs).toList) : c = ':' ∨ isHexDigit c = true := by
  rcases toList_ipv6Text gs with ht | ⟨left, n, right, -, -, ht⟩
  · rw [ht] at h
    exact mem_joined h
  · rw [ht, List.mem_append, List.mem_cons, List.mem_cons] at h
    rcases h with h | h | h | h
    · exact mem_joined h
    · exact .inl h
    · exact .inl h
    · exact mem_joined h

/-! What is read are groups. -/

theorem lt_of_group? (h : group? s = some gs) : ∀ g ∈ gs, g < 0x10000 := by
  unfold group? at h
  split at h
  · rename_i hs
    obtain ⟨n, hn, rfl⟩ := Option.map_eq_some_iff.mp h
    intro g hg
    rw [List.mem_singleton.mp hg]
    exact Nat.lt_of_lt_of_le (lt_of_ofDigits? hn) (Nat.pow_le_pow_right (by decide) hs.2)
  · cases h

theorem lt_of_byte? {n : Nat} (h : byte? s = some n) : n < 256 := by
  unfold byte? at h
  split at h
  · exact of_decide_eq_true (Option.filter_eq_some_iff.mp h).2
  · cases h

theorem lt_of_embedded? (h : embedded? s = some gs) : ∀ g ∈ gs, g < 0x10000 := by
  unfold embedded? at h
  split at h
  · rename_i a b c d hm
    cases h
    have hbyte : ∀ n ∈ [a, b, c, d], n < 256 := by
      intro n hn
      obtain ⟨part, -, hpart⟩ := Text.exists_of_mapM hm hn
      exact lt_of_byte? hpart
    have ha := hbyte a (by simp)
    have hb := hbyte b (by simp)
    have hc := hbyte c (by simp)
    have hd := hbyte d (by simp)
    intro g hg
    simp only [List.mem_cons, List.not_mem_nil, or_false] at hg
    omega
  · cases h

theorem lt_of_groups? (h : groups? s = some gs) : ∀ g ∈ gs, g < 0x10000 := by
  unfold groups? at h
  split at h
  · cases h
    exact fun g hg => nomatch hg
  · simp only [Option.bind_eq_some_iff, Option.map_eq_some_iff] at h
    obtain ⟨heads, hheads, last, hlast, rfl⟩ := h
    intro g hg
    rcases List.mem_append.mp hg with hg | hg
    · obtain ⟨l, hl, hg⟩ := List.mem_flatten.mp hg
      obtain ⟨part, -, hpart⟩ := Text.exists_of_mapM hheads hl
      exact lt_of_group? hpart g hg
    · split at hlast
      · exact lt_of_embedded? hlast g hg
      · exact lt_of_group? hlast g hg

theorem grouped_of_ipv6Groups? (h : ipv6Groups? s = some gs) : Grouped gs := by
  unfold ipv6Groups? at h
  split at h
  · obtain ⟨hg, hlength⟩ := Option.filter_eq_some_iff.mp h
    exact ⟨of_decide_eq_true hlength, lt_of_groups? hg⟩
  · simp only [Option.bind_eq_bind, Option.bind_eq_some_iff] at h
    obtain ⟨l, hl, r, hr, h⟩ := h
    split at h
    · cases h
    · rename_i hfew
      cases h
      refine ⟨?_, ?_⟩
      · simp only [List.length_append, List.length_replicate]
        omega
      · intro g hg
        simp only [List.mem_append, List.mem_replicate] at hg
        rcases hg with (hg | ⟨-, rfl⟩) | hg
        · exact lt_of_groups? hl g hg
        · decide
        · exact lt_of_groups? hr g hg

/-- What is read as an address is the text of eight groups. -/
theorem of_ipv6 (h : ipv6 s = .ok t) : ∃ gs, Grouped gs ∧ t = "[" ++ ipv6Text gs ++ "]" := by
  unfold ipv6 at h
  split at h
  · rename_i gs hgs
    cases h
    exact ⟨gs, grouped_of_ipv6Groups? hgs, rfl⟩
  · cases h

end CloudEmulation.Url.Host
