import CloudEmulation.Proofs.Text.Percent
import CloudEmulation.Proofs.Url.Domains
import CloudEmulation.Proofs.Url.Groups
import CloudEmulation.Url.Reader
/-!
Hosts are read as they are written.
-/

namespace CloudEmulation.Url

open Domain (labels? plainForm)

variable {c : Char} {s name : List Char} {ls : List (List Char)} {t : String} {n : Nat}

/-- Characters of hosts, apart from brackets and what stands in them. -/
def isHostChar (c : Char) : Bool :=
  c.toNat < 128 && !Read.isEdge c && !Read.endsAuthority .special c && !"@:[]|".toList.contains c

/-- Hosts that stand apart from what surrounds them: names, and addresses in brackets. -/
def Framed (t : String) : Prop :=
  (∀ c ∈ t.toList, isHostChar c = true) ∨
    ∃ body, t.toList = '[' :: (body ++ [']']) ∧ ∀ c ∈ body, c = ':' ∨ Host.isHexDigit c = true

namespace Host

/-! Names. -/

/-- A character of a name that no reading changes. -/
structure Fixed (c : Char) : Prop where
  ascii : c.toNat < 128
  plain : plainForm c = [c]
  permitted : isForbidden c = false

theorem Fixed.spec (h : Fixed c) : c ≠ '%' ∧ isHostChar c = true :=
  Text.of_ascii h.ascii (by decide +kernel) h.permitted

theorem fixed_of_isDigitChar (h : Punycode.isDigitChar c = true) : Fixed c := by
  have hascii := Punycode.ascii_of_isDigitChar h
  have hpermitted : isForbidden c = false := Text.of_ascii hascii (by decide +kernel) h
  exact ⟨hascii, Domain.plainForm_of_isDigitChar h, hpermitted⟩

theorem fixed_dot : Fixed '.' := ⟨by decide, rfl, by decide⟩

theorem fixed_hyphen : Fixed '-' := ⟨by decide, rfl, by decide⟩

theorem domain_of_fixed (h : ∀ c ∈ name, Fixed c) (hls : labels? name = some ls)
    (hname : ['.'].intercalate ls = name) (hne : name ≠ []) :
    domain name = if endsInNumber name then ipv4 name else .ok (String.ofList name) := by
  have hdecode : Utf8.decode? (Percent.decode name) = some name := by
    rw [Percent.decode_of_plain fun c hc => ⟨(h c hc).ascii, (h c hc).spec.1⟩,
      Utf8.decode?_encode]
  have hplain : name.flatMap plainForm = name :=
    Domain.flatMap_plainForm_of_forall fun c hc => (h c hc).plain
  have hpermitted : name.any isForbidden = false := by
    rw [List.any_eq_false]
    exact fun c hc => Bool.eq_false_iff.mp (h c hc).permitted
  unfold domain
  simp only [hdecode, hplain, hls, hname, hpermitted, hne, Bool.false_eq_true, if_false]

/-- A name that is read is the name of some labels, or numbers and read as an address. -/
theorem of_domain (h : domain s = .ok t) : ∃ ls, (∀ c ∈ ['.'].intercalate ls, Fixed c) ∧
    labels? (['.'].intercalate ls) = some ls ∧ ['.'].intercalate ls ≠ [] ∧
      (if endsInNumber (['.'].intercalate ls) then ipv4 (['.'].intercalate ls)
        else .ok (String.ofList (['.'].intercalate ls))) = .ok t := by
  unfold domain at h
  split at h
  · cases h
  · rename_i decoded hdecoded
    simp only at h
    split at h
    · cases h
    · rename_i ls hls
      have hplain : ∀ c ∈ decoded.flatMap plainForm, plainForm c = [c] := by
        intro c hc
        obtain ⟨d, -, hd⟩ := List.mem_flatMap.mp hc
        exact Domain.plainForm_of_mem hd
      split at h
      · cases h
      · rename_i hpermitted
        split at h
        · cases h
        · rename_i hne
          refine ⟨ls, fun c hc => ?_, Domain.labels?_self hls hplain, hne, h⟩
          obtain ⟨hascii, hc | rfl | rfl | hc⟩ := Domain.mem_name hls hc
          · refine ⟨hascii, hplain c hc, ?_⟩
            rw [Bool.eq_false_iff]
            exact fun hf => hpermitted (List.any_eq_true.mpr ⟨c, hc, hf⟩)
          · exact fixed_dot
          · exact fixed_hyphen
          · exact fixed_of_isDigitChar hc

theorem isDigitChar_of_isDigit (h : Numeral.isDigit c = true) :
    Punycode.isDigitChar c = true := by
  have hc := Numeral.toNat_of_isDigit h
  have hascii : c.toNat < 128 := by omega
  exact Text.of_ascii hascii (by decide +kernel) h

theorem label?_toDigits (n : Nat) :
    Domain.label? (Nat.toDigits 10 n) = some (Nat.toDigits 10 n) := by
  have hdigit : ∀ c ∈ Nat.toDigits 10 n, Numeral.isDigit c = true :=
    fun c hc => Numeral.isDigit_of_mem hc
  have hprefix : Domain.encoded.isPrefixOf (Nat.toDigits 10 n) = false := by
    rw [Bool.eq_false_iff, ne_eq, List.isPrefixOf_iff_prefix]
    intro hp
    exact absurd (hdigit 'x' (hp.subset (by decide))) (by decide)
  have hascii : Domain.isAscii (Nat.toDigits 10 n) = true := by
    refine List.all_eq_true.mpr fun c hc => decide_eq_true ?_
    have hc := Numeral.toNat_of_isDigit (hdigit c hc)
    omega
  rw [Domain.label?, hprefix, hascii]
  rfl

theorem domain_ipv4Text (h : n < 0x100000000) :
    domain (ipv4Text n).toList = .ok (ipv4Text n) ∧ ∀ c ∈ (ipv4Text n).toList, Fixed c := by
  have hfixed : ∀ c ∈ (ipv4Text n).toList, Fixed c := by
    intro c hc
    rcases mem_ipv4Text hc with rfl | hc
    · exact fixed_dot
    · exact fixed_of_isDigitChar (isDigitChar_of_isDigit hc)
  have hls : labels? (ipv4Text n).toList = some ((quads n).map (Nat.toDigits 10)) := by
    rw [labels?, splitOnP_ipv4Text, Text.mapM_eq_some]
    refine List.map_congr_left fun l hl => ?_
    obtain ⟨m, -, rfl⟩ := List.mem_map.mp hl
    exact label?_toDigits m
  refine ⟨?_, hfixed⟩
  rw [domain_of_fixed hfixed hls (toList_ipv4Text n).symm (ipv4Text_ne_nil n),
    endsInNumber_ipv4Text, if_pos rfl, ipv4_ipv4Text h]

/-- A name, or the text of an IPv4 address, is read as it is. -/
theorem domain_self (h : domain s = .ok t) :
    domain t.toList = .ok t ∧ t.toList ≠ [] ∧ ∀ c ∈ t.toList, Fixed c := by
  obtain ⟨ls, hfixed, hls, hname, ht⟩ := of_domain h
  split at ht
  · obtain ⟨n, hn, rfl⟩ := of_ipv4 ht
    exact ⟨(domain_ipv4Text hn).1, ipv4Text_ne_nil n, (domain_ipv4Text hn).2⟩
  · rename_i hnumber
    cases ht
    rw [String.toList_ofList]
    refine ⟨?_, hname, hfixed⟩
    rw [domain_of_fixed hfixed hls rfl hname, if_neg hnumber]

/-! Addresses in brackets. -/

theorem bracketed_self (h : bracketed s = .ok t) : ∃ body, t.toList = '[' :: (body ++ [']']) ∧
    bracketed (body ++ [']']) = .ok t ∧ ∀ c ∈ body, c = ':' ∨ isHexDigit c = true := by
  unfold bracketed at h
  split at h
  · obtain ⟨gs, hgs, rfl⟩ := of_ipv6 h
    refine ⟨(ipv6Text gs).toList, ?_, ?_, fun c hc => mem_ipv6Text hc⟩
    · rw [String.toList_append, String.toList_append]
      rfl
    · rw [bracketed, List.getLast?_concat, List.dropLast_concat]
      simp only [ipv6, ipv6Groups?_ipv6Text hgs]
  · cases h

/-! Any host. -/

theorem parse_of_head (h : ∀ c ∈ s, Fixed c) : parse s = domain s := by
  unfold parse
  split
  · exact absurd (h '[' List.mem_cons_self).permitted (by decide)
  · rfl

/-- A host is read as it is. -/
theorem parse_self (h : parse s = .ok t) : parse t.toList = .ok t ∧ t.toList ≠ [] ∧ Framed t := by
  unfold parse at h
  split at h
  · obtain ⟨body, ht, hread, hbody⟩ := bracketed_self h
    refine ⟨?_, ?_, .inr ⟨body, ht, hbody⟩⟩
    · rw [ht]
      exact hread
    · rw [ht]
      exact List.cons_ne_nil _ _
  · obtain ⟨hread, hne, hfixed⟩ := domain_self h
    exact ⟨(parse_of_head hfixed).trans hread, hne, .inl fun c hc => (hfixed c hc).spec.2⟩

/-- A character of a host that any scheme may have. -/
structure Admitted (c : Char) : Prop where
  host : isHostChar c = true
  kept : c.toNat < 128 ∧ (!isControl c) = true
  permitted : forbiddenPlain.contains c = false

instance : DecidablePred Admitted := fun _ =>
  decidable_of_iff (_ ∧ _ ∧ _)
    ⟨fun h => ⟨h.1, h.2.1, h.2.2⟩, fun h => ⟨h.host, h.kept, h.permitted⟩⟩

theorem plain_of_admitted (h : ∀ c ∈ s, Admitted c) : plain s = .ok (String.ofList s) := by
  unfold plain
  split
  · exact absurd (h '[' List.mem_cons_self).permitted (by decide)
  · have hpermitted : s.any forbiddenPlain.contains = false := by
      rw [List.any_eq_false]
      exact fun c hc => Bool.eq_false_iff.mp (h c hc).permitted
    rw [hpermitted, Percent.encode_kept fun c hc => (h c hc).kept]
    rfl

theorem plain_self (h : plain s = .ok t) : plain t.toList = .ok t ∧ Framed t := by
  unfold plain at h
  split at h
  · obtain ⟨body, ht, hread, hbody⟩ := bracketed_self h
    refine ⟨?_, .inr ⟨body, ht, hbody⟩⟩
    rw [ht]
    exact hread
  · split at h
    · cases h
    · rename_i hpermitted
      cases h
      have hadmitted : ∀ c ∈ Percent.encode (fun c => !isControl c) s, Admitted c := by
        refine Percent.forall_mem_encode ?_ (by decide +kernel) (by decide +kernel)
        intro c hc hascii hkept
        have hc' : forbiddenPlain.contains c = false := by
          rw [Bool.eq_false_iff]
          exact fun hf => hpermitted (List.any_eq_true.mpr ⟨c, hc, hf⟩)
        exact Text.of_ascii hascii (by decide +kernel) hkept hc'
      rw [Framed, String.toList_ofList]
      exact ⟨plain_of_admitted hadmitted, .inl fun c hc => (hadmitted c hc).host⟩

end Host

end CloudEmulation.Url
