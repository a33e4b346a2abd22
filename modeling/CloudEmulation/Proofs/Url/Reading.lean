import CloudEmulation.Proofs.Url.Building
/-!
URLs in normal form, all of whose characters are plain, are read back from their texts.
-/

namespace CloudEmulation.Url

/-- Characters of host names. -/
def isNameChar (c : Char) : Bool := c.isAlphanum || c = '-' || c = '.'

/-- An authority without a user, whose host is a name that is read as it is. -/
structure Authority.Named (scheme : String) (a : Authority) : Prop where
  username : a.username = ""
  password : a.password = ""
  nonempty : a.host ≠ ""
  plain : ∀ c ∈ a.host.toList, isNameChar c = true
  host : Host.parse a.host.toList = .ok a.host
  port : ∀ n, a.portNumber = some n → n ≤ 65535 ∧ some n ≠ defaultPort scheme

/-- A segment that is read as it is. -/
structure Settled (n : String) : Prop where
  plain : ∀ c ∈ n.toList, c.toNat < 128 ∧ keepsPath c = true ∧ Read.isSlash .special c = false
  single : Read.isSingleDot n = false
  double : Read.isDoubleDot n = false

/-- A character that the query of a URL keeps. -/
structure Kept (c : Char) : Prop where
  ascii : c.toNat < 128
  keeps : keepsQuery true c = true

instance : DecidablePred Kept := fun _ =>
  decidable_of_iff (_ ∧ _) ⟨fun h => ⟨h.1, h.2⟩, fun h => ⟨h.ascii, h.keeps⟩⟩

/-- Whether every component of a URL is read as it is. -/
structure Normal (u : Url) : Prop where
  special : kindOf u.scheme = .special
  authority : ∃ a, u.authority = some a ∧ a.Named u.scheme
  path : ∃ names, u.path = .segments names ∧ names ≠ [] ∧ ∀ n ∈ names, Settled n
  query : ∀ q, u.query = some q → ∀ c ∈ q.toList, Kept c
  fragment : u.fragment = none

/-! Normal forms are as reading leaves them. -/

variable {c : Char} {names : List String} {scheme : String} {a : Authority} {u : Url}

theorem isHostChar_of_isNameChar (h : isNameChar c = true) : isHostChar c = true := by
  have hascii : c.toNat < 128 := by
    delta isNameChar Char.isAlphanum Char.isAlpha Char.isUpper Char.isLower Char.isDigit at h
    simp only [Bool.or_eq_true, Bool.and_eq_true, decide_eq_true_eq, UInt32.le_iff_toNat_le] at h
    have hc : c.toNat = c.val.toNat := rfl
    rcases h with (((⟨-, h⟩ | ⟨-, h⟩) | ⟨-, h⟩) | rfl) | rfl
    · exact hc ▸ Nat.lt_of_le_of_lt h (by decide)
    · exact hc ▸ Nat.lt_of_le_of_lt h (by decide)
    · exact hc ▸ Nat.lt_of_le_of_lt h (by decide)
    · decide
    · decide
  exact Text.of_ascii hascii (by decide +kernel) h

theorem mem_of_special (h : kindOf scheme = .special) :
    scheme ∈ ["http", "https", "ws", "wss", "ftp"] := by
  by_cases hm : scheme ∈ ["http", "https", "ws", "wss", "ftp"]
  · exact hm
  · rw [kindOf, if_neg hm] at h
    split at h <;> cases h

theorem schemeName_of_special (h : kindOf scheme = .special) : SchemeName scheme := by
  have hread : ∀ scheme ∈ ["http", "https", "ws", "wss", "ftp"],
      Read.scheme? (scheme.toList ++ [':']) = some (scheme, []) := by decide
  exact schemeName_of_scheme? (hread scheme (mem_of_special h))

theorem Authority.Named.canonical (h : a.Named scheme) : a.Canonical .special scheme where
  username := h.username ▸ keptBy_empty
  password := h.password ▸ keptBy_empty
  framed := .inl fun c hc => isHostChar_of_isNameChar (h.plain c hc)
  host := h.host
  special := fun _ he => h.nonempty (String.toList_eq_nil_iff.mp he)
  bare := fun he => absurd (String.toList_eq_nil_iff.mp he) h.nonempty
  port := h.port

theorem settled_iff {n : String} : Settled n ↔ SegmentOf .special n :=
  ⟨fun h => ⟨h.plain, h.single, h.double⟩, fun h => ⟨h.plain, h.single, h.double⟩⟩

theorem Normal.canonical (h : u.Normal) : u.Canonical := by
  obtain ⟨scheme, authority, path, query, fragment⟩ := u
  obtain ⟨a, ha, hnamed⟩ := h.authority
  obtain ⟨names, hp, hne, hn⟩ := h.path
  have hspecial := h.special
  have hquery := h.query
  have hfragment := h.fragment
  simp only at ha hp hspecial hquery hfragment
  subst ha hp hfragment
  refine ⟨schemeName_of_special hspecial, ?_, ?_⟩
  · show Placed (kindOf scheme) scheme (some a) (.segments names)
    rw [hspecial]
    exact .hosted (by decide) hnamed.canonical
      ⟨fun n hmem => settled_iff.mp (hn n hmem), fun _ => hne, fun he => nomatch he⟩
  · show TailOf (kindOf scheme) query none
    rw [hspecial]
    exact ⟨fun q hq c hc => ⟨(hquery q hq c hc).ascii, (hquery q hq c hc).keeps⟩,
      fun f hf => nomatch hf⟩

/-- The text of a URL in normal form denotes that URL. -/
theorem Normal.parse_text (h : u.Normal) : parse u.text = .ok u := by
  obtain ⟨names, hp, -, -⟩ := h.path
  refine h.canonical.parse_text (fun _ => ⟨names, hp⟩) fun hk => ?_
  rw [h.special] at hk
  cases hk

/-! Below an endpoint. -/

/-- A bare URL whose authority is read back from its text. -/
structure Rooted (u : Url) : Prop extends Bare u where
  special : kindOf u.scheme = .special
  authority : ∃ a, u.authority = some a ∧ a.Named u.scheme
  fragment : u.fragment = none

variable {segments : List String} {v : Url}

theorem Rooted.normal_join (h : u.Rooted) (hs : ∀ t ∈ segments, Argument t) (hne : segments ≠ [])
    (hv : u.join segments = .ok v) : v.Normal := by
  obtain ⟨names, hp, hempty⟩ := h.path
  rw [join, hp, h.special] at hv
  cases hv
  have hsegments : ∀ n ∈ Segments.dropEmptyLast names, SegmentOf .special n := by
    intro n hn
    rw [hempty n (mem_dropEmptyLast hn)]
    exact segmentOf_empty
  refine ⟨h.special, h.authority, ⟨_, rfl, ?_, fun n hn => settled_iff.mpr
    (segmentOf_foldl_push hsegments segments n hn)⟩, ?_, h.fragment⟩
  · intro he
    have hf : ((segments.foldl (Segments.push .special) (Segments.dropEmptyLast names)).filter
        (· ≠ "")) = _ := foldl_push hs (by decide)
    rw [he] at hf
    have hmap := (List.append_eq_nil_iff.mp hf.symm).2
    exact hne (List.map_eq_nil_iff.mp hmap)
  · intro q hq c hc
    rcases h.query with hn | hn
    · cases hn.symm.trans hq
    · cases hn.symm.trans hq
      cases hc

theorem Normal.withPairs (h : u.Normal) (pairs : Pairs) : (u.withPairs pairs).Normal where
  special := h.special
  authority := h.authority
  path := h.path
  query := by
    rintro q ⟨⟩
    exact fun c hc => ⟨(keptBy_pairs true pairs c hc).1, (keptBy_pairs true pairs c hc).2⟩
  fragment := h.fragment

end CloudEmulation.Url
