import CloudEmulation.Proofs.Url.Segments
/-!
The text of a URL that was read is read as that URL.
-/

namespace CloudEmulation.Url

open Text (Halts halts_cons takeWhile_run dropWhile_run)

/-- The host of a file as reading leaves it. -/
structure FileHost (host : String) : Prop where
  framed : Framed host
  read : host ≠ "" → Host.parse host.toList = .ok host
  foreign : host ≠ "localhost"

/-- A path without structure as reading leaves it. -/
structure WholePath (t : String) : Prop where
  plain : ∀ c ∈ t.toList, c.toNat < 128 ∧ (!isControl c) = true ∧ Read.isTail c = false
  head : t.toList.head? ≠ some '/'

/-- How an authority and a path go together, as reading leaves them. -/
inductive Placed (kind : Kind) (scheme : String) : Option Authority → Path → Prop
  | hosted {a : Authority} {names : List String} (hk : kind ≠ .file)
    (ha : a.Canonical kind scheme) (hp : PathOf kind names) :
    Placed kind scheme (some a) (.segments names)
  | file {host : String} {names : List String} (hk : kind = .file) (hh : FileHost host)
    (hp : PathOf .file names) : Placed kind scheme (some ⟨"", "", host, none⟩) (.segments names)
  | rooted {names : List String} (hk : kind = .other) (hp : PathOf .other names)
    (hne : names ≠ []) : Placed kind scheme none (.segments names)
  | whole {t : String} (hk : kind = .other) (ht : WholePath t) : Placed kind scheme none (.whole t)

/-- A URL as reading leaves it. -/
structure Canonical (u : Url) : Prop where
  scheme : SchemeName u.scheme
  placed : Placed (kindOf u.scheme) u.scheme u.authority u.path
  tail : TailOf (kindOf u.scheme) u.query u.fragment

variable {c : Char} {s rest : List Char} {t host scheme : String} {kind : Kind}
  {names : List String} {a : Authority} {u : Url} {query fragment : Option String}

theorem Canonical.slash_notMem (h : u.Canonical) (hp : u.path = .segments names) :
    ∀ n ∈ names, '/' ∉ n.toList := by
  obtain ⟨scheme, authority, path, query, fragment⟩ := u
  have hsegments {kind : Kind} (hpath : PathOf kind names) : ∀ n ∈ names, '/' ∉ n.toList := by
    intro n hn hslash
    have hs := ((hpath.segments n hn).plain '/' hslash).2.2
    cases kind <;> cases hs
  have hplaced := h.placed
  simp only at hp hplaced
  cases hplaced <;> cases hp
  · exact hsegments ‹_›
  · exact hsegments ‹_›
  · exact hsegments ‹_›

/-! Reading the components. -/

theorem cleaned_self (hfirst : Halts Read.isEdge s) (hlast : Halts Read.isEdge s.reverse)
    (h : ∀ c ∈ s, Read.isIgnored c = false) : Read.cleaned s = s := by
  have hkept : s.filter (!Read.isIgnored ·) = s :=
    List.filter_eq_self.mpr fun c hc => by rw [h c hc]; rfl
  rw [Read.cleaned, hfirst.dropWhile, hlast.dropWhile, List.reverse_reverse, hkept]

theorem assemble_self (scheme : String) (a : Option Authority) (hp : ∀ c ∈ s, Read.isTail c = false)
    (ht : TailOf kind query fragment) :
    Read.assemble kind scheme a (s ++ tailText query fragment) =
      ⟨scheme, a, Read.path kind s, query, fragment⟩ := by
  have hplain : ∀ c ∈ s, (!Read.isTail c) = true := fun c hc => by rw [hp c hc]; rfl
  rw [Read.assemble, takeWhile_run hplain halts_tailText, dropWhile_run hplain halts_tailText,
    ht.read]

theorem assemble_path (scheme : String) (a : Option Authority) (hp : PathOf kind names)
    (hdrive : kind = .file → Read.onDrive (.segments names) = false)
    (ht : TailOf kind query fragment) :
    Read.assemble kind scheme a
      ((Path.text (.segments names)).toList ++ tailText query fragment) =
        ⟨scheme, a, .segments names, query, fragment⟩ := by
  have hread := hp.read fun hk n hn => by
    obtain ⟨rest, rfl⟩ := List.head?_eq_some_iff.mp hn
    exact hdrive hk
  rw [assemble_self scheme a (fun c hc => (plain_of_path hp.segments c hc).2) ht, hread]

theorem head_tailText (hc : c ∈ (tailText query fragment).head?) : c = '?' ∨ c = '#' := by
  have htail : (!Read.isTail c) = false := halts_tailText c hc
  simpa only [Read.isTail, Bool.not_eq_false', Bool.or_eq_true, decide_eq_true_eq] using htail

theorem halts_path (kind : Kind) (names : List String) (query fragment : Option String) :
    Halts (!Read.endsAuthority kind ·)
      ((Path.text (.segments names)).toList ++ tailText query fragment) := by
  cases names with
  | nil =>
    intro c hc
    rcases head_tailText hc with rfl | rfl <;> cases kind <;> decide
  | cons n names =>
    rw [toList_text, List.flatMap_cons, List.cons_append, List.cons_append]
    exact halts_cons.mpr (by cases kind <;> decide)

theorem not_endsAuthority (h : Inner c) : (!Read.endsAuthority kind c) = true := by
  have hc := h.2
  simp only [Read.endsAuthority, Read.isSlash, Bool.or_eq_false_iff] at hc
  obtain ⟨⟨⟨hslash, hback⟩, hquery⟩, hfragment⟩ := hc
  have hback : decide (c = '\\') = false := hback
  simp only [Read.endsAuthority, Read.isSlash, hslash, hback, hquery, hfragment, Bool.and_false,
    Bool.or_self, Bool.not_false]

theorem afterSlashes_self (ha : a.Canonical kind scheme) (hp : PathOf kind names)
    (hk : kind ≠ .file) (ht : TailOf kind query fragment) :
    Read.afterSlashes kind scheme
      (a.text.toList ++ ((Path.text (.segments names)).toList ++ tailText query fragment)) =
        .ok ⟨scheme, some a, .segments names, query, fragment⟩ := by
  have hplain : ∀ c ∈ a.text.toList, (!Read.endsAuthority kind c) = true :=
    fun c hc => not_endsAuthority (ha.inner c hc)
  have halts := halts_path kind names query fragment
  unfold Read.afterSlashes
  simp only [takeWhile_run hplain halts, dropWhile_run hplain halts, ha.read]
  exact congrArg Except.ok (assemble_path _ _ hp (fun he => absurd he hk) ht)

theorem Framed.isDrive (h : Framed t) : Read.isDrive t = false := by
  rw [Bool.eq_false_iff, ne_eq, isDrive_iff]
  rintro ⟨c, mark, ht, hc, hmark⟩
  rcases h with h | ⟨body, hbody, -⟩
  · have hm := (inner_of_isHostChar (h mark (by rw [ht]; simp))).2
    rcases hmark with rfl | rfl <;> exact hm (by decide)
  · rw [hbody] at ht
    obtain ⟨rfl, -⟩ := List.cons.inj ht
    cases hc

theorem hostedFile_self (hh : FileHost host) (hp : PathOf .file names)
    (hdrive : Read.onDrive (.segments names) = false) (ht : TailOf .file query fragment) :
    Read.hostedFile
      (host.toList ++ ((Path.text (.segments names)).toList ++ tailText query fragment)) =
        .ok ⟨"file", some ⟨"", "", host, none⟩, .segments names, query, fragment⟩ := by
  have hplain : ∀ c ∈ host.toList, (!Read.endsAuthority .file c) = true :=
    fun c hc => not_endsAuthority (hh.framed.inner c hc).1
  have halts := halts_path .file names query fragment
  have hassemble (a : Option Authority) := assemble_path "file" a hp (fun _ => hdrive) ht
  unfold Read.hostedFile
  simp only [takeWhile_run hplain halts, dropWhile_run hplain halts, String.ofList_toList,
    hh.framed.isDrive, Bool.or_false, Bool.false_eq_true, if_false, hassemble, hdrive]
  by_cases he : host.toList = []
  · obtain rfl := String.toList_eq_nil_iff.mp he
    rfl
  · have hne : host ≠ "" := fun hempty => he (by rw [hempty]; rfl)
    simp only [he, hh.read hne, decide_false, Bool.false_eq_true, if_false]
    show Except.ok (⟨"file", some ⟨"", "", if host = "localhost" then "" else host, none⟩, _, _,
      _⟩ : Url) = _
    rw [if_neg hh.foreign]

theorem withoutBase_slash (h : Halts (· = '/') rest) :
    Read.withoutBase scheme ('/' :: rest) =
      .ok (Read.assemble .other scheme none ('/' :: rest)) := by
  unfold Read.withoutBase
  split
  · rename_i r hr
    cases hr
    exact absurd (halts_cons.mp h) (by decide)
  · rfl
  · rename_i _ hslash
    exact absurd rfl (hslash rest)

/-- A path that begins with two slashes is read after a dot. -/
theorem path_dotted (hp : PathOf .other names) (hne : names ≠ []) :
    Read.path .other ('/' :: '.' :: (Path.text (.segments names)).toList) = .segments names := by
  have hplain : ∀ m ∈ names, ∀ c ∈ m.toList, Read.isSlash .other c = false :=
    fun m hm c hc => ((hp.segments m hm).plain c hc).2.2
  have hmark : ∀ c ∈ ['.'], Read.isSlash .other c = false := Text.forall_of_all (by decide)
  have hsplit := splitOnP_slashes (by decide) hmark hplain
  have hencode : (names.map String.toList).map Read.encodePath = names := by
    rw [List.map_map]
    refine (List.map_congr_left ?_).trans (List.map_id _)
    exact fun m hm => encodePath_self (hp.segments m hm).plain
  have hdot : Read.encodePath ['.'] = "." := by decide
  have hwalk : Read.walk .other [] ("." :: names) = names := by
    cases names with
    | nil => exact absurd rfl hne
    | cons n names =>
      rw [Read.walk, if_neg (by decide), if_pos (by decide),
        walk_self hp.segments (fun he => absurd he (by decide)), List.nil_append]
      exact List.cons_ne_nil _ _
  show Path.segments (Read.segments .other ('.' :: (Path.text (.segments names)).toList)) = _
  rw [Read.segments, toList_text]
  show Path.segments (Read.walk .other []
    (((['.'] ++ names.flatMap fun n => '/' :: n.toList).splitOnP _).map _)) = _
  rw [hsplit, List.map_cons, hencode, hdot, hwalk]

theorem withoutBase_dotted {m : String} {more : List String}
    (hp : PathOf .other ("" :: m :: more)) (ht : TailOf .other query fragment) :
    Read.withoutBase scheme
      ('/' :: '.' :: ((Path.text (.segments ("" :: m :: more))).toList ++ tailText query fragment)) =
      .ok ⟨scheme, none, .segments ("" :: m :: more), query, fragment⟩ := by
  have hplain : ∀ c ∈ '/' :: '.' :: (Path.text (.segments ("" :: m :: more))).toList,
      Read.isTail c = false := by
    intro c hc
    simp only [List.mem_cons] at hc
    rcases hc with rfl | rfl | hc
    · decide
    · decide
    · exact (plain_of_path hp.segments c hc).2
  have hassemble := assemble_self scheme none hplain ht
  rw [path_dotted hp (List.cons_ne_nil _ _)] at hassemble
  rw [withoutBase_slash (halts_cons.mpr (by decide))]
  exact congrArg Except.ok hassemble

/-- Any other path begins with one slash. -/
theorem exists_slash_path (hp : PathOf .other names) (hne : names ≠ [])
    (hdouble : ∀ m more, names ≠ "" :: m :: more) (query fragment : Option String) :
    ∃ rest, (Path.text (.segments names)).toList ++ tailText query fragment = '/' :: rest ∧
      Halts (· = '/') rest := by
  obtain ⟨n, more, rfl⟩ := List.exists_cons_of_ne_nil hne
  rw [toList_text, List.flatMap_cons, List.cons_append, List.cons_append]
  refine ⟨_, rfl, ?_⟩
  by_cases hn : n = ""
  · subst hn
    cases more with
    | nil =>
      intro c hc
      rcases head_tailText hc with rfl | rfl <;> decide
    | cons m more => exact absurd rfl (hdouble m more)
  · obtain ⟨c, r, hc⟩ := List.exists_cons_of_ne_nil
      (fun he => hn (String.toList_eq_nil_iff.mp he))
    have hslash := ((hp.segments n List.mem_cons_self).plain c (hc ▸ List.mem_cons_self)).2.2
    rw [hc]
    refine halts_cons.mpr (decide_eq_false ?_)
    rintro rfl
    cases hslash

theorem withoutBase_rooted (hp : PathOf .other names) (hne : names ≠ [])
    (ht : TailOf .other query fragment) :
    Read.withoutBase scheme
      ((beforePath ⟨scheme, none, .segments names, query, fragment⟩).toList ++
        ((Path.text (.segments names)).toList ++ tailText query fragment)) =
      .ok ⟨scheme, none, .segments names, query, fragment⟩ := by
  by_cases hdouble : ∃ m more, names = "" :: m :: more
  · obtain ⟨m, more, rfl⟩ := hdouble
    have hbefore : (beforePath ⟨scheme, none, .segments ("" :: m :: more), query,
        fragment⟩).toList = ['/', '.'] := by simp [beforePath]
    rw [hbefore]
    exact withoutBase_dotted hp ht
  · have hsingle : ∀ m more, names ≠ "" :: m :: more := fun m more he => hdouble ⟨m, more, he⟩
    have hbefore : beforePath ⟨scheme, none, .segments names, query, fragment⟩ = "" := by
      unfold beforePath
      simp only
      split
      · rename_i heq
        cases heq
      · rename_i heq
        cases heq
        exact absurd rfl (hsingle _ _)
      · rfl
    have hassemble := assemble_path scheme none hp (fun he => nomatch he) ht
    obtain ⟨rest, hrest, halts⟩ := exists_slash_path hp hne hsingle query fragment
    rw [hrest] at hassemble ⊢
    rw [hbefore]
    exact (withoutBase_slash halts).trans (congrArg Except.ok hassemble)

theorem withoutBase_whole (h : WholePath t) (ht : TailOf .other query fragment) :
    Read.withoutBase scheme (t.toList ++ tailText query fragment) =
      .ok ⟨scheme, none, .whole t, query, fragment⟩ := by
  have hplain : ∀ c ∈ t.toList, (!Read.isTail c) = true :=
    fun c hc => by rw [(h.plain c hc).2.2]; rfl
  have hslash : ∀ r, t.toList ++ tailText query fragment ≠ '/' :: r := by
    intro r hr
    cases hs : t.toList with
    | nil =>
      rw [hs, List.nil_append] at hr
      have halts : (!Read.isTail '/') = false := halts_tailText '/' (by rw [hr]; rfl)
      cases halts
    | cons c s =>
      rw [hs] at hr
      cases hr
      exact h.head (by rw [hs]; rfl)
  unfold Read.withoutBase
  split
  · rename_i r hr
    exact absurd hr (hslash _)
  · rename_i r hr
    exact absurd hr (hslash _)
  · simp only [takeWhile_run hplain halts_tailText, dropWhile_run hplain halts_tailText, ht.read,
      Percent.encode_kept fun c hc => ⟨(h.plain c hc).1, (h.plain c hc).2.1⟩, String.ofList_toList]

/-! Whole texts. -/

/-- What stands between the scheme and the query. -/
theorem toList_text_eq (u : Url) : u.text.toList = u.scheme.toList ++
    ':' :: (u.beforePath.toList ++ (u.path.text.toList ++ tailText u.query u.fragment)) := by
  rw [text, tailText, pathText]
  simp

theorem not_ignored (h : Read.isEdge c = false) : Read.isIgnored c = false := by
  rw [Bool.eq_false_iff]
  intro hi
  simp only [Read.isIgnored, Bool.or_eq_true, decide_eq_true_eq] at hi
  rcases hi with (rfl | rfl) | rfl <;> exact absurd h (by decide)

theorem toList_text_file (host : String) :
    (Authority.text ⟨"", "", host, none⟩).toList = host.toList := by
  simp [Authority.toList_text, userText, portText]

theorem beforePath_of_none (h : u.authority = none) : u.beforePath = "" ∨ u.beforePath = "/." := by
  unfold beforePath
  rw [h]
  split
  · rename_i he
    cases he
  · exact .inr rfl
  · exact .inl rfl

theorem toList_beforePath (h : u.authority = some a) :
    u.beforePath.toList = '/' :: '/' :: a.text.toList := by
  rw [beforePath, h, String.toList_append]
  rfl

/-- Apart from a path without structure, no blanks stand before the query. -/
theorem Canonical.front_not_edge (h : u.Canonical) (hs : u.path = .segments names) :
    ∀ c ∈ u.beforePath.toList ++ u.path.text.toList, Read.isEdge c = false := by
  obtain ⟨scheme, authority, path, query, fragment⟩ := u
  have hpath {kind : Kind} {names : List String} (hp : PathOf kind names) :
      ∀ c ∈ (Path.text (.segments names)).toList, Read.isEdge c = false :=
    fun c hc => (plain_of_path hp.segments c hc).1
  have hslashes {s : String} (hs : ∀ c ∈ s.toList, Inner c) :
      ∀ c ∈ ("//" ++ s).toList, Read.isEdge c = false := by
    intro c hc
    rw [String.toList_append] at hc
    rcases List.mem_append.mp hc with hc | hc
    · have hmark : ∀ c ∈ "//".toList, Read.isEdge c = false := Text.forall_of_all (by decide)
      exact hmark c hc
    · exact (hs c hc).1
  intro c hc
  rw [List.mem_append] at hc
  have hplaced := h.placed
  simp only at hs hc hplaced
  cases hplaced with
  | hosted hk ha hp => exact hc.elim (hslashes ha.inner c) (hpath hp c)
  | file hk hh hp =>
    refine hc.elim (hslashes (fun c hc => ?_) c) (hpath hp c)
    rw [toList_text_file] at hc
    exact (hh.framed.inner c hc).1
  | rooted hk hp hne =>
    refine hc.elim (fun hc => ?_) (hpath hp c)
    have hdot : ∀ c ∈ "/.".toList, Read.isEdge c = false := Text.forall_of_all (by decide)
    rcases beforePath_of_none (u := ⟨scheme, none, .segments _, query, fragment⟩) rfl with hb | hb
    · rw [hb] at hc
      cases hc
    · rw [hb] at hc
      exact hdot c hc
  | whole hk ht => cases hs

theorem Canonical.front_not_ignored (h : u.Canonical) :
    ∀ c ∈ u.beforePath.toList ++ u.path.text.toList, Read.isIgnored c = false := by
  cases hp : u.path with
  | segments names => exact fun c hc => not_ignored (h.front_not_edge hp c (hp ▸ hc))
  | whole t =>
    obtain ⟨scheme, authority, path, query, fragment⟩ := u
    have hplaced := h.placed
    simp only at hp hplaced
    cases hplaced <;> cases hp
    rename_i ht
    intro c hc
    rcases List.mem_append.mp hc with hc | hc
    · cases hc
    · have hcontrol := (ht.plain c hc).2.1
      rw [Bool.eq_false_iff]
      intro hi
      simp only [Read.isIgnored, Bool.or_eq_true, decide_eq_true_eq] at hi
      rcases hi with (rfl | rfl) | rfl <;> exact absurd hcontrol (by decide)

/-- Nothing of a text is dropped, unless it ends in a path without structure, and that in blanks. -/
theorem Canonical.cleaned (h : u.Canonical)
    (hend : u.query = none → ∃ names, u.path = .segments names) :
    Read.cleaned u.text.toList = u.text.toList := by
  rw [toList_text_eq]
  refine cleaned_self ?_ ?_ ?_
  · obtain ⟨c, r, hc⟩ := List.exists_cons_of_ne_nil h.scheme.nonempty
    rw [hc]
    exact halts_cons.mpr (h.scheme.plain c (hc ▸ List.mem_cons_self))
  · have halts : Halts Read.isEdge (tailText u.query u.fragment).reverse := fun c hc =>
      h.tail.plain c (List.mem_reverse.mp (List.mem_of_mem_head? hc))
    rw [← List.append_assoc, ← List.cons_append, ← List.append_assoc, List.reverse_append]
    cases hq : u.query with
    | some q =>
      refine (hq ▸ halts).append ?_ _
      rw [tailText_some]
      simp
    | none =>
      obtain ⟨names, hp⟩ := hend hq
      intro c hc
      have hmem := List.mem_of_mem_head? hc
      simp only [List.mem_append, List.mem_reverse, List.mem_cons] at hmem
      rcases hmem with hmem | hmem | rfl | hmem | hmem
      · exact h.tail.plain c (hq ▸ hmem)
      · exact h.scheme.plain c hmem
      · decide
      · exact h.front_not_edge hp c (List.mem_append_left _ hmem)
      · exact h.front_not_edge hp c (List.mem_append_right _ hmem)
  · intro c hc
    simp only [List.mem_append, List.mem_cons] at hc
    rcases hc with hc | rfl | hc | hc | hc
    · exact not_ignored (h.scheme.plain c hc)
    · decide
    · exact h.front_not_ignored c (List.mem_append_left _ hc)
    · exact h.front_not_ignored c (List.mem_append_right _ hc)
    · exact not_ignored (h.tail.plain c hc)

theorem eq_file_of_kindOf (h : kindOf scheme = .file) : scheme = "file" := by
  unfold kindOf at h
  split at h
  · cases h
  · split at h
    · assumption
    · cases h

theorem dropWhile_slashes (ha : a.Canonical .special scheme) (rest : List Char) :
    ('/' :: '/' :: (a.text.toList ++ rest)).dropWhile (Read.isSlash .special) =
      a.text.toList ++ rest := by
  have hne : a.text.toList ≠ [] := by
    rw [Authority.toList_text]
    exact List.append_ne_nil_of_right_ne_nil _
      (List.append_ne_nil_of_left_ne_nil (ha.special rfl) _)
  have halts : Halts (Read.isSlash .special) a.text.toList := by
    intro c hc
    have hends := (ha.inner c (List.mem_of_mem_head? hc)).2
    rw [Read.endsAuthority, Bool.or_eq_false_iff, Bool.or_eq_false_iff] at hends
    exact hends.1.1
  exact dropWhile_run (s := ['/', '/']) (Text.forall_of_all (by decide)) (halts.append hne _)

/-- The text of a URL denotes that URL. -/
theorem Canonical.parse_text (h : u.Canonical)
    (hend : u.query = none → ∃ names, u.path = .segments names)
    (hdrive : kindOf u.scheme = .file → Read.onDrive u.path = false) : parse u.text = .ok u := by
  rw [parse, h.cleaned hend, toList_text_eq, h.scheme.read]
  obtain ⟨scheme, authority, path, query, fragment⟩ := u
  have hplaced := h.placed
  have htail := h.tail
  simp only at hplaced htail hdrive ⊢
  generalize hkind : kindOf scheme = kind at hplaced htail hdrive
  cases hplaced with
  | hosted hk ha hp =>
    cases kind with
    | special =>
      rw [toList_beforePath rfl, List.cons_append, List.cons_append, dropWhile_slashes ha]
      exact afterSlashes_self ha hp hk htail
    | file => exact absurd rfl hk
    | other =>
      rw [toList_beforePath rfl]
      exact afterSlashes_self ha hp hk htail
  | file hk hh hp =>
    subst hk
    obtain rfl := eq_file_of_kindOf hkind
    have hread := hostedFile_self hh hp (hdrive rfl) htail
    rw [toList_beforePath rfl, toList_text_file]
    exact hread
  | rooted hk hp hne =>
    subst hk
    exact withoutBase_rooted hp hne htail
  | whole hk ht =>
    subst hk
    exact withoutBase_whole ht htail

/-! What is read. -/

theorem canonical_assemble (hs : SchemeName scheme) (a : Option Authority) (s : List Char)
    (h : Placed (kindOf scheme) scheme a
      (Read.path (kindOf scheme) (s.takeWhile (!Read.isTail ·)))) :
    Canonical (Read.assemble (kindOf scheme) scheme a s) :=
  ⟨hs, h, tailOf_tail _ _⟩

theorem canonical_of_afterSlashes (hs : SchemeName scheme) (hk : kindOf scheme ≠ .file)
    (h : Read.afterSlashes (kindOf scheme) scheme s = .ok u) : u.Canonical := by
  obtain ⟨a, ha, h⟩ := Except.bind_eq_ok.mp h
  cases h
  refine canonical_assemble hs _ _ ?_
  obtain ⟨names, hpath, hp, -⟩ := pathOf_path (kindOf scheme) _
  rw [hpath]
  exact .hosted hk (canonical_of_authority ha) hp

theorem schemeName_file : SchemeName "file" :=
  schemeName_of_scheme? (by decide : Read.scheme? "file:".toList = some ("file", []))

theorem canonical_file (hh : FileHost host) (s : List Char) :
    Canonical (Read.assemble .file "file" (some ⟨"", "", host, none⟩) s) := by
  refine canonical_assemble schemeName_file _ _ ?_
  obtain ⟨names, hpath, hp, -⟩ := pathOf_path .file (s.takeWhile (!Read.isTail ·))
  show Placed .file "file" _ (Read.path .file _)
  rw [hpath]
  exact .file rfl hh hp

theorem fileHost_empty : FileHost "" :=
  ⟨.inl (fun c hc => nomatch hc), fun he => absurd rfl he, by decide⟩

theorem fileHost_of_parse (h : Host.parse s = .ok t) :
    FileHost (if t = "localhost" then "" else t) := by
  split
  · exact fileHost_empty
  · rename_i hforeign
    obtain ⟨hread, -, hframed⟩ := Host.parse_self h
    exact ⟨hframed, fun _ => hread, hforeign⟩

theorem canonical_of_hostedFile (h : Read.hostedFile s = .ok u) : u.Canonical := by
  have hfinish {host : String} (hh : FileHost host) (s : List Char) : Canonical
      (if Read.onDrive (Read.assemble .file "file" (some ⟨"", "", host, none⟩) s).path then
        { Read.assemble .file "file" (some ⟨"", "", host, none⟩) s with
          authority := some ⟨"", "", "", none⟩ }
      else Read.assemble .file "file" (some ⟨"", "", host, none⟩) s) := by
    split
    · exact canonical_file fileHost_empty s
    · exact canonical_file hh s
  unfold Read.hostedFile at h
  simp only at h
  split at h
  · cases h
    exact hfinish fileHost_empty _
  · obtain ⟨host, hhost, h⟩ := Except.bind_eq_ok.mp h
    cases h
    exact hfinish (fileHost_of_parse hhost) _

theorem canonical_of_localFile (h : Read.localFile s = .ok u) : u.Canonical := by
  unfold Read.localFile at h
  split at h
  · split at h
    · exact canonical_of_hostedFile h
    · cases h
      exact canonical_file fileHost_empty _
  · cases h
    exact canonical_file fileHost_empty _

theorem wholePath_encode (h : s.head? ≠ some '/') (ht : ∀ c ∈ s, Read.isTail c = false) :
    WholePath (String.ofList (Percent.encode (fun c => !isControl c) s)) := by
  constructor
  · rw [String.toList_ofList]
    exact Percent.forall_mem_encode (fun c hc hascii hk => ⟨hascii, hk, ht c hc⟩) (by decide)
      (by decide +kernel)
  · rw [String.toList_ofList]
    intro hslash
    cases s with
    | nil => cases hslash
    | cons c s =>
      rcases Percent.head?_encode hslash with rfl | he
      · exact h rfl
      · cases he

theorem canonical_of_withoutBase (hs : SchemeName scheme) (hk : kindOf scheme = .other)
    (h : Read.withoutBase scheme s = .ok u) : u.Canonical := by
  unfold Read.withoutBase at h
  split at h
  · rw [← hk] at h
    exact canonical_of_afterSlashes hs (by rw [hk]; decide) h
  · rename_i rest _
    cases h
    rw [← hk]
    refine canonical_assemble hs _ _ ?_
    obtain ⟨names, hpath, hp, hne⟩ := pathOf_path (kindOf scheme)
      (('/' :: rest).takeWhile (!Read.isTail ·))
    rw [hpath, hk]
    refine .rooted rfl (hk ▸ hp) (hne ?_)
    rw [List.takeWhile_cons_of_pos (by decide)]
    exact List.cons_ne_nil _ _
  · rename_i hslash
    cases h
    refine ⟨hs, ?_, ?_⟩
    · show Placed (kindOf scheme) scheme none (.whole _)
      refine .whole hk (wholePath_encode ?_ fun c hc => ?_)
      · intro hhead
        obtain ⟨rest, htake⟩ := List.head?_eq_some_iff.mp hhead
        have hs := List.takeWhile_append_dropWhile (p := (!Read.isTail ·)) (l := s)
        rw [htake] at hs
        exact hslash _ hs.symm
      · simpa using List.mem_takeWhile_imp hc
    · show TailOf (kindOf scheme) _ _
      rw [hk]
      exact tailOf_tail _ _

/-- What is read is as reading leaves it. -/
theorem canonical_of_parse (h : parse t = .ok u) : u.Canonical := by
  unfold parse at h
  split at h
  · cases h
  · rename_i scheme s hscheme
    have hs := schemeName_of_scheme? hscheme
    split at h
    · rename_i hk
      rw [← hk] at h
      exact canonical_of_afterSlashes hs (by rw [hk]; decide) h
    · exact canonical_of_localFile h
    · rename_i hk
      exact canonical_of_withoutBase hs hk h

end CloudEmulation.Url
