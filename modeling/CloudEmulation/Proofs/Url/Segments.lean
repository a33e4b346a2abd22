import CloudEmulation.Proofs.Url.Authorities
/-!
Paths, queries and fragments as reading leaves them are read as they are.
-/

namespace CloudEmulation.Url

open Text (Halts halts_cons takeWhile_run dropWhile_run)

variable {c : Char} {s : List Char} {t n name : String} {kind : Kind} {names done : List String}
  {query fragment : Option String}

/-! Segments. -/

/-- An encoded text without a slash. -/
def PartOf (kind : Kind) (n : String) : Prop :=
  ∀ c ∈ n.toList, c.toNat < 128 ∧ keepsPath c = true ∧ Read.isSlash kind c = false

/-- A segment of a path as reading leaves it. -/
structure SegmentOf (kind : Kind) (n : String) : Prop where
  plain : PartOf kind n
  single : Read.isSingleDot n = false
  double : Read.isDoubleDot n = false

/-- A path begins with an empty segment only if it has no other. -/
def Fronted (names : List String) : Prop := names.head? = some "" → names = [""]

theorem segmentOf_empty : SegmentOf kind "" :=
  ⟨(fun _ hc => nomatch hc), by decide, by decide⟩

theorem isDrive_iff : Read.isDrive t = true ↔
    ∃ c mark, t.toList = [c, mark] ∧ c.isAlpha = true ∧ (mark = ':' ∨ mark = '|') := by
  unfold Read.isDrive
  split
  · rename_i c mark ht
    simp [ht]
  · rename_i ht
    constructor
    · rintro ⟨⟩
    · rintro ⟨c, mark, he, -⟩
      exact absurd he (ht c mark)

/-- The mark of a drive is a colon. -/
theorem segmentOf_drive (h : PartOf kind t) (hd : Read.isDrive t = true) :
    SegmentOf kind (String.ofList (t.toList.take 1 ++ [':'])) := by
  obtain ⟨c, mark, ht, -, -⟩ := isDrive_iff.mp hd
  have hcolon : Read.isSlash kind ':' = false := by cases kind <;> decide
  have hlast : (String.ofList ([c, mark].take 1 ++ [':'])).toList.getLast? = some ':' := by
    rw [String.toList_ofList]
    rfl
  have hsingle : ∀ t ∈ [".", "%2e", "%2E"], t.toList.getLast? ≠ some ':' := by decide
  have hdouble : ∀ t ∈ ["..", "%2e%2e", "%2e%2E", "%2E%2e", "%2E%2E", "%2e.", "%2E.", ".%2e",
      ".%2E"], t.toList.getLast? ≠ some ':' := by decide
  rw [ht]
  refine ⟨?_, ?_, ?_⟩
  · intro d hmem
    simp only [String.toList_ofList, List.take_succ_cons, List.take_zero, List.cons_append,
      List.nil_append, List.mem_cons, List.not_mem_nil, or_false] at hmem
    rcases hmem with rfl | rfl
    · exact h d (ht ▸ List.mem_cons_self)
    · exact ⟨by decide, by decide, hcolon⟩
  · exact decide_eq_false fun hm => hsingle _ hm hlast
  · exact decide_eq_false fun hm => hdouble _ hm hlast

theorem segmentOf_add (hdone : ∀ n ∈ done, SegmentOf kind n) (h : SegmentOf kind t) :
    ∀ n ∈ Read.add kind done t, SegmentOf kind n := by
  intro n hn
  unfold Read.add at hn
  split at hn
  · rename_i hdrive
    rw [Bool.and_eq_true] at hdrive
    rw [List.mem_singleton.mp hn]
    exact segmentOf_drive h.plain hdrive.2
  · rcases List.mem_append.mp hn with hn | hn
    · exact hdone n hn
    · rw [List.mem_singleton.mp hn]
      exact h

theorem segmentOf_concat (hdone : ∀ n ∈ done, SegmentOf kind n) :
    ∀ n ∈ done ++ [""], SegmentOf kind n := by
  intro n hn
  rcases List.mem_append.mp hn with hn | hn
  · exact hdone n hn
  · rw [List.mem_singleton.mp hn]
    exact segmentOf_empty

theorem segmentOf_takeBack (hdone : ∀ n ∈ done, SegmentOf kind n) :
    ∀ n ∈ Read.takeBack done, SegmentOf kind n := fun n hn => hdone n (mem_takeBack hn)

/-- Walking over parts of a path leaves segments. -/
theorem segmentOf_walk (hdone : ∀ n ∈ done, SegmentOf kind n) (h : ∀ n ∈ names, PartOf kind n) :
    ∀ n ∈ Read.walk kind done names, SegmentOf kind n := by
  -- The segments so far are well-formed all along: going back only takes some of them away.
  induction names generalizing done with
  | nil => exact hdone
  | cons t names ih =>
    have hrest {done : List String} (hdone : ∀ n ∈ done, SegmentOf kind n) :=
      ih hdone fun n hn => h n (List.mem_cons_of_mem _ hn)
    have hpart := h t List.mem_cons_self
    cases names with
    | nil =>
      rw [Read.walk]
      split
      · exact segmentOf_concat (segmentOf_takeBack hdone)
      · rename_i hdouble
        split
        · exact segmentOf_concat hdone
        · rename_i hsingle
          exact segmentOf_add hdone
            ⟨hpart, Bool.eq_false_iff.mpr hsingle, Bool.eq_false_iff.mpr hdouble⟩
    | cons t' names =>
      rw [Read.walk]
      · split
        · exact hrest (segmentOf_takeBack hdone)
        · rename_i hdouble
          split
          · exact hrest hdone
          · rename_i hsingle
            exact hrest (segmentOf_add hdone
              ⟨hpart, Bool.eq_false_iff.mpr hsingle, Bool.eq_false_iff.mpr hdouble⟩)
      · exact List.cons_ne_nil _ _

theorem add_ne_nil : Read.add kind done t ≠ [] := by
  unfold Read.add
  split
  · exact List.cons_ne_nil _ _
  · exact List.append_ne_nil_of_right_ne_nil _ (List.cons_ne_nil _ _)

theorem walk_ne_nil (h : names ≠ []) : Read.walk kind done names ≠ [] := by
  induction names generalizing done with
  | nil => exact absurd rfl h
  | cons t names ih =>
    cases names with
    | nil =>
      rw [Read.walk]
      split
      · simp
      · split
        · simp
        · exact add_ne_nil
    | cons t' names =>
      have hrest {done : List String} : Read.walk kind done (t' :: names) ≠ [] :=
        ih (List.cons_ne_nil _ _)
      rw [Read.walk]
      · split
        · exact hrest
        · split
          · exact hrest
          · exact hrest
      · exact List.cons_ne_nil _ _

/-- Segments are walked over without a change; of a file, they do not begin with a drive. -/
theorem walk_self (h : ∀ n ∈ names, SegmentOf kind n)
    (hdrive : kind = .file → done = [] → ∀ n ∈ names.head?, Read.isDrive n = false) :
    Read.walk kind done names = done ++ names := by
  induction names generalizing done with
  | nil => exact (List.append_nil done).symm
  | cons t names ih =>
    have ht := h t List.mem_cons_self
    have hadd : Read.add kind done t = done ++ [t] := by
      unfold Read.add
      split
      · rename_i hd
        simp only [Bool.and_eq_true, decide_eq_true_eq, List.isEmpty_iff] at hd
        rw [hdrive hd.1.1 hd.1.2 t rfl] at hd
        cases hd.2
      · rfl
    have hrest := @ih (done ++ [t]) (fun n hn => h n (List.mem_cons_of_mem _ hn))
      fun _ he => absurd he (by simp)
    cases names with
    | nil =>
      rw [Read.walk, ht.double, ht.single]
      exact hadd
    | cons t' names =>
      rw [Read.walk, ht.double, ht.single]
      · simp only [Bool.false_eq_true, if_false, hadd]
        rw [hrest, List.append_assoc, List.singleton_append]
      · exact List.cons_ne_nil _ _

/-! Paths. -/

theorem partOf_encodePath (h : ∀ c ∈ s, Read.isSlash kind c = false) :
    PartOf kind (Read.encodePath s) := by
  have hp : Read.isSlash kind '%' = false := by cases kind <;> decide
  have hd : ∀ n, n < 16 → (Percent.hexDigit n).toNat < 128 ∧
      keepsPath (Percent.hexDigit n) = true ∧ Read.isSlash kind (Percent.hexDigit n) = false := by
    cases kind <;> decide +kernel
  rw [PartOf, Read.encodePath, String.toList_ofList]
  exact Percent.forall_mem_encode (fun c hc hascii hk => ⟨hascii, hk, h c hc⟩)
    ⟨by decide, by decide, hp⟩ hd

theorem segmentOf_segments (s : List Char) : ∀ n ∈ Read.segments kind s, SegmentOf kind n := by
  refine segmentOf_walk (fun _ hn => nomatch hn) fun n hn => ?_
  obtain ⟨part, hpart, rfl⟩ := List.mem_map.mp hn
  exact partOf_encodePath fun c hc => (Text.of_mem_splitOnP hpart c hc).2

theorem segments_ne_nil (s : List Char) : Read.segments kind s ≠ [] := by
  refine walk_ne_nil fun he => ?_
  exact List.splitOnP_ne_nil _ _ (List.map_eq_nil_iff.mp he)

theorem dropEmptyFront_cases (names : List String) :
    Fronted names ∧ Read.dropEmptyFront names = names ∨
      ∃ t rest, names = "" :: t :: rest ∧
        Read.dropEmptyFront names = Read.dropEmptyFront (t :: rest) := by
  by_cases hf : ∃ t rest, names = "" :: t :: rest
  · obtain ⟨t, rest, rfl⟩ := hf
    exact .inr ⟨t, rest, rfl, by rw [Read.dropEmptyFront]⟩
  · refine .inl ⟨fun hhead => ?_, ?_⟩
    · obtain ⟨rest, rfl⟩ := List.head?_eq_some_iff.mp hhead
      cases rest with
      | nil => rfl
      | cons t rest => exact absurd ⟨t, rest, rfl⟩ hf
    · rw [Read.dropEmptyFront]
      exact fun t rest he => hf ⟨t, rest, he⟩

theorem mem_dropEmptyFront (h : n ∈ Read.dropEmptyFront names) : n ∈ names := by
  induction names with
  | nil => exact h
  | cons t names ih =>
    rcases dropEmptyFront_cases (t :: names) with ⟨-, he⟩ | ⟨t', rest, hcons, he⟩
    · rwa [he] at h
    · cases hcons
      rw [he] at h
      exact List.mem_cons_of_mem _ (ih h)

theorem dropEmptyFront_spec (h : names ≠ []) :
    Read.dropEmptyFront names ≠ [] ∧ Fronted (Read.dropEmptyFront names) := by
  induction names with
  | nil => exact absurd rfl h
  | cons t names ih =>
    rcases dropEmptyFront_cases (t :: names) with ⟨hfront, he⟩ | ⟨t', rest, hcons, he⟩
    · rw [he]
      exact ⟨h, hfront⟩
    · cases hcons
      rw [he]
      exact ih (List.cons_ne_nil _ _)

theorem dropEmptyFront_self (h : Fronted names) : Read.dropEmptyFront names = names := by
  rcases dropEmptyFront_cases names with ⟨-, he⟩ | ⟨t, rest, rfl, -⟩
  · exact he
  · cases h rfl

/-- The segments of a path as reading leaves them. -/
structure PathOf (kind : Kind) (names : List String) : Prop where
  segments : ∀ n ∈ names, SegmentOf kind n
  nonempty : kind ≠ .other → names ≠ []
  fronted : kind = .file → Fronted names

theorem pathOf_path (kind : Kind) (s : List Char) : ∃ names, Read.path kind s = .segments names ∧
    PathOf kind names ∧ (s ≠ [] → names ≠ []) := by
  have hsegments : ∀ n ∈ Read.segments kind (Read.dropSlash kind s), SegmentOf kind n :=
    segmentOf_segments _
  have hne : Read.segments kind (Read.dropSlash kind s) ≠ [] := segments_ne_nil _
  unfold Read.path
  cases kind with
  | special => exact ⟨_, rfl, ⟨hsegments, fun _ => hne, fun he => nomatch he⟩, fun _ => hne⟩
  | file =>
    obtain ⟨hne, hfront⟩ := dropEmptyFront_spec hne
    exact ⟨_, rfl, ⟨fun n hn => hsegments n (mem_dropEmptyFront hn), fun _ => hne, fun _ => hfront⟩,
      fun _ => hne⟩
  | other =>
    simp only
    split
    · rename_i hs
      exact ⟨[], rfl, ⟨(fun n hn => nomatch hn), fun he => absurd rfl he, fun he => nomatch he⟩,
        fun h => absurd hs h⟩
    · exact ⟨_, rfl, ⟨hsegments, fun he => absurd rfl he, fun he => nomatch he⟩, fun _ => hne⟩

theorem encodePath_self (h : PartOf kind n) : Read.encodePath n.toList = n := by
  rw [Read.encodePath, Percent.encode_kept, String.ofList_toList]
  exact fun c hc => ⟨(h c hc).1, (h c hc).2.1⟩

theorem segments_self (hne : names ≠ []) (h : ∀ n ∈ names, SegmentOf kind n)
    (hdrive : kind = .file → ∀ n ∈ names.head?, Read.isDrive n = false) :
    Read.segments kind (Read.dropSlash kind (Path.text (.segments names)).toList) = names := by
  have hmark : Read.isSlash kind '/' = true := by cases kind <;> decide
  cases names with
  | nil => exact absurd rfl hne
  | cons n names =>
    have hplain : ∀ m ∈ n :: names, ∀ c ∈ m.toList, Read.isSlash kind c = false :=
      fun m hm c hc => ((h m hm).plain c hc).2.2
    have hsplit := splitOnP_slashes hmark (hplain n List.mem_cons_self)
      fun m hm => hplain m (List.mem_cons_of_mem _ hm)
    have hdrop : Read.dropSlash kind (Path.text (.segments (n :: names))).toList =
        n.toList ++ names.flatMap fun m => '/' :: m.toList := by
      rw [toList_text, List.flatMap_cons, List.cons_append, Read.dropSlash, if_pos hmark]
    have hencode : ((n.toList :: names.map String.toList).map Read.encodePath) = n :: names := by
      rw [← List.map_cons, List.map_map]
      refine (List.map_congr_left ?_).trans (List.map_id _)
      exact fun m hm => encodePath_self (h m hm).plain
    rw [Read.segments, hdrop, hsplit, hencode, walk_self h fun hk _ => hdrive hk, List.nil_append]

/-- A path is read from its text. -/
theorem PathOf.read (h : PathOf kind names)
    (hdrive : kind = .file → ∀ n ∈ names.head?, Read.isDrive n = false) :
    Read.path kind (Path.text (.segments names)).toList = .segments names := by
  have hself (hne : names ≠ []) := segments_self hne h.segments hdrive
  unfold Read.path
  cases kind with
  | special => simp only [hself (h.nonempty (by decide))]
  | file => simp only [hself (h.nonempty (by decide)), dropEmptyFront_self (h.fronted rfl)]
  | other =>
    cases names with
    | nil => rfl
    | cons n names =>
      have hne : (Path.text (.segments (n :: names))).toList ≠ [] := by
        rw [toList_text, List.flatMap_cons]
        exact List.cons_ne_nil _ _
      simp only [if_neg hne, hself (List.cons_ne_nil _ _)]

theorem spec_of_keepsPath (hc : c.toNat < 128) (h : keepsPath c = true) :
    Read.isEdge c = false ∧ Read.isTail c = false :=
  Text.of_ascii hc (by decide +kernel) h

theorem plain_of_path (h : ∀ n ∈ names, SegmentOf kind n) :
    ∀ c ∈ (Path.text (.segments names)).toList, Read.isEdge c = false ∧ Read.isTail c = false := by
  intro c hc
  rw [toList_text] at hc
  obtain ⟨n, hn, hc⟩ := List.mem_flatMap.mp hc
  rcases List.mem_cons.mp hc with rfl | hc
  · decide
  · obtain ⟨hascii, hk, -⟩ := (h n hn).plain c hc
    exact spec_of_keepsPath hascii hk

/-! Queries and fragments. -/

/-- The query and the fragment of a URL, after their marks. -/
def tailText (query fragment : Option String) : List Char :=
  (marked "?" query ++ marked "#" fragment).toList

theorem toList_marked (mark : String) (v : String) :
    (marked mark (some v)).toList = mark.toList ++ v.toList := String.toList_append

theorem tailText_some (q : String) (fragment : Option String) :
    tailText (some q) fragment = '?' :: (q.toList ++ tailText none fragment) := by
  rw [tailText, String.toList_append, toList_marked]
  rfl

theorem tailText_fragment (f : String) : tailText none (some f) = '#' :: f.toList := by
  rw [tailText, String.toList_append, toList_marked]
  rfl

theorem halts_tailText : Halts (!Read.isTail ·) (tailText query fragment) := by
  cases query with
  | some q =>
    rw [tailText_some]
    exact halts_cons.mpr (by decide)
  | none =>
    cases fragment with
    | some f =>
      rw [tailText_fragment]
      exact halts_cons.mpr (by decide)
    | none => exact .nil

/-- The query and the fragment of a URL as reading leaves them. -/
structure TailOf (kind : Kind) (query fragment : Option String) : Prop where
  query : ∀ q, query = some q → KeptBy (keepsQuery (kind ≠ .other)) q
  fragment : ∀ f, fragment = some f → KeptBy keepsFragment f

theorem tailOf_tail (kind : Kind) (s : List Char) :
    TailOf kind (Read.tail kind s).1 (Read.tail kind s).2 := by
  have hquery : ∀ s, KeptBy (keepsQuery (kind ≠ .other))
      (String.ofList (Percent.encode (keepsQuery (kind ≠ .other)) s)) :=
    keptBy_encode (by cases kind <;> decide) (by cases kind <;> decide +kernel)
  have hfragment : ∀ s, KeptBy keepsFragment (String.ofList (Percent.encode keepsFragment s)) :=
    keptBy_encode (by decide) (by decide +kernel)
  unfold Read.tail
  split
  · simp only
    split
    · constructor
      · rintro q ⟨⟩
        exact hquery _
      · rintro f ⟨⟩
        exact hfragment _
    · constructor
      · rintro q ⟨⟩
        exact hquery _
      · rintro f ⟨⟩
  · constructor
    · rintro q ⟨⟩
    · rintro f ⟨⟩
      exact hfragment _
  · constructor
    · rintro q ⟨⟩
    · rintro f ⟨⟩

theorem spec_of_keepsQuery {special : Bool} (hc : c.toNat < 128) (h : keepsQuery special c = true) :
    Read.isEdge c = false ∧ c ≠ '#' :=
  Text.of_ascii hc (by cases special <;> decide +kernel) h

theorem isEdge_of_keepsFragment (hc : c.toNat < 128) (h : keepsFragment c = true) :
    Read.isEdge c = false :=
  Text.of_ascii hc (by decide +kernel) h

/-- A query and a fragment are read from their texts. -/
theorem TailOf.read (h : TailOf kind query fragment) :
    Read.tail kind (tailText query fragment) = (query, fragment) := by
  cases query with
  | none =>
    cases fragment with
    | none => rfl
    | some f =>
      rw [tailText_fragment]
      exact congrArg (fun f => (none, some f)) (h.fragment f rfl).encode
  | some q =>
    have hmark : ∀ c ∈ q.toList, decide (c ≠ '#') = true := fun c hc =>
      decide_eq_true (spec_of_keepsQuery (h.query q rfl c hc).1 (h.query q rfl c hc).2).2
    have halts : Halts (fun c => decide (c ≠ '#')) (tailText none fragment) := by
      cases fragment with
      | none => exact .nil
      | some f =>
        rw [tailText_fragment]
        exact halts_cons.mpr (by decide)
    rw [tailText_some]
    unfold Read.tail
    simp only [takeWhile_run hmark halts, dropWhile_run hmark halts, (h.query q rfl).encode]
    cases fragment with
    | none => rfl
    | some f =>
      rw [tailText_fragment]
      exact congrArg (fun f => (some q, some f)) (h.fragment f rfl).encode

theorem TailOf.plain (h : TailOf kind query fragment) :
    ∀ c ∈ tailText query fragment, Read.isEdge c = false := by
  have hfragment : ∀ c ∈ tailText none fragment, Read.isEdge c = false := by
    intro c hc
    cases fragment with
    | none => cases hc
    | some f =>
      rw [tailText_fragment] at hc
      rcases List.mem_cons.mp hc with rfl | hc
      · decide
      · exact isEdge_of_keepsFragment (h.fragment f rfl c hc).1 (h.fragment f rfl c hc).2
  intro c hc
  cases query with
  | none => exact hfragment c hc
  | some q =>
    rw [tailText_some] at hc
    rcases List.mem_cons.mp hc with rfl | hc
    · decide
    · rcases List.mem_append.mp hc with hc | hc
      · exact (spec_of_keepsQuery (h.query q rfl c hc).1 (h.query q rfl c hc).2).1
      · exact hfragment c hc

end CloudEmulation.Url
