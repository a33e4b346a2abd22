import CloudEmulation.Emulation.Template
import CloudEmulation.Proofs.Url.Query
import CloudEmulation.Url.Segments
/-!
A path that was grown from texts is split into those texts again, whatever characters they have. What
is ignored in a text does not matter, and texts that stand for no segment leave the path shorter.
-/

namespace CloudEmulation

open PathTemplate (decodeSegment?)

theorem PathTemplate.decodeSegment?_encode {keep : Char → Bool} (hk : keep '%' = false)
    (s : String) : decodeSegment? (String.ofList (Percent.encode keep s.toList)) = some s := by
  have hd := Percent.decodeBytes_encode hk s.toList []
  rw [List.append_nil, Percent.decodeBytes, List.append_nil] at hd
  rw [decodeSegment?, String.toList_ofList, Percent.decode, hd, Utf8.decode?_encode,
    Option.map_some, String.ofList_toList]

theorem PathTemplate.decodeSegment?_eq_some {s value : String} :
    decodeSegment? s = some value ↔ Utf8.decode? (Percent.decode s.toList) = some value.toList := by
  rw [decodeSegment?, Option.map_eq_some_iff]
  constructor
  · rintro ⟨cs, hcs, rfl⟩
    rw [hcs, String.toList_ofList]
  · exact fun h => ⟨value.toList, h, String.ofList_toList⟩

/-- Texts that stand as they are for one segment of a path. -/
structure Url.Argument (s : String) : Prop where
  nonempty : s ≠ ""
  single : s ≠ "."
  double : s ≠ ".."
  plain : ∀ c ∈ s.toList, Url.Read.isIgnored c = false

namespace Url

variable {s : String} {special : Bool} {kind : Kind} {names segments : List String} {u : Url}

theorem argument_iff : Argument s ↔
    s ≠ "" ∧ s ≠ "." ∧ s ≠ ".." ∧ s.toList.all (!Read.isIgnored ·) = true := by
  have hplain : s.toList.all (!Read.isIgnored ·) = true ↔
      ∀ c ∈ s.toList, Read.isIgnored c = false := by
    simp only [List.all_eq_true, Bool.not_eq_true']
  rw [hplain]
  constructor
  · rintro ⟨hempty, hsingle, hdouble, hplain⟩
    exact ⟨hempty, hsingle, hdouble, hplain⟩
  · rintro ⟨hempty, hsingle, hdouble, hplain⟩
    exact ⟨hempty, hsingle, hdouble, hplain⟩

instance (s : String) : Decidable (Argument s) := decidable_of_iff' _ argument_iff

/-- A text as one segment of a path. -/
def segmentText (special : Bool) (s : String) : String :=
  String.ofList (Percent.encode (keepsSegment special) s.toList)

/-- A text without the characters that no URL keeps. -/
def stripped (s : String) : String := String.ofList (s.toList.filter (!Read.isIgnored ·))

theorem stripped_of_argument (h : Argument s) : stripped s = s := by
  have hkept : s.toList.filter (!Read.isIgnored ·) = s.toList := by
    refine List.filter_eq_self.mpr fun c hc => ?_
    rw [h.plain c hc]
    rfl
  rw [stripped, hkept, String.ofList_toList]

theorem decodeSegment?_segmentText (special : Bool) (s : String) :
    decodeSegment? (segmentText special s) = some s :=
  PathTemplate.decodeSegment?_encode (by cases special <;> decide) s

theorem slash_notMem_segmentText (special : Bool) (s : String) :
    '/' ∉ (segmentText special s).toList := by
  have hk : keepsSegment special '/' = false := by cases special <;> decide
  have hkept : ∀ c ∈ s.toList, c.toNat < 128 → keepsSegment special c = true → c ≠ '/' := by
    rintro c - - hc rfl
    rw [hk] at hc
    cases hc
  rw [segmentText, String.toList_ofList]
  exact fun h => Percent.forall_mem_encode hkept (by decide) (by decide) '/' h rfl

theorem segmentText_ne (h : s ≠ "") : segmentText special s ≠ "" := by
  intro he
  have hd := decodeSegment?_segmentText special s
  rw [he] at hd
  have hempty : decodeSegment? "" = some "" := by decide +kernel
  rw [hempty] at hd
  exact h (Option.some.inj hd).symm

/-- What stands for a dot or for two dots is read as no segment. -/
theorem not_dots_of_decode {n : String} (h : Argument s) (hd : decodeSegment? n = some s) :
    Read.isSingleDot n = false ∧ Read.isDoubleDot n = false := by
  have hsingle : ∀ t ∈ [".", "%2e", "%2E"], decodeSegment? t = some "." := by decide +kernel
  have hdouble : ∀ t ∈ ["..", "%2e%2e", "%2e%2E", "%2E%2e", "%2E%2E", "%2e.", "%2E.", ".%2e",
      ".%2E"], decodeSegment? t = some ".." := by decide +kernel
  constructor
  · refine decide_eq_false fun hm => ?_
    rw [hsingle _ hm] at hd
    exact h.single (Option.some.inj hd).symm
  · refine decide_eq_false fun hm => ?_
    rw [hdouble _ hm] at hd
    exact h.double (Option.some.inj hd).symm

/-- What is read as a dot or two dots was written from them. -/
theorem not_dots (h : Argument s) : Read.isSingleDot (segmentText special s) = false ∧
    Read.isDoubleDot (segmentText special s) = false :=
  not_dots_of_decode h (decodeSegment?_segmentText special s)

/-! Growing a path. -/

theorem push_eq (hs : ¬(s = "." ∨ s = "..")) :
    Segments.push kind names s = Read.walk kind (if names = [""] then [] else names)
      [segmentText (kind ≠ .other) (stripped s)] := by
  rw [Segments.push, if_neg hs]
  simp only [segmentText, stripped, String.toList_ofList]

theorem walk_last (hk : kind ≠ .file) (done : List String) (name : String) :
    Read.walk kind done [name] =
      if Read.isDoubleDot name then Read.takeBack done ++ [""]
      else if Read.isSingleDot name then done ++ [""]
      else done ++ [name] := by
  have hfile : (kind = .file && done.isEmpty && Read.isDrive name) = false := by
    rw [decide_eq_false hk]
    rfl
  rw [Read.walk, Read.add, hfile]
  rfl

theorem push_of_stripped (h : Argument (stripped s)) (hk : kind ≠ .file) :
    Segments.push kind names s =
      (if names = [""] then [] else names) ++ [segmentText (kind ≠ .other) (stripped s)] := by
  have hdots : ¬(s = "." ∨ s = "..") := by
    rintro (rfl | rfl)
    · exact h.single rfl
    · exact h.double rfl
  rw [push_eq hdots, walk_last hk, (not_dots h).1, (not_dots h).2]
  rfl

theorem push_of_argument (h : Argument s) (hk : kind ≠ .file) :
    Segments.push kind names s =
      (if names = [""] then [] else names) ++ [segmentText (kind ≠ .other) s] := by
  have hs := stripped_of_argument h
  have hpush : Segments.push kind names s = _ := push_of_stripped (hs.symm ▸ h) hk
  rwa [hs] at hpush

theorem takeBack_sublist (done : List String) : (Read.takeBack done).Sublist done := by
  unfold Read.takeBack
  split
  · exact List.Sublist.refl _
  · exact List.dropLast_sublist _

theorem mem_takeBack {done : List String} {n : String} (h : n ∈ Read.takeBack done) : n ∈ done :=
  (takeBack_sublist done).subset h

theorem mem_push (hk : kind ≠ .file) {n : String} (h : n ∈ Segments.push kind names s) :
    n ∈ names ∨ n = "" ∨ n = segmentText (kind ≠ .other) (stripped s) := by
  have hstart : ∀ m ∈ (if names = [""] then [] else names), m ∈ names := by
    intro m hm
    split at hm
    · cases hm
    · exact hm
  by_cases hdots : s = "." ∨ s = ".."
  · rw [Segments.push, if_pos hdots] at h
    exact .inl h
  · rw [push_eq hdots, walk_last hk] at h
    split at h
    · obtain hm | hm := List.mem_append.mp h
      · exact .inl (hstart n (mem_takeBack hm))
      · exact .inr (.inl (List.mem_singleton.mp hm))
    · split at h
      · obtain hm | hm := List.mem_append.mp h
        · exact .inl (hstart n hm)
        · exact .inr (.inl (List.mem_singleton.mp hm))
      · obtain hm | hm := List.mem_append.mp h
        · exact .inl (hstart n hm)
        · exact .inr (.inr (List.mem_singleton.mp hm))

/-- The segments that are not empty. -/
theorem foldl_push (hs : ∀ s ∈ segments, Argument s) (hk : kind ≠ .file) :
    (segments.foldl (Segments.push kind) names).filter (· ≠ "") =
      names.filter (· ≠ "") ++ segments.map (segmentText (kind ≠ .other)) := by
  induction segments generalizing names with
  | nil => rw [List.foldl_nil, List.map_nil, List.append_nil]
  | cons s segments ih =>
    have hstart : (if names = [""] then [] else names).filter (· ≠ "") =
        names.filter (· ≠ "") := by
      split
      · rename_i h
        rw [h]
        rfl
      · rfl
    have hlast : [segmentText (kind ≠ .other) s].filter (· ≠ "") =
        [segmentText (kind ≠ .other) s] :=
      List.filter_eq_self.mpr fun t ht => by
        rw [List.mem_singleton.mp ht]
        exact decide_eq_true (segmentText_ne (hs s List.mem_cons_self).nonempty)
    rw [List.foldl_cons, ih fun t ht => hs t (List.mem_cons_of_mem _ ht),
      push_of_argument (hs s List.mem_cons_self) hk, List.filter_append, hstart, hlast,
      List.append_assoc, List.map_cons, List.singleton_append]

theorem slash_notMem_push (hk : kind ≠ .file) (hn : ∀ n ∈ names, '/' ∉ n.toList) :
    ∀ n ∈ segments.foldl (Segments.push kind) names, '/' ∉ n.toList := by
  induction segments generalizing names with
  | nil => exact hn
  | cons s segments ih =>
    refine ih fun n hmem => ?_
    rcases mem_push hk hmem with hmem | rfl | rfl
    · exact hn n hmem
    · decide
    · exact slash_notMem_segmentText _ _

/-! Splitting a path. -/

theorem splitOnP_slashes {p : Char → Bool} (hp : p '/' = true) {cs : List Char}
    (hc : ∀ c ∈ cs, p c = false) (hn : ∀ n ∈ names, ∀ c ∈ n.toList, p c = false) :
    (cs ++ names.flatMap fun n => '/' :: n.toList).splitOnP p = cs :: names.map String.toList := by
  induction names generalizing cs with
  | nil =>
    rw [List.flatMap_nil, List.append_nil]
    exact List.splitOnP_eq_singleton hc
  | cons n names ih =>
    have hrest := ih (hn n List.mem_cons_self) fun m hm => hn m (List.mem_cons_of_mem _ hm)
    rw [List.flatMap_cons, List.cons_append,
      List.splitOnP_append_cons_of_forall_mem hc '/' hp, hrest, List.map_cons]

theorem toList_text (names : List String) :
    (Path.text (.segments names)).toList = names.flatMap fun n => '/' :: n.toList := by
  rw [Path.text, String.toList_join, List.flatMap_map]
  simp

theorem split_text (hn : ∀ n ∈ names, '/' ∉ n.toList) :
    PathTemplate.split (Path.text (.segments names)) = names.filter (· ≠ "") := by
  have hplain : ∀ n ∈ names, ∀ c ∈ n.toList, decide (c = '/') = false := by
    intro n hmem c hc
    refine decide_eq_false fun he => ?_
    exact hn n hmem (he ▸ hc)
  have hsplit : ([] ++ names.flatMap fun n : String => '/' :: n.toList).splitOnP (· = '/') =
      [] :: names.map String.toList := splitOnP_slashes (by simp) (by simp) hplain
  have hempty (n : String) : decide (n.toList ≠ []) = decide (n ≠ "") := by simp
  rw [PathTemplate.split, toList_text, ← List.nil_append (names.flatMap _), hsplit]
  rw [List.filter_cons_of_neg (by simp), List.filter_map, List.map_map]
  have hid : String.ofList ∘ String.toList = id := funext fun n => String.ofList_toList
  have hfilter : ((fun l : List Char => decide (l ≠ [])) ∘ String.toList) =
      fun n => decide (n ≠ "") := funext hempty
  rw [hid, hfilter, List.map_id]

/-! Whole requests. -/

/-- An endpoint whose path and query are empty. -/
structure Bare (u : Url) : Prop where
  path : ∃ names, u.path = .segments names ∧ ∀ n ∈ names, n = ""
  query : u.query = none ∨ u.query = some ""
  kind : kindOf u.scheme ≠ .file

theorem mem_dropEmptyLast {n : String} (h : n ∈ Segments.dropEmptyLast names) : n ∈ names := by
  unfold Segments.dropEmptyLast at h
  split at h
  · exact List.dropLast_subset _ h
  · exact h

/-- Below an endpoint stands what is grown from nothing. -/
theorem Bare.split_join (h : u.Bare) (segments : List String) :
    ∃ v start, u.join segments = .ok v ∧ v.query = u.query ∧ start.filter (· ≠ "") = [] ∧
      PathTemplate.split v.pathText =
        (segments.foldl (Segments.push (kindOf u.scheme)) start).filter (· ≠ "") := by
  obtain ⟨names, hpath, hnames⟩ := h.path
  have hstart : ∀ n ∈ Segments.dropEmptyLast names, n = "" := fun n hn =>
    hnames n (mem_dropEmptyLast hn)
  have hslash : ∀ n ∈ Segments.dropEmptyLast names, '/' ∉ n.toList := by
    intro n hn
    rw [hstart n hn]
    decide
  refine ⟨{ u with path := .segments (segments.foldl (Segments.push (kindOf u.scheme))
    (Segments.dropEmptyLast names)) }, Segments.dropEmptyLast names, by rw [Url.join, hpath], rfl,
    ?_, split_text (slash_notMem_push h.kind hslash)⟩
  rw [List.filter_eq_nil_iff]
  intro n hn
  simp [hstart n hn]

/-- The segments below an endpoint are told apart by the router. -/
theorem Bare.join (h : u.Bare) (hs : ∀ s ∈ segments, Argument s) :
    ∃ v special, u.join segments = .ok v ∧ v.query = u.query ∧
      PathTemplate.split v.pathText = segments.map (segmentText special) := by
  obtain ⟨v, start, hjoin, hquery, hstart, hsplit⟩ := h.split_join segments
  refine ⟨v, kindOf u.scheme ≠ .other, hjoin, hquery, ?_⟩
  rw [hsplit, foldl_push hs h.kind, hstart, List.nil_append]

theorem Bare.queryPairs (h : u.Bare) {v : Url} (hv : v.query = u.query) : v.queryPairs = [] := by
  rw [Url.queryPairs, hv]
  obtain hq | hq := h.query
  · rw [hq]
  · rw [hq]
    rfl

theorem Bare.appendPairs_eq (h : u.Bare) {v : Url} (hv : v.query = u.query) (pairs : Pairs) :
    v.appendPairs pairs = v.withPairs pairs := by
  rw [Url.appendPairs, hv]
  obtain hq | hq := h.query
  · rw [hq]
    rfl
  · rw [hq]
    rfl

theorem Bare.appendPairs (h : u.Bare) {v : Url} (hv : v.query = u.query) (pairs : Pairs) :
    (v.appendPairs pairs).queryPairs = pairs := by
  rw [h.appendPairs_eq hv]
  exact Query.decode_encode pairs

/-! Paths that are grown from any texts. -/

theorem not_argument_iff : ¬Argument (stripped s) ↔ stripped s ∈ ["", ".", ".."] := by
  have hplain : ∀ c ∈ (stripped s).toList, Read.isIgnored c = false := by
    intro c hc
    rw [stripped, String.toList_ofList] at hc
    have hk := (List.mem_filter.mp hc).2
    rwa [Bool.not_eq_true'] at hk
  simp only [List.mem_cons, List.not_mem_nil, or_false]
  constructor
  · intro h
    by_cases hempty : stripped s = ""
    · exact .inl hempty
    · by_cases hsingle : stripped s = "."
      · exact .inr (.inl hsingle)
      · by_cases hdouble : stripped s = ".."
        · exact .inr (.inr hdouble)
        · exact absurd ⟨hempty, hsingle, hdouble, hplain⟩ h
  · rintro h ⟨hempty, hsingle, hdouble, -⟩
    rcases h with h | h | h
    · exact hempty h
    · exact hsingle h
    · exact hdouble h

theorem push_stripped (h : Argument (stripped s)) (hk : kind ≠ .file) :
    Segments.push kind names (stripped s) = Segments.push kind names s := by
  rw [push_of_stripped h hk, push_of_argument h hk]

theorem join_stripped (h : ∀ s ∈ segments, Argument (stripped s)) (hk : kindOf u.scheme ≠ .file) :
    u.join (segments.map stripped) = u.join segments := by
  have hfold (names : List String) :
      (segments.map stripped).foldl (Segments.push (kindOf u.scheme)) names =
        segments.foldl (Segments.push (kindOf u.scheme)) names := by
    induction segments generalizing names with
    | nil => rfl
    | cons s segments ih =>
      rw [List.map_cons, List.foldl_cons, List.foldl_cons,
        push_stripped (h s List.mem_cons_self) hk, ih fun t ht => h t (List.mem_cons_of_mem _ ht)]
  unfold join
  cases u.path with
  | whole text => rfl
  | segments names => simp only [hfold]

theorem Bare.join_of_stripped (h : u.Bare) (hs : ∀ s ∈ segments, Argument (stripped s)) :
    ∃ v special, u.join segments = .ok v ∧ v.query = u.query ∧
      PathTemplate.split v.pathText = (segments.map stripped).map (segmentText special) := by
  have harguments : ∀ s ∈ segments.map stripped, Argument s := by
    intro s hmem
    obtain ⟨t, ht, rfl⟩ := List.mem_map.mp hmem
    exact hs t ht
  rw [← join_stripped hs h.kind]
  exact h.join harguments

/-! How long a path is. -/

/-- The number of the segments that are not empty. -/
def solid (names : List String) : Nat := (names.filter (· ≠ "")).length

theorem solid_append (names more : List String) :
    solid (names ++ more) = solid names + solid more := by
  rw [solid, List.filter_append, List.length_append]
  rfl

theorem solid_start (names : List String) :
    solid (if names = [""] then [] else names) = solid names := by
  split
  · rename_i h
    rw [h]
    rfl
  · rfl

theorem solid_takeBack_le (names : List String) : solid (Read.takeBack names) ≤ solid names :=
  ((takeBack_sublist names).filter _).length_le

/-- What stands for no segment does not make a path longer. -/
theorem solid_push_le_of_not (hk : kind ≠ .file) (h : ¬Argument (stripped s)) :
    solid (Segments.push kind names s) ≤ solid names := by
  have hname : ∀ special, ∀ t ∈ ["", ".", ".."], segmentText special t = t := by decide +kernel
  have hempty (start : List String) : solid (start ++ [""]) = solid start := solid_append start [""]
  by_cases hdots : s = "." ∨ s = ".."
  · have hpush : Segments.push kind names s = names := if_pos hdots
    exact Nat.le_of_eq (congrArg solid hpush)
  · have ht := not_argument_iff.mp h
    rw [push_eq hdots, walk_last hk, hname _ _ ht]
    simp only [List.mem_cons, List.not_mem_nil, or_false] at ht
    generalize hstart : (if names = [""] then [] else names) = start
    have hle : solid start ≤ solid names := Nat.le_of_eq (hstart ▸ solid_start names)
    rcases ht with ht | ht | ht
    · rw [ht, if_neg (by decide), if_neg (by decide), hempty]
      exact hle
    · rw [ht, if_neg (by decide), if_pos (by decide), hempty]
      exact hle
    · rw [ht, if_pos (by decide), hempty]
      exact Nat.le_trans (solid_takeBack_le start) hle

theorem solid_foldl_push_le (hk : kind ≠ .file) :
    solid (segments.foldl (Segments.push kind) names) ≤
      solid names + segments.countP (fun s => Argument (stripped s)) := by
  induction segments generalizing names with
  | nil => exact Nat.le_refl _
  | cons s segments ih =>
    rw [List.foldl_cons]
    refine Nat.le_trans ih ?_
    by_cases h : Argument (stripped s)
    · rw [List.countP_cons, if_pos (decide_eq_true h), push_of_stripped h hk, solid_append,
        solid_start]
      have hone : solid [segmentText (kind ≠ .other) (stripped s)] ≤ 1 := List.length_filter_le _ _
      omega
    · rw [List.countP_cons, if_neg (by simpa using h)]
      have hle : solid (Segments.push kind names s) ≤ solid names := solid_push_le_of_not hk h
      omega

theorem Bare.join_short (h : u.Bare) (hs : ¬∀ s ∈ segments, Argument (stripped s)) :
    ∃ v, u.join segments = .ok v ∧ v.query = u.query ∧
      (PathTemplate.split v.pathText).length < segments.length := by
  obtain ⟨v, start, hjoin, hquery, hstart, hsplit⟩ := h.split_join segments
  refine ⟨v, hjoin, hquery, ?_⟩
  have hsolid : solid start = 0 := by rw [solid, hstart, List.length_nil]
  have hle : solid (segments.foldl (Segments.push (kindOf u.scheme)) start) ≤ _ :=
    solid_foldl_push_le h.kind
  have hlt : segments.countP (fun s => Argument (stripped s)) < segments.length := by
    refine Nat.lt_of_le_of_ne List.countP_le_length ?_
    intro he
    exact hs fun s hmem => of_decide_eq_true (List.countP_eq_length.mp he s hmem)
  rw [hsplit]
  show solid _ < _
  omega

end Url

end CloudEmulation
