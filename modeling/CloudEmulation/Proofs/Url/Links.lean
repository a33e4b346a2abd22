import CloudEmulation.Proofs.Url.Reading
import Mathlib.Algebra.Order.BigOperators.Group.List
import Mathlib.Algebra.Order.Group.Nat
/-!
Links that are written without an encoding: which texts come back as the segments of their paths.
-/

namespace CloudEmulation

namespace Text

/-! Lists and texts by weight. -/

/-- What is left out of a list that weighs no more has no weight. -/
theorem eq_of_sublist_of_sum_le {α : Type} {f : α → Nat} (hf : ∀ a, 0 < f a) {l l' : List α}
    (h : l.Sublist l') (hs : (l'.map f).sum ≤ (l.map f).sum) : l = l' := by
  have hle {l l' : List α} (h : l.Sublist l') : (l.map f).sum ≤ (l'.map f).sum :=
    (h.map f).sum_le_sum fun _ _ => Nat.zero_le _
  induction h with
  | slnil => rfl
  | @cons l l' a h ih =>
    have hpos := hf a
    have hsub := hle h
    rw [List.map_cons, List.sum_cons] at hs
    omega
  | cons_cons a h ih =>
    rw [List.map_cons, List.map_cons, List.sum_cons, List.sum_cons] at hs
    rw [ih (by omega)]

theorem eq_of_sum_le {α : Type} {f g : α → Nat} {l : List α} (h : ∀ a ∈ l, f a ≤ g a)
    (hs : (l.map g).sum ≤ (l.map f).sum) : ∀ a ∈ l, f a = g a := by
  intro a ha
  by_contra hne
  have hlt := List.sum_lt_sum f g h ⟨a, ha, Nat.lt_of_le_of_ne (h a ha) hne⟩
  omega

theorem length_splitOnP (p : Char → Bool) (s : List Char) :
    (s.splitOnP p).length = s.countP p + 1 := by
  induction s with
  | nil => rfl
  | cons c s ih =>
    rw [List.splitOnP_cons_eq_if_modifyHead, List.countP_cons]
    split
    · rw [List.length_cons, ih]
    · rw [List.length_modifyHead, ih]

/-- A text is split without a loss but for the separators. -/
theorem size_splitOnP {p : Char → Bool} (hp : ∀ c, p c = true → c.utf8Size = 1)
    (s : List Char) : ((s.splitOnP p).map (Utf8.size · + 1)).sum = Utf8.size s + 1 := by
  induction s with
  | nil => rfl
  | cons c s ih =>
    rw [List.splitOnP_cons_eq_if_modifyHead, Utf8.size]
    split
    · rename_i hc
      rw [List.map_cons, List.sum_cons, ih, hp c hc, Utf8.size]
      omega
    · obtain ⟨part, parts, hs⟩ := List.exists_cons_of_ne_nil (List.splitOnP_ne_nil p s)
      rw [hs, List.map_cons, List.sum_cons] at ih
      rw [hs, List.modifyHead_cons, List.map_cons, List.sum_cons, Utf8.size]
      omega

end Text

namespace Url

open PathTemplate (decodeSegment?)
open Text (Halts halts_cons takeWhile_run dropWhile_run eq_of_sublist_of_sum_le eq_of_sum_le)

variable {s : String} {kind : Kind} {segments decoded : List String} {x : List Char}
  {scheme : String} {a : Authority} {query : Option String}

/-! Texts that stand for themselves. -/

/-- A text that, where it stands in a link as it is, is one segment of the path and stands for
itself. -/
structure Verbatim (s : String) : Prop extends Argument s where
  inner : ∀ c ∈ s.toList, Read.isSlash .special c = false ∧ Read.isTail c = false
  decoded : decodeSegment? s = some s

theorem verbatim_iff : Verbatim s ↔ Argument s ∧
    (s.toList.all fun c => !Read.isSlash .special c && !Read.isTail c) = true ∧
      decodeSegment? s = some s := by
  simp only [List.all_eq_true, Bool.and_eq_true, Bool.not_eq_true']
  exact ⟨fun h => ⟨h.toArgument, h.inner, h.decoded⟩, fun h => ⟨h.1, h.2.1, h.2.2⟩⟩

instance (s : String) : Decidable (Verbatim s) := decidable_of_iff' _ verbatim_iff

theorem decode_encodePath (q : List Char) :
    Percent.decode (Read.encodePath q).toList = Percent.decode q := by
  have hdigit : ∀ c v, Percent.hexValue? c.toNat = some v → keepsPath c = true := by
    intro c v hv
    refine Text.of_ascii (P := fun c => (Percent.hexValue? c.toNat).isSome = true →
      keepsPath c = true) (Percent.ascii_of_hexValue? hv) (by decide +kernel) ?_
    rw [hv]
    rfl
  rw [Read.encodePath, String.toList_ofList, Percent.decode_encode_kept (by decide) hdigit]

theorem decodeSegment?_encodePath (s : String) :
    decodeSegment? (Read.encodePath s.toList) = decodeSegment? s := by
  rw [decodeSegment?, decode_encodePath]
  rfl

theorem Verbatim.segmentOf (h : Verbatim s) : SegmentOf .special (Read.encodePath s.toList) := by
  obtain ⟨hsingle, hdouble⟩ :=
    not_dots_of_decode h.toArgument ((decodeSegment?_encodePath s).trans h.decoded)
  exact ⟨partOf_encodePath fun c hc => (h.inner c hc).1, hsingle, hdouble⟩

theorem Verbatim.encodePath_ne (h : Verbatim s) : Read.encodePath s.toList ≠ "" := by
  intro he
  have hd := (decodeSegment?_encodePath s).trans h.decoded
  rw [he] at hd
  have hempty : decodeSegment? "" = some "" := by decide +kernel
  exact h.nonempty (Option.some.inj (hempty.symm.trans hd)).symm

/-- The segments of such texts are told apart by the router. -/
theorem split_verbatim (h : ∀ s ∈ segments, Verbatim s) :
    PathTemplate.split (Path.text (.segments (segments.map fun s => Read.encodePath s.toList))) =
      segments.map fun s => Read.encodePath s.toList := by
  have hmem : ∀ n ∈ segments.map fun s => Read.encodePath s.toList, '/' ∉ n.toList ∧ n ≠ "" := by
    intro n hn
    obtain ⟨s, hs, rfl⟩ := List.mem_map.mp hn
    have hslash : '/' ∉ (Read.encodePath s.toList).toList := fun hc =>
      absurd ((h s hs).segmentOf.plain '/' hc).2.2 (by decide)
    exact ⟨hslash, (h s hs).encodePath_ne⟩
  rw [split_text fun n hn => (hmem n hn).1]
  exact List.filter_eq_self.mpr fun n hn => decide_eq_true (hmem n hn).2

/-! The segments of a path and the bytes that they stand for. -/

theorem size_text (names : List String) : Utf8.size (Path.text (.segments names)).toList =
    (names.map fun n => Utf8.size n.toList + 1).sum := by
  rw [toList_text]
  induction names with
  | nil => rfl
  | cons n names ih =>
    rw [List.flatMap_cons, List.cons_append, Utf8.size, Utf8.size_append, ih, List.map_cons,
      List.sum_cons]
    have hone : '/'.utf8Size = 1 := by decide
    omega

/-- Walking over segments adds nothing but empty ones. -/
theorem filter_walk_sublist (hk : kind ≠ .file) (done names : List String) :
    ((Read.walk kind done names).filter (· ≠ "")).Sublist (done ++ names) := by
  have hempty (done : List String) : ((done ++ [""]).filter (· ≠ "")).Sublist done := by
    rw [List.filter_append]
    exact (List.append_nil (done.filter _)).symm ▸ List.filter_sublist
  -- A segment is added where it stands, or it takes one away, or nothing is left of it.
  induction names generalizing done with
  | nil => exact (List.append_nil done).symm ▸ List.filter_sublist
  | cons n names ih =>
    have hback : (Read.takeBack done ++ names).Sublist (done ++ n :: names) :=
      (takeBack_sublist done).append (List.sublist_cons_self n names)
    have hdot : (done ++ names).Sublist (done ++ n :: names) :=
      (List.Sublist.refl done).append (List.sublist_cons_self n names)
    cases names with
    | nil =>
      rw [List.append_nil] at hback hdot
      rw [walk_last hk]
      split
      · exact (hempty _).trans hback
      · split
        · exact (hempty _).trans hdot
        · exact List.filter_sublist
    | cons m names =>
      have hadd : Read.add kind done n = done ++ [n] := by
        rw [Read.add, decide_eq_false hk]
        rfl
      rw [Read.walk]
      · split
        · exact (ih _).trans hback
        · split
          · exact (ih _).trans hdot
          · have hrest := ih (done ++ [n])
            rw [List.append_assoc, List.singleton_append] at hrest
            rwa [hadd]
      · exact List.cons_ne_nil _ _

theorem utf8Size_slash {c : Char} (h : Read.isSlash .special c = true) : c.utf8Size = 1 := by
  simp only [Read.isSlash, Bool.or_eq_true, decide_eq_true_eq, Bool.and_eq_true] at h
  rcases h with rfl | ⟨-, rfl⟩ <;> decide

/-- What a text stands for is no longer than the text. -/
theorem length_decode_le (q : List Char) : (Percent.decode q).length ≤ Utf8.size q := by
  rw [← Utf8.length_encode]
  rcases Percent.decodeBytes_shorter (Utf8.encode q) with he | hlt
  · exact Nat.le_of_eq (congrArg List.length he)
  · exact Nat.le_of_lt hlt

theorem decode_of_length {q : List Char} (h : (Percent.decode q).length = Utf8.size q) :
    Percent.decode q = Utf8.encode q := by
  rcases Percent.decodeBytes_shorter (Utf8.encode q) with he | hlt
  · exact he
  · rw [Utf8.length_encode] at hlt
    exact absurd h (Nat.ne_of_lt hlt)

/-- How long what a segment stands for is, with the slash before it. -/
def span (n : String) : Nat := (Percent.decode n.toList).length + 1

theorem span_encodePath (q : List Char) :
    span (Read.encodePath q) = (Percent.decode q).length + 1 := by
  rw [span, decode_encodePath]

theorem size_decoded_lt (n : String) :
    Utf8.size ((decodeSegment? n).getD "").toList + 1 ≤ span n := by
  refine Nat.succ_le_succ ?_
  cases hd : decodeSegment? n with
  | none => exact Nat.zero_le _
  | some t => exact Utf8.size_le_of_decode? (PathTemplate.decodeSegment?_eq_some.mp hd)

theorem size_text_decoded_le (hd : segments.map decodeSegment? = decoded.map some) :
    Utf8.size (Path.text (.segments decoded)).toList ≤ (segments.map span).sum := by
  have hmap : (decoded.map fun n => Utf8.size n.toList + 1) =
      segments.map fun n => Utf8.size ((decodeSegment? n).getD "").toList + 1 := by
    have h := congrArg (List.map fun t : Option String => Utf8.size (t.getD "").toList + 1) hd
    rw [List.map_map, List.map_map] at h
    exact h.symm
  rw [size_text, hmap]
  exact List.sum_le_sum fun n _ => size_decoded_lt n

theorem sum_splitOnP_slashes (x : List Char) :
    ((x.splitOnP (Read.isSlash .special)).map (Utf8.size · + 1)).sum = Utf8.size ('/' :: x) := by
  rw [Text.size_splitOnP (fun c => utf8Size_slash) x, Utf8.size, Nat.add_comm]
  rfl

/-- A part of a path that is cut out of a text, and whose segments stand for texts that are no
shorter than that text, is all of it: each piece of the text is one segment, which stands for
itself. -/
theorem pieces_of_decoded
    (hx : ('/' :: x).Sublist (Path.text (.segments segments)).toList)
    (hd : ((Read.segments .special x).filter (· ≠ "")).map decodeSegment? = decoded.map some)
    (ht : Path.text (.segments decoded) = Path.text (.segments segments)) :
    '/' :: x = (Path.text (.segments segments)).toList ∧
      (Read.segments .special x).filter (· ≠ "") =
        (x.splitOnP (Read.isSlash .special)).map Read.encodePath ∧
      ∀ q ∈ x.splitOnP (Read.isSlash .special), Percent.decode q = Utf8.encode q := by
  let parts := x.splitOnP (Read.isSlash .special)
  let solid := (Read.segments .special x).filter (· ≠ "")
  have hsub : solid.Sublist (parts.map Read.encodePath) := filter_walk_sublist (by decide) [] _
  -- From the texts to the segments, from these to the parts and on to the whole text nothing can
  -- become shorter. As the texts are no shorter than the whole one, all of them weigh the same.
  have htext : Utf8.size (Path.text (.segments segments)).toList ≤ (solid.map span).sum :=
    ht ▸ size_text_decoded_le hd
  have hsolid : (solid.map span).sum ≤ ((parts.map Read.encodePath).map span).sum :=
    (hsub.map span).sum_le_sum fun _ _ => Nat.zero_le _
  have hparts : ((parts.map Read.encodePath).map span).sum =
      (parts.map fun q => (Percent.decode q).length + 1).sum := by
    rw [List.map_map]
    exact congrArg List.sum (List.map_congr_left fun q _ => span_encodePath q)
  have hsum : (parts.map fun q => (Percent.decode q).length + 1).sum ≤
      (parts.map fun q => Utf8.size q + 1).sum :=
    List.sum_le_sum fun q _ => Nat.succ_le_succ (length_decode_le q)
  have hsplit : (parts.map fun q => Utf8.size q + 1).sum = Utf8.size ('/' :: x) :=
    sum_splitOnP_slashes x
  have hcut : Utf8.size ('/' :: x) ≤ Utf8.size (Path.text (.segments segments)).toList := by
    rw [Utf8.size_eq_sum, Utf8.size_eq_sum]
    exact (hx.map Char.utf8Size).sum_le_sum fun _ _ => Nat.zero_le _
  refine ⟨?_, ?_, ?_⟩
  · refine eq_of_sublist_of_sum_le Char.utf8Size_pos hx ?_
    rw [← Utf8.size_eq_sum, ← Utf8.size_eq_sum]
    omega
  · have hle : ((parts.map Read.encodePath).map span).sum ≤ (solid.map span).sum := by omega
    exact eq_of_sublist_of_sum_le (fun n => Nat.succ_pos _) hsub hle
  · intro q hq
    have hle : (parts.map fun q => Utf8.size q + 1).sum ≤
        (parts.map fun q => (Percent.decode q).length + 1).sum := by omega
    have he := eq_of_sum_le (fun q _ => Nat.succ_le_succ (length_decode_le q)) hle q hq
    exact decode_of_length (Nat.succ.inj he)

/-- A text of no more slashes than segments has none within a segment. -/
theorem slashless_of_count (htext : '/' :: x = (Path.text (.segments segments)).toList)
    (hcount : x.countP (Read.isSlash .special) + 1 = segments.length) :
    ∀ s ∈ segments, ∀ c ∈ s.toList, Read.isSlash .special c = false := by
  intro s hs c hc
  have hsum : (segments.map fun n => ('/' :: n.toList).countP (Read.isSlash .special)).sum =
      (segments.map fun _ => 1).sum := by
    have hall := congrArg (List.countP (Read.isSlash .special)) htext
    rw [toList_text, List.countP_flatMap, List.countP_cons_of_pos (by decide), hcount] at hall
    rw [List.map_const', List.sum_replicate_nat, Nat.mul_one]
    exact hall.symm
  have hone := eq_of_sum_le (f := fun _ => 1)
    (fun n _ => List.one_le_countP_iff.mpr ⟨'/', List.mem_cons_self, by decide⟩)
    (Nat.le_of_eq hsum) s hs
  rw [List.countP_cons_of_pos (by decide)] at hone
  have hnone : s.toList.countP (Read.isSlash .special) = 0 := by omega
  exact Bool.eq_false_iff.mpr (List.countP_eq_zero.mp hnone c hc)

theorem splitOnP_slashless (hne : segments ≠ [])
    (hslash : ∀ s ∈ segments, ∀ c ∈ s.toList, Read.isSlash .special c = false)
    (htext : '/' :: x = (Path.text (.segments segments)).toList) :
    x.splitOnP (Read.isSlash .special) = segments.map String.toList := by
  cases segments with
  | nil => exact absurd rfl hne
  | cons s segments =>
    rw [toList_text, List.flatMap_cons, List.cons_append] at htext
    rw [(List.cons.inj htext).2]
    exact splitOnP_slashes (by decide) (hslash s List.mem_cons_self)
      fun t ht => hslash t (List.mem_cons_of_mem _ ht)

/-- Where the segments of a path that is cut out of a text stand for as many texts that make up the
same text, what the text was made of stands for itself. -/
theorem verbatim_of_decoded (hne : segments ≠ [])
    (hx : ('/' :: x).Sublist (Path.text (.segments segments)).toList)
    (hplain : ∀ c ∈ x, Read.isTail c = false ∧ Read.isIgnored c = false)
    (hd : ((Read.segments .special x).filter (· ≠ "")).map decodeSegment? = decoded.map some)
    (ht : Path.text (.segments decoded) = Path.text (.segments segments))
    (hl : decoded.length = segments.length) :
    '/' :: x = (Path.text (.segments segments)).toList ∧ ∀ s ∈ segments, Verbatim s := by
  obtain ⟨htext, hsolid, hself⟩ := pieces_of_decoded hx hd ht
  refine ⟨htext, fun s hs => ?_⟩
  have hcount : x.countP (Read.isSlash .special) + 1 = segments.length := by
    have hlength := congrArg List.length hd
    rw [hsolid, List.length_map, List.length_map, List.length_map, Text.length_splitOnP] at hlength
    omega
  have hslash := slashless_of_count htext hcount
  have hpart : s.toList ∈ x.splitOnP (Read.isSlash .special) :=
    splitOnP_slashless hne hslash htext ▸ List.mem_map_of_mem hs
  obtain ⟨hmem, hnonempty⟩ : Read.encodePath s.toList ∈ Read.segments .special x ∧
      Read.encodePath s.toList ≠ "" := by
    have hsegment := List.mem_map_of_mem (f := Read.encodePath) hpart
    rw [← hsolid] at hsegment
    exact (List.mem_filter.mp hsegment).imp_right of_decide_eq_true
  have hdots : SegmentOf .special (Read.encodePath s.toList) := segmentOf_segments x _ hmem
  have hinner : ∀ c ∈ s.toList, c ∈ x := by
    intro c hc
    have hmem : c ∈ '/' :: x := by
      rw [htext, toList_text]
      exact List.mem_flatMap.mpr ⟨s, hs, List.mem_cons_of_mem _ hc⟩
    rcases List.mem_cons.mp hmem with rfl | hmem
    · exact absurd (hslash s hs _ hc) (by decide)
    · exact hmem
  refine ⟨⟨?_, ?_, ?_, fun c hc => (hplain c (hinner c hc)).2⟩,
    fun c hc => ⟨hslash s hs c hc, (hplain c (hinner c hc)).1⟩, ?_⟩
  · rintro rfl
    exact hnonempty rfl
  · rintro rfl
    exact absurd hdots.single (by decide)
  · rintro rfl
    exact absurd hdots.double (by decide)
  · rw [PathTemplate.decodeSegment?_eq_some, hself _ hpart, Utf8.decode?_encode]

/-- The segments of a path that is written of texts that stand for themselves. -/
theorem segments_of_verbatim (hne : segments ≠ []) (h : ∀ s ∈ segments, Verbatim s)
    (hx : '/' :: x = (Path.text (.segments segments)).toList) :
    Read.segments .special x = segments.map fun s => Read.encodePath s.toList := by
  have hslash : ∀ s ∈ segments, ∀ c ∈ s.toList, Read.isSlash .special c = false :=
    fun s hs c hc => ((h s hs).inner c hc).1
  rw [Read.segments, splitOnP_slashless hne hslash hx, List.map_map]
  have hspecial : Kind.special ≠ .file := by decide
  refine walk_self (fun n hn => ?_) fun he => absurd he hspecial
  obtain ⟨s, hs, rfl⟩ := List.mem_map.mp hn
  exact (h s hs).segmentOf

/-! Links as they are read. -/

/-- The text of a link to a host: its path and the query after it stand as they are. -/
def linkText (scheme : String) (a : Authority) (segments : List String) (query : Option String) :
    String :=
  scheme ++ "://" ++ a.text ++ Path.text (.segments segments) ++ marked "?" query

theorem text_of_linkText {segments' : List String}
    (h : linkText scheme a segments query = linkText scheme a segments' query) :
    Path.text (.segments segments) = Path.text (.segments segments') := by
  rw [linkText, linkText, ← String.toList_inj] at h
  simp only [String.toList_append, List.append_assoc] at h
  have hpath := List.append_cancel_left (List.append_cancel_left (List.append_cancel_left h))
  exact String.toList_inj.mp (List.append_cancel_right hpath)

theorem TailOf.none : TailOf kind none none := ⟨fun _ h => (nomatch h), fun _ h => (nomatch h)⟩

/-- A text that does not end in a blank or a control. -/
def Trimmed (s : String) : Prop := Halts Read.isEdge s.toList.reverse

instance (s : String) : Decidable (Trimmed s) := inferInstanceAs (Decidable (Halts _ _))

theorem halts_reverse_text (hs : s ≠ "") (segments : List String) :
    Halts Read.isEdge (Path.text (.segments (segments ++ [s]))).toList.reverse ↔ Trimmed s := by
  have hne : s.toList.reverse ≠ [] := by simpa using hs
  rw [toList_text, List.flatMap_append, List.flatMap_singleton, List.reverse_append,
    List.reverse_cons, List.append_assoc, Halts, List.head?_append_of_ne_nil _ hne, Trimmed, Halts]

/-- What is left of the end of a link: what does not count is dropped. -/
def keptEnd (query : Option String) (s : List Char) : List Char :=
  (if query.isNone then (s.reverse.dropWhile Read.isEdge).reverse else s).filter
    (!Read.isIgnored ·)

theorem reverse_dropWhile_sublist (p : Char → Bool) (s : List Char) :
    ((s.reverse.dropWhile p).reverse).Sublist s := by
  have h := (List.dropWhile_sublist p (l := s.reverse)).reverse
  rwa [List.reverse_reverse] at h

theorem keptEnd_sublist (query : Option String) (s : List Char) : (keptEnd query s).Sublist s := by
  refine List.filter_sublist.trans ?_
  split
  · exact reverse_dropWhile_sublist _ _
  · exact List.Sublist.refl _

/-- A path begins with a slash also as it is read. -/
theorem keptEnd_cons (query : Option String) (s : List Char) :
    ∃ x, keptEnd query ('/' :: s) = '/' :: x := by
  have hslash (s : List Char) : ('/' :: s).filter (!Read.isIgnored ·) =
      '/' :: s.filter (!Read.isIgnored ·) := List.filter_cons_of_pos (by decide)
  rw [keptEnd]
  split
  · have halts : Halts Read.isEdge ['/'] := halts_cons.mpr (by decide)
    rw [List.reverse_cons, halts.dropWhile_append, List.reverse_append, List.reverse_singleton,
      List.singleton_append, hslash]
    exact ⟨_, rfl⟩
  · exact ⟨_, hslash s⟩

theorem exists_slash (hne : segments ≠ []) :
    ∃ x, (Path.text (.segments segments)).toList = '/' :: x := by
  obtain ⟨s, more, rfl⟩ := List.exists_cons_of_ne_nil hne
  rw [toList_text, List.flatMap_cons, List.cons_append]
  exact ⟨_, rfl⟩

theorem exists_keptEnd (query : Option String) (hne : segments ≠ []) :
    ∃ x, keptEnd query (Path.text (.segments segments)).toList = '/' :: x := by
  obtain ⟨x, hx⟩ := exists_slash hne
  rw [hx]
  exact keptEnd_cons query x

theorem halts_of_plain {s : List Char} (h : ∀ c ∈ s, Read.isEdge c = false) : Halts Read.isEdge s :=
  fun c hc => h c (List.mem_of_mem_head? hc)

theorem filter_of_plain {s : List Char} (h : ∀ c ∈ s, Read.isEdge c = false) :
    s.filter (!Read.isIgnored ·) = s :=
  List.filter_eq_self.mpr fun c hc => by rw [not_ignored (h c hc)]; rfl

/-- Between a front and a tail without blanks and controls, only what stands at the end or within
the middle is dropped. -/
theorem cleaned_between {front : List Char} (hne : front ≠ [])
    (hfront : ∀ c ∈ front, Read.isEdge c = false)
    (hq : ∀ c ∈ tailText query none, Read.isEdge c = false) (s : List Char) :
    Read.cleaned (front ++ (s ++ tailText query none)) =
      front ++ (keptEnd query s ++ tailText query none) := by
  rw [Read.cleaned, ((halts_of_plain hfront).append hne _).dropWhile, List.reverse_append]
  cases query with
  | none =>
    have htail : tailText none none = [] := rfl
    have hend : Halts Read.isEdge front.reverse :=
      halts_of_plain fun c hc => hfront c (List.mem_reverse.mp hc)
    rw [htail, List.append_nil, List.append_nil, hend.dropWhile_append, List.reverse_append,
      List.reverse_reverse, List.filter_append, filter_of_plain hfront]
    rfl
  | some q =>
    have hend : Halts Read.isEdge (tailText (some q) none).reverse :=
      halts_of_plain fun c hc => hq c (List.mem_reverse.mp hc)
    have hmark : (tailText (some q) none).reverse ≠ [] := by
      rw [tailText_some]
      simp
    rw [List.reverse_append, List.append_assoc, (hend.append hmark _).dropWhile,
      List.reverse_append, List.reverse_append, List.reverse_reverse, List.reverse_reverse,
      List.reverse_reverse, List.filter_append, List.filter_append, filter_of_plain hfront,
      filter_of_plain hq, List.append_assoc]
    rfl

theorem cleaned_link (hscheme : SchemeName scheme) (ha : ∀ c ∈ a.text.toList, Inner c)
    (hq : ∀ c ∈ tailText query none, Read.isEdge c = false) (segments : List String) :
    Read.cleaned (linkText scheme a segments query).toList =
      scheme.toList ++ ':' :: '/' :: '/' :: (a.text.toList ++
        (keptEnd query (Path.text (.segments segments)).toList ++ tailText query none)) := by
  let front := scheme.toList ++ ':' :: '/' :: '/' :: a.text.toList
  have hne : front ≠ [] := List.append_ne_nil_of_right_ne_nil _ (List.cons_ne_nil _ _)
  have hfront : ∀ c ∈ front, Read.isEdge c = false := by
    intro c hc
    simp only [front, List.mem_append, List.mem_cons] at hc
    rcases hc with hc | rfl | rfl | rfl | hc
    · exact hscheme.plain c hc
    · decide
    · decide
    · decide
    · exact (ha c hc).1
  have htext : (linkText scheme a segments query).toList =
      front ++ ((Path.text (.segments segments)).toList ++ tailText query none) := by
    simp [front, linkText, tailText, marked]
  rw [htext, cleaned_between hne hfront hq]
  simp [front]

theorem parse_link (hk : kindOf scheme = .special) (ha : a.Canonical .special scheme)
    (hq : TailOf .special query none) (hne : segments ≠ []) :
    parse (linkText scheme a segments query) = .ok (Read.assemble .special scheme (some a)
      (keptEnd query (Path.text (.segments segments)).toList ++ tailText query none)) := by
  have hscheme := schemeName_of_special hk
  obtain ⟨rest, hrest⟩ := exists_keptEnd query hne
  have hinner : ∀ c ∈ a.text.toList, (!Read.endsAuthority .special c) = true :=
    fun c hc => not_endsAuthority (ha.inner c hc)
  have halts : Halts (!Read.endsAuthority .special ·) ('/' :: (rest ++ tailText query none)) :=
    halts_cons.mpr (by decide)
  rw [parse, cleaned_link hscheme ha.inner hq.plain, hrest, hscheme.read]
  simp only [hk, dropWhile_slashes ha]
  unfold Read.afterSlashes
  simp only [List.cons_append, takeWhile_run hinner halts, dropWhile_run hinner halts, ha.read]
  rfl

/-- The path of a link is read as far as a mark of a query or of a fragment. -/
theorem path_of_link (scheme : String) (a : Authority) (query : Option String)
    (hne : segments ≠ []) : ∃ x,
    (keptEnd query (Path.text (.segments segments)).toList).takeWhile (!Read.isTail ·) =
      '/' :: x ∧
    (Read.assemble .special scheme (some a)
      (keptEnd query (Path.text (.segments segments)).toList ++ tailText query none)).path =
        .segments (Read.segments .special x) := by
  obtain ⟨rest, hrest⟩ := exists_keptEnd query hne
  have htake : ('/' :: rest).takeWhile (!Read.isTail ·) = '/' :: rest.takeWhile (!Read.isTail ·) :=
    List.takeWhile_cons_of_pos (by decide)
  rw [hrest]
  refine ⟨_, htake, ?_⟩
  rw [Read.assemble, halts_tailText.takeWhile_append, htake]
  rfl

/-- Texts that stand for themselves are the segments of the link that is written of them. -/
theorem parse_verbatim (hk : kindOf scheme = .special) (ha : a.Canonical .special scheme)
    (hq : TailOf .special query none) (hne : segments ≠ []) (hs : ∀ s ∈ segments, Verbatim s)
    (hlast : query = none → Halts Read.isEdge (Path.text (.segments segments)).toList.reverse) :
    parse (linkText scheme a segments query) = .ok ⟨scheme, some a,
      .segments (segments.map fun s => Read.encodePath s.toList), query, none⟩ := by
  have hplain : ∀ c ∈ (Path.text (.segments segments)).toList,
      Read.isTail c = false ∧ Read.isIgnored c = false := by
    intro c hc
    rw [toList_text] at hc
    obtain ⟨s, hmem, hc⟩ := List.mem_flatMap.mp hc
    rcases List.mem_cons.mp hc with rfl | hc
    · exact ⟨by decide, by decide⟩
    · exact ⟨((hs s hmem).inner c hc).2, (hs s hmem).plain c hc⟩
  have hkept : keptEnd query (Path.text (.segments segments)).toList =
      (Path.text (.segments segments)).toList := by
    have hfilter : (Path.text (.segments segments)).toList.filter (!Read.isIgnored ·) = _ :=
      List.filter_eq_self.mpr fun c hc => by rw [(hplain c hc).2]; rfl
    rw [keptEnd]
    cases query with
    | none =>
      rw [Option.isNone_none, if_pos rfl, (hlast rfl).dropWhile, List.reverse_reverse, hfilter]
    | some q => exact hfilter
  obtain ⟨x, hx⟩ := exists_slash hne
  have hpath : Read.path .special (Path.text (.segments segments)).toList =
      .segments (segments.map fun s => Read.encodePath s.toList) := by
    rw [← segments_of_verbatim hne hs hx.symm, hx]
    rfl
  have htail := fun c hc => (hplain c hc).1
  rw [parse_link hk ha hq hne, hkept, assemble_self scheme (some a) htail hq, hpath]

/-- If the segments that a link is read as stand for as many texts of which the same link is
written, the link was written of texts that stand for themselves. -/
theorem verbatim_of_parse (hk : kindOf scheme = .special) (ha : a.Canonical .special scheme)
    (hq : TailOf .special query none) (hne : segments ≠ []) {u : Url} {decoded : List String}
    (hu : parse (linkText scheme a segments query) = .ok u)
    (hd : (PathTemplate.split u.pathText).map decodeSegment? = decoded.map some)
    (ht : Path.text (.segments decoded) = Path.text (.segments segments))
    (hl : decoded.length = segments.length) :
    (∀ s ∈ segments, Verbatim s) ∧
      (query = none → Halts Read.isEdge (Path.text (.segments segments)).toList.reverse) := by
  obtain ⟨x, hx, hpath⟩ := path_of_link scheme a query hne
  cases (parse_link hk ha hq hne).symm.trans hu
  have hkept : (keptEnd query (Path.text (.segments segments)).toList).Sublist
      (Path.text (.segments segments)).toList := keptEnd_sublist _ _
  have hread : ('/' :: x).Sublist (keptEnd query (Path.text (.segments segments)).toList) :=
    hx ▸ List.takeWhile_sublist _
  have hslash : ∀ n ∈ Read.segments .special x, '/' ∉ n.toList := fun n hn hmem =>
    absurd ((segmentOf_segments x n hn).plain '/' hmem).2.2 (by decide)
  rw [pathText, hpath, split_text hslash] at hd
  have hplain : ∀ c ∈ x, Read.isTail c = false ∧ Read.isIgnored c = false := by
    intro c hc
    have hmem : c ∈ '/' :: x := List.mem_cons_of_mem _ hc
    constructor
    · rw [← hx] at hmem
      have hkeeps := List.mem_takeWhile_imp hmem
      rwa [Bool.not_eq_true'] at hkeeps
    · have hkeeps := (List.mem_filter.mp (hread.subset hmem)).2
      rwa [Bool.not_eq_true'] at hkeeps
  obtain ⟨htext, hverbatim⟩ := verbatim_of_decoded hne (hread.trans hkept) hplain hd ht hl
  refine ⟨hverbatim, ?_⟩
  rintro rfl
  -- The link ends where the text does, so nothing was dropped there.
  have hsub : ('/' :: x).Sublist
      ((Path.text (.segments segments)).toList.reverse.dropWhile Read.isEdge).reverse :=
    hread.trans List.filter_sublist
  have hwhole := hsub.antisymm (htext ▸ reverse_dropWhile_sublist _ _)
  have hself := congrArg List.reverse (hwhole.symm.trans htext)
  rw [List.reverse_reverse] at hself
  rw [← hself]
  exact Text.halts_dropWhile _ _

end Url

end CloudEmulation
