import CloudEmulation.Proofs.Emulation.Templates
import CloudEmulation.Proofs.Text.Runs
import Mathlib.Data.List.Forall2
import Mathlib.Data.List.Nodup
/-!
Which paths match a template: those whose segments are its literals and, in the place of each
parameter, a text that stands for the parameter's value.
-/

namespace CloudEmulation

open Text (Stretches)

/-! Segments. -/

namespace PathTemplate

variable {segments : List String} {path : String}

/-- Whether a path consists of these segments, with one slash or more between them and any number
before and after them. -/
def Spells (segments : List String) (path : String) : Prop :=
  Stretches (· = '/') (segments.map String.toList) path.toList

theorem spells_iff : Spells segments path ↔ split path = segments := by
  have hlist (l : List (List Char)) : (l.map String.ofList).map String.toList = l := by
    rw [List.map_map]
    exact List.map_id'' (fun _ => String.toList_ofList) l
  have htext : (segments.map String.toList).map String.ofList = segments := by
    rw [List.map_map]
    exact List.map_id'' (fun _ => String.ofList_toList) segments
  rw [Spells, Text.stretches_iff]
  constructor
  · intro h
    exact (congrArg (List.map String.ofList) h).trans htext
  · rintro rfl
    exact (hlist _).symm

end PathTemplate

/-! Templates as they are written. -/

namespace TemplateSegment

open PathTemplate (paramName? segmentOf openBrace closeBrace)

variable {s name : String}

def text : TemplateSegment → String
  | .literal l => l
  | .param name => "\x7b" ++ name ++ "\x7d"

def name? : TemplateSegment → Option String
  | .literal _ => none
  | .param name => some name

/-- A literal is no name in braces, and a parameter has a name. -/
def Proper : TemplateSegment → Prop
  | .literal l => ∀ name, name ≠ "" → l ≠ text (.param name)
  | .param name => name ≠ ""

theorem toList_param (name : String) :
    (text (.param name)).toList = openBrace :: (name.toList ++ [closeBrace]) := by
  simp [text, openBrace, closeBrace]

theorem paramName?_eq_some :
    paramName? s.toList = some name ↔ name ≠ "" ∧ s = text (.param name) := by
  have htext : s = text (.param name) ↔ s.toList = openBrace :: (name.toList ++ [closeBrace]) := by
    rw [← toList_param, String.toList_inj]
  rw [htext]
  constructor
  · intro h
    unfold paramName? at h
    split at h
    · rename_i b r hs
      split at h
      · rename_i hbrace
        obtain ⟨rfl, hlength, hlast⟩ := hbrace
        obtain ⟨body, rfl⟩ := List.getLast?_eq_some_iff.mp hlast
        rw [List.dropLast_concat] at h
        obtain rfl := Option.some.inj h
        rw [String.toList_ofList]
        refine ⟨?_, hs⟩
        intro he
        have hbody := congrArg String.toList he
        rw [String.toList_ofList] at hbody
        rw [hbody] at hlength
        simp at hlength
      · cases h
    · cases h
  · rintro ⟨hne, hs⟩
    have hlength : 2 ≤ (name.toList ++ [closeBrace]).length := by
      have hpos := List.length_pos_of_ne_nil (mt String.toList_eq_nil_iff.mp hne)
      rw [List.length_append, List.length_singleton]
      omega
    rw [hs, paramName?, if_pos ⟨rfl, hlength, by simp⟩, List.dropLast_concat, String.ofList_toList]

theorem text_segmentOf (s : String) : (segmentOf s).text = s ∧ (segmentOf s).Proper := by
  unfold segmentOf
  split
  · rename_i name h
    obtain ⟨hne, hs⟩ := paramName?_eq_some.mp h
    exact ⟨hs.symm, hne⟩
  · rename_i h
    refine ⟨rfl, fun name hne hs => ?_⟩
    rw [paramName?_eq_some.mpr ⟨hne, hs⟩] at h
    cases h

theorem segmentOf_text {t : TemplateSegment} (h : t.Proper) : segmentOf t.text = t := by
  cases t with
  | literal l =>
    unfold segmentOf
    split
    · rename_i name hname
      obtain ⟨hne, hs⟩ := paramName?_eq_some.mp hname
      exact absurd hs (h name hne)
    · rfl
  | param name =>
    have hname : paramName? (text (.param name)).toList = some name :=
      paramName?_eq_some.mpr ⟨h, rfl⟩
    rw [segmentOf, hname]

end TemplateSegment

namespace PathTemplate

open TemplateSegment (text_segmentOf segmentOf_text)

variable {template path name value : String} {ts : List TemplateSegment} {params : Params}
  {parts : List String} {σ : String → String}

/-- Whether these are the segments of a template text. -/
structure Reads (template : String) (ts : List TemplateSegment) : Prop where
  spells : Spells (ts.map TemplateSegment.text) template
  proper : ∀ t ∈ ts, t.Proper

theorem reads_iff : Reads template ts ↔ (parse template).segments = ts := by
  constructor
  · rintro ⟨hs, hp⟩
    show (split template).map segmentOf = ts
    rw [spells_iff.mp hs, List.map_map]
    exact (List.map_congr_left fun t ht => segmentOf_text (hp t ht)).trans (List.map_id ts)
  · rintro rfl
    have htext : ((split template).map segmentOf).map TemplateSegment.text = split template := by
      rw [List.map_map]
      exact List.map_id'' (fun s => (text_segmentOf s).1) _
    refine ⟨spells_iff.mpr htext.symm, fun t ht => ?_⟩
    obtain ⟨s, -, rfl⟩ := List.mem_map.mp ht
    exact (text_segmentOf s).2

/-- The names of the parameters, in order. -/
def paramNames (ts : List TemplateSegment) : List String := ts.filterMap TemplateSegment.name?

/-! Filling a template. -/

/-- The characters that stand for themselves in every part of a URL. -/
def isUnreserved (c : Char) : Bool := c.isAlphanum || "-._~".toList.contains c

/-- What a segment is filled with; values are percent-encoded. -/
def fill (σ : String → String) : TemplateSegment → String
  | .literal l => l
  | .param name => String.ofList (Percent.encode isUnreserved (σ name).toList)

theorem matchSegments?_fill (hσ : ∀ name ∈ paramNames ts, σ name ≠ "") :
    matchSegments? ts (ts.map (fill σ)) = some ((paramNames ts).map fun name => (name, σ name)) := by
  induction ts with
  | nil => rfl
  | cons t ts ih =>
    cases t with
    | literal l =>
      have hrest := ih hσ
      rw [List.map_cons, matchSegments?, hrest, matchSegment?, fill, if_pos rfl]
      rfl
    | param name =>
      obtain ⟨hname, hσ⟩ := List.forall_mem_cons.mp hσ
      have hrest := ih hσ
      rw [List.map_cons, matchSegments?, hrest, matchSegment?, fill,
        decodeSegment?_encode (by decide)]
      simp only [if_neg hname]
      rfl

theorem get?_assignment (names : List String) (σ : String → String) (name : String) :
    Params.get? (names.map fun name => (name, σ name)) name =
      if name ∈ names then some (σ name) else none := by
  rw [Params.get?]
  cases hf : (names.map fun name => (name, σ name)).reverse.find? (·.1 = name) with
  | none =>
    rw [List.find?_eq_none] at hf
    split
    · rename_i hmem
      have hpair : (name, σ name) ∈ (names.map fun name => (name, σ name)).reverse :=
        List.mem_reverse.mpr (List.mem_map_of_mem hmem)
      exact absurd (decide_eq_true rfl) (hf _ hpair)
    · rfl
  | some p =>
    obtain ⟨other, hmem, rfl⟩ := List.mem_map.mp (List.mem_reverse.mp (List.mem_of_find?_eq_some hf))
    have he : other = name := by simpa using List.find?_some hf
    rw [if_pos (he ▸ hmem), ← he]
    rfl

/-! What a match says. -/

/-- A segment that a template's segment takes: a literal verbatim, and for a parameter a text that
stands for one of the values under its name. -/
def Takes (params : Params) : TemplateSegment → String → Prop
  | .literal l, s => s = l
  | .param name, s => ∃ value, (name, value) ∈ params ∧ value ≠ "" ∧
    Utf8.decode? (Percent.decode s.toList) = some value.toList

/-- A segment that a template's segment accepts: a literal verbatim, and for a parameter a text
whose bytes, percent-decoded, are those of the value it has, which is not empty. -/
def Accepts (params : Params) : TemplateSegment → String → Prop
  | .literal l, s => s = l
  | .param name, s => ∃ value, params.get? name = some value ∧ value ≠ "" ∧
    Utf8.decode? (Percent.decode s.toList) = some value.toList

theorem Takes.append {t : TemplateSegment} {s : String} (first : Params)
    (h : Takes params t s) : Takes (first ++ params) t s := by
  cases t with
  | literal l => exact h
  | param name =>
    obtain ⟨value, hmem, hvalue⟩ := h
    exact ⟨value, List.mem_append_right _ hmem, hvalue⟩

theorem takes_of_matchSegment? {t : TemplateSegment} {s : String}
    (h : matchSegment? t s = some params) (more : Params) :
    params.map Prod.fst = t.name?.toList ∧ Takes (params ++ more) t s := by
  cases t with
  | literal l =>
    rw [matchSegment?] at h
    split at h
    · rename_i hl
      cases h
      exact ⟨rfl, hl.symm⟩
    · cases h
  | param name =>
    rw [matchSegment?] at h
    split at h
    · rename_i value hvalue
      split at h
      · cases h
      · rename_i hne
        cases h
        exact ⟨rfl, value, List.mem_cons_self, hne, decodeSegment?_eq_some.mp hvalue⟩
    · cases h

theorem paramNames_cons (t : TemplateSegment) (ts : List TemplateSegment) :
    paramNames (t :: ts) = t.name?.toList ++ paramNames ts := by
  cases t <;> rfl

theorem takes_of_matchSegments? (h : matchSegments? ts parts = some params) :
    params.map Prod.fst = paramNames ts ∧ List.Forall₂ (Takes params) ts parts := by
  induction ts generalizing parts params with
  | nil =>
    cases parts with
    | nil =>
      cases h
      exact ⟨rfl, .nil⟩
    | cons part parts => cases h
  | cons t ts ih =>
    cases parts with
    | nil => cases h
    | cons part parts =>
      rw [matchSegments?] at h
      split at h
      · rename_i first rest hfirst hrest
        obtain rfl := Option.some.inj h
        obtain ⟨hname, htakes⟩ := takes_of_matchSegment? hfirst rest
        obtain ⟨hnames, htake⟩ := ih hrest
        refine ⟨?_, .cons htakes (htake.imp fun t s h => h.append first)⟩
        rw [List.map_append, hname, hnames, paramNames_cons]
      · cases h

theorem get?_of_mem (hn : (params.map Prod.fst).Nodup) (h : (name, value) ∈ params) :
    params.get? name = some value := by
  rw [Params.get?]
  cases hf : params.reverse.find? (·.1 = name) with
  | none =>
    rw [List.find?_eq_none] at hf
    exact absurd (decide_eq_true rfl) (hf _ (List.mem_reverse.mpr h))
  | some p =>
    have hp := List.mem_reverse.mp (List.mem_of_find?_eq_some hf)
    have he : p.1 = name := by simpa using List.find?_some hf
    rw [List.inj_on_of_nodup_map hn hp h he]
    rfl

theorem mem_names_of_get? (h : params.get? name = some value) : name ∈ params.map Prod.fst := by
  obtain ⟨p, hp, -⟩ := Option.map_eq_some_iff.mp h
  have he : p.1 = name := by simpa using List.find?_some hp
  exact he ▸ List.mem_map_of_mem (List.mem_reverse.mp (List.mem_of_find?_eq_some hp))

theorem accepts_of_matchSegments? (hd : (paramNames ts).Nodup)
    (h : matchSegments? ts parts = some params) : List.Forall₂ (Accepts params) ts parts := by
  obtain ⟨hnames, htakes⟩ := takes_of_matchSegments? h
  refine htakes.imp fun t s hts => ?_
  cases t with
  | literal l => exact hts
  | param name =>
    obtain ⟨value, hmem, hvalue⟩ := hts
    exact ⟨value, get?_of_mem (hnames ▸ hd) hmem, hvalue⟩

/-- Where a parameter stands, a segment without a text matches nothing. -/
theorem matchSegments?_of_undecoded {i : Nat} {s : String} (ht : ts[i]? = some (.param name))
    (hs : parts[i]? = some s) (hd : Utf8.decode? (Percent.decode s.toList) = none) :
    matchSegments? ts parts = none := by
  cases hm : matchSegments? ts parts with
  | none => rfl
  | some params =>
    obtain ⟨hi, rfl⟩ := List.getElem?_eq_some_iff.mp hs
    obtain ⟨hi', ht⟩ := List.getElem?_eq_some_iff.mp ht
    have hat := (takes_of_matchSegments? hm).2.get hi' hi
    simp only [List.get_eq_getElem, ht] at hat
    obtain ⟨value, -, -, hvalue⟩ := hat
    rw [hd] at hvalue
    cases hvalue

/-- Every template text has segments of its own. Filled with values that are not empty, each
percent-encoded, they match, however many slashes stand around them, and give back the values; a
path that matches has the literals where they stand and texts of the values it gives; and a path
with fewer or more segments, or bytes that are no text in the place of a parameter, matches not. -/
theorem matches_inverts_filling (template : String) :
    ∃ ts, (∀ ts', Reads template ts' ↔ ts' = ts) ∧ ((paramNames ts).Nodup →
      (∀ σ path, (∀ name ∈ paramNames ts, σ name ≠ "") → Spells (ts.map (fill σ)) path →
        ∃ params, (parse template).matches? path = some params ∧
          ∀ name, params.get? name = if name ∈ paramNames ts then some (σ name) else none) ∧
      (∀ path params, (parse template).matches? path = some params →
        (∃ segments, Spells segments path ∧ List.Forall₂ (Accepts params) ts segments) ∧
          ∀ name value, params.get? name = some value → name ∈ paramNames ts) ∧
      (∀ path segments, Spells segments path →
        (segments.length ≠ ts.length ∨ ∃ (i : Nat) (name s : String), ts[i]? = some (.param name) ∧
          segments[i]? = some s ∧ Utf8.decode? (Percent.decode s.toList) = none) →
        (parse template).matches? path = none)) := by
  refine ⟨(parse template).segments, fun ts' => reads_iff.trans eq_comm, fun hd => ⟨?_, ?_, ?_⟩⟩
  · intro σ path hσ hpath
    refine ⟨_, ?_, get?_assignment (paramNames (parse template).segments) σ⟩
    rw [matches?, spells_iff.mp hpath, matchSegments?_fill hσ]
  · intro path params hm
    refine ⟨⟨split path, spells_iff.mpr rfl, accepts_of_matchSegments? hd hm⟩, ?_⟩
    intro name value hget
    rw [← (takes_of_matchSegments? hm).1]
    exact mem_names_of_get? hget
  · rintro path segments hpath hbad
    rw [matches?, spells_iff.mp hpath]
    rcases hbad with hlength | ⟨i, name, s, ht, hs, hundecoded⟩
    · cases hm : matchSegments? (parse template).segments segments with
      | none => rfl
      | some params => exact absurd (length_of_matchSegments? hm).symm hlength
    · exact matchSegments?_of_undecoded ht hs hundecoded

theorem matches_inverts_filling_zone :
    (∃ params, (parse "zones/\x7bzone\x7d/instances//\x7bname\x7d").matches?
        "//zones/a%2Fb%20%25/instances/%C3%BC//" = some params ∧
      params.get? "zone" = some "a/b %" ∧ params.get? "name" = some "ü" ∧
      params.get? "zones" = none) ∧
    (parse "zones/\x7bzone\x7d/instances//\x7bname\x7d").matches? "/zones/%FF/instances/vm" = none := by
  obtain ⟨ts, hr, h⟩ := matches_inverts_filling "zones/\x7bzone\x7d/instances//\x7bname\x7d"
  obtain rfl : [.literal "zones", .param "zone", .literal "instances", .param "name"] = ts :=
    (hr _).mp (reads_iff.mpr (by decide +kernel))
  obtain ⟨hfilled, -, hbad⟩ := h (by decide)
  constructor
  · obtain ⟨params, hm, hget⟩ :=
      hfilled (fun name => if name = "zone" then "a/b %" else "ü")
        "//zones/a%2Fb%20%25/instances/%C3%BC//" (by decide) (spells_iff.mpr (by decide +kernel))
    exact ⟨params, hm, hget "zone", hget "name", hget "zones"⟩
  · exact hbad "/zones/%FF/instances/vm" ["zones", "%FF", "instances", "vm"]
      (spells_iff.mpr (by decide +kernel))
      (.inr ⟨1, "zone", "%FF", rfl, rfl, by decide +kernel⟩)

end PathTemplate

end CloudEmulation
