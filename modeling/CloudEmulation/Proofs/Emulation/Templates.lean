import CloudEmulation.Proofs.Emulation.Routing
import CloudEmulation.Proofs.Url.Path
import Mathlib.Data.List.Forall2
/-!
A path that fills the template of a route with arguments is routed there, and its parameters are
those arguments: no other route has that path.
-/

namespace CloudEmulation

open Url (Argument segmentText keepsSegment)

namespace PathTemplate

/-- Whether a text is written in a path as it is. -/
def isWord (s : String) : Bool :=
  Argument s && s.toList.all fun c => c.toNat < 128 && keepsSegment true c

/-- Segments that agree with a template, and what they give its parameters. -/
inductive Filled : List TemplateSegment → Params → List String → Prop where
  | nil : Filled [] [] []
  | literal {l : String} {ts : List TemplateSegment} {ps : Params} {segments : List String}
      (h : Filled ts ps segments) (hl : isWord l = true := by decide) :
      Filled (.literal l :: ts) ps (l :: segments)
  | param {name s : String} {ts : List TemplateSegment} {ps : Params} {segments : List String}
      (hs : Argument s) (h : Filled ts ps segments) :
      Filled (.param name :: ts) ((name, s) :: ps) (s :: segments)

/-- Whether a segment of a path stands for a text: a word stands for itself only. -/
structure Stands (part s : String) : Prop where
  decoded : decodeSegment? part = some s
  word : isWord s = true → part = s

/-- Whether two templates differ in their length or in a literal. -/
def apart : List TemplateSegment → List TemplateSegment → Bool
  | [], [] => false
  | t :: ts, u :: us => differ t u || apart ts us
  | _, _ => true
where
  differ : TemplateSegment → TemplateSegment → Bool
    | .literal a, .literal b => a ≠ b
    | _, _ => false

variable {s : String} {special : Bool} {ts us : List TemplateSegment} {ps : Params}
  {segments parts : List String}

theorem argument_of_isWord (h : isWord s = true) : Argument s :=
  of_decide_eq_true (Bool.and_eq_true_iff.mp h).1

theorem segmentText_of_isWord (h : isWord s = true) : segmentText special s = s := by
  have hc := List.all_eq_true.mp (Bool.and_eq_true_iff.mp h).2
  rw [segmentText, Percent.encode_kept, String.ofList_toList]
  intro c hmem
  obtain ⟨hascii, hkeeps⟩ := Bool.and_eq_true_iff.mp (hc c hmem)
  refine ⟨of_decide_eq_true hascii, ?_⟩
  cases special with
  | true => exact hkeeps
  | false =>
    simp only [keepsSegment, Bool.and_eq_true] at hkeeps ⊢
    exact ⟨hkeeps.1, rfl⟩

theorem stands_segmentText (s : String) : Stands (segmentText special s) s :=
  ⟨Url.decodeSegment?_segmentText special s, segmentText_of_isWord⟩

/-- Texts that are encoded as segments are those that the segments stand for. -/
theorem forall₂_stands (segments : List String) :
    List.Forall₂ Stands (segments.map (segmentText special)) segments := by
  rw [List.forall₂_map_left_iff]
  exact List.forall₂_same.mpr fun s _ => stands_segmentText s

theorem Filled.argument (h : Filled ts ps segments) : ∀ s ∈ segments, Argument s := by
  induction h with
  | nil => exact fun s hs => nomatch hs
  | literal h hl ih => exact List.forall_mem_cons.mpr ⟨argument_of_isWord hl, ih⟩
  | param hs h ih => exact List.forall_mem_cons.mpr ⟨hs, ih⟩

theorem Filled.matchSegments? (h : Filled ts ps segments) (hp : List.Forall₂ Stands parts segments) :
    matchSegments? ts parts = some ps := by
  induction h generalizing parts with
  | nil =>
    cases hp
    rfl
  | literal h hl ih =>
    obtain _ | ⟨hpart, hp⟩ := hp
    rw [hpart.word hl, PathTemplate.matchSegments?, ih hp, matchSegment?, if_pos rfl]
    rfl
  | param hs h ih =>
    obtain _ | ⟨hpart, hp⟩ := hp
    rw [PathTemplate.matchSegments?, ih hp, matchSegment?, hpart.decoded]
    simp only [if_neg hs.nonempty]
    rfl

theorem matchSegments?_cons {t : TemplateSegment} {part : String} {parts : List String}
    (h : matchSegment? t part = none ∨ matchSegments? ts parts = none) :
    matchSegments? (t :: ts) (part :: parts) = none := by
  rw [matchSegments?]
  obtain h | h := h
  · rw [h]
  · rw [h]
    cases matchSegment? t part <;> rfl

/-- What matches a template has as many segments as it. -/
theorem length_of_matchSegments? {parts : List String}
    (h : PathTemplate.matchSegments? ts parts = some ps) : ts.length = parts.length := by
  induction ts generalizing parts ps with
  | nil =>
    cases parts with
    | nil => rfl
    | cons part parts => cases h
  | cons t ts ih =>
    cases parts with
    | nil => cases h
    | cons part parts =>
      cases hrest : PathTemplate.matchSegments? ts parts with
      | none =>
        rw [matchSegments?_cons (.inr hrest)] at h
        cases h
      | some rest => rw [List.length_cons, List.length_cons, ih hrest]

/-- Segments that fill one template do not match another that is apart from it. -/
theorem Filled.matchSegments?_apart (h : Filled ts ps segments)
    (hp : List.Forall₂ Stands parts segments) (ha : apart us ts = true) :
    PathTemplate.matchSegments? us parts = none := by
  induction h generalizing us parts with
  | nil =>
    cases hp
    cases us with
    | nil => cases ha
    | cons u us => rfl
  | @literal l ts ps segments h hl ih =>
    obtain _ | ⟨hpart, hp⟩ := hp
    rw [hpart.word hl]
    cases us with
    | nil => rfl
    | cons u us =>
      refine matchSegments?_cons ?_
      -- Templates are told apart by a literal of their own, here or further on.
      obtain hd | hrest := Bool.or_eq_true_iff.mp ha
      · left
        cases u with
        | literal a => exact if_neg (of_decide_eq_true hd)
        | param name => cases hd
      · exact .inr (ih hp hrest)
  | @param name s ts ps segments hs h ih =>
    obtain _ | ⟨hpart, hp⟩ := hp
    cases us with
    | nil => rfl
    | cons u us =>
      refine matchSegments?_cons (.inr (ih hp ?_))
      obtain hd | hrest := Bool.or_eq_true_iff.mp ha
      · cases u <;> cases hd
      · exact hrest

end PathTemplate

/-- Whether two routes have no path in common, unless their methods differ. -/
def Route.Apart (a b : Route) : Prop :=
  a.method = b.method → PathTemplate.apart a.template.segments b.template.segments = true

instance : DecidableRel Route.Apart := fun _ _ => inferInstanceAs (Decidable (_ → _))

variable {routes : List Route} {route : Route} {params : Params} {segments : List String}
  {path method : String}

theorem Emulator.route?_of_filled (hr : route ∈ routes) (hd : routes.Pairwise Route.Apart)
    (hf : PathTemplate.Filled route.template.segments params segments)
    (hs : List.Forall₂ PathTemplate.Stands (PathTemplate.split path) segments) :
    route? routes route.method path = some (route, params) := by
  induction routes with
  | nil => cases hr
  | cons first routes ih =>
    obtain ⟨hfirst, hrest⟩ := List.pairwise_cons.mp hd
    rw [route?, List.findSome?_cons]
    cases hr with
    | head =>
      have hm : route.template.matches? path = some params := by
        rw [PathTemplate.matches?, hf.matchSegments? hs]
      simp only [hm, if_true, Option.map_some]
    | tail _ hr =>
      have hm : (if first.method = route.method then
          (first.template.matches? path).map (first, ·) else none) = none := by
        split
        · rename_i he
          rw [PathTemplate.matches?, hf.matchSegments?_apart hs (hfirst route hr he)]
          rfl
        · rfl
      rw [hm]
      exact ih hr hrest

theorem Emulator.matchSegments?_of_route? (h : route? routes method path = some (route, params)) :
    PathTemplate.matchSegments? route.template.segments (PathTemplate.split path) = some params := by
  obtain ⟨other, -, hr⟩ := List.exists_of_findSome?_eq_some h
  split at hr
  · obtain ⟨ps, hm, hp⟩ := Option.map_eq_some_iff.mp hr
    cases hp
    exact hm
  · cases hr

theorem Emulator.length_of_route? (h : route? routes method path = some (route, params)) :
    route.template.segments.length = (PathTemplate.split path).length :=
  PathTemplate.length_of_matchSegments? (matchSegments?_of_route? h)

theorem Emulator.route?_of_method (h : ∀ route ∈ routes, route.method ≠ method) (path : String) :
    route? routes method path = none := by
  rw [route?, List.findSome?_eq_none_iff]
  exact fun route hr => if_neg (h route hr)

theorem Provider.routes_apart (p : Provider) : p.routes.Pairwise Route.Apart := by
  cases p <;> decide +kernel

end CloudEmulation
