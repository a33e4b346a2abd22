import CloudEmulation.Proofs.Emulation.Selections
/-!
Answers to requests that list a zone.
-/

namespace CloudEmulation.Google

variable {c : Configuration} {s : CloudState} {r : Http.Request} {call : Call}
  {project zone : String} {n : Nat}

theorem select_of_condition {p : Json → Bool} (h : r.condition? = .ok p) (params : Params)
    (now : Timestamp) :
    ∃ f, filter? (r.call params now) = .ok f ∧ ∀ items, select f items = items.filter p := by
  have hq : (r.call params now).query? "filter" = r.query? "filter" := rfl
  unfold Http.Request.condition? at h
  unfold filter?
  rw [hq]
  cases hfilter : r.query? "filter" with
  | none =>
    rw [hfilter] at h
    cases h
    exact ⟨none, rfl, fun items => (List.filter_true items).symm⟩
  | some text =>
    rw [hfilter] at h
    simp only at h ⊢
    split at h
    · rename_i hblank
      cases h
      exact ⟨none, by rw [if_pos hblank], fun items => (List.filter_true items).symm⟩
    · rename_i hblank
      cases hparse : Filter.parse text with
      | error e =>
        rw [hparse] at h
        cases h
      | ok f =>
        rw [hparse] at h
        cases h
        exact ⟨some f, by rw [if_neg hblank], fun items => rfl⟩

theorem shown_of_listing (p : Page Json) :
    let answer := Http.Response.json 200 ((Listing.mk p.items p.next).encode .ofFields id)
    Provider.google.shown answer = p.items ∧ Provider.google.next? answer = p.next := by
  obtain ⟨items, next⟩ := p
  have hn : (Listing.fields).Nodup := by decide
  have he : ∀ p ∈ ([] : Json.Members), p.1 ∉ Listing.fields := by simp
  constructor
  · have hm : ((Listing.mk items next).encode .ofFields id).member? "items" =
        if items.isEmpty then none else some (.array (items.map id)) :=
      Json.member?_record hn he rfl List.mem_cons_self
    simp only [Provider.shown, Http.Response.json, Option.bind_some, hm]
    cases items <;> simp [Json.items]
  · exact Json.textMember?_optional hn he rfl (by simp)

theorem page_of_filter {items : List Json} {f : Option Filter} (hfilter : filter? call = .ok f)
    {limit : Option Nat} (hcount : call.queryCount "maxResults" = .ok limit)
    (ho : Page.offset (select f items).length (call.query? "pageToken") = .ok n) :
    page call items = .ok (.json 200 ((Listing.mk (Page.slice (select f items) limit n).items
      (Page.slice (select f items) limit n).next).encode .ofFields id)) := by
  have hp : Page.of (select f items) limit (call.query? "pageToken") =
      .ok (Page.slice (select f items) limit n) := Page.of_eq_ok.mpr ⟨n, ho, rfl⟩
  unfold page
  rw [hfilter]
  simp only [bind, Except.bind, hcount, hp]
  rfl

theorem handle_selects (c : Configuration) (now : Timestamp) (s : CloudState)
    (h : (Scope.google project zone).Selects r)
    (ho : Page.offset ((Scope.google project zone).sought c r
      (s.instances.list (.google project zone))).length (r.query? "pageToken") = .ok n) :
    ∃ answer s', ((Provider.google.emulator c).handle now r).exec s = (.ok answer, s') ∧
      (Scope.google project zone).Displays r answer
        (Page.slice ((Scope.google project zone).sought c r
          (s.instances.list (.google project zone)))
            ((Scope.google project zone).limit c r) n) := by
  cases h with
  | @google _ _ _ params p hr hproject hzone hp hcount =>
    obtain ⟨f, hf, hselect⟩ := select_of_condition hp params now
    have hcondition : (Scope.google project zone).condition r = p := by
      rw [Scope.condition]
      simp only [Scope.provider, hp]
      rfl
    have hsought : (Scope.google project zone).sought c r
        (s.instances.list (.google project zone)) =
          select f ((s.instances.list (.google project zone)).map (view project)) := by
      rw [hselect, Scope.sought, hcondition]
      rfl
    have hlimit : (r.call params now).queryCount "maxResults" =
        .ok ((Scope.google project zone).limit c r) := hcount.queryCount params now
    rw [hsought] at ho ⊢
    have hpage := page_of_filter hf hlimit ho
    have hproject' : (r.call params now).param "project" = .ok project :=
      Call.param_eq_ok.mpr hproject
    have hzone' : (r.call params now).param "zone" = .ok zone := Call.param_eq_ok.mpr hzone
    obtain ⟨hshown, hnext⟩ := shown_of_listing (Page.slice (select f
      ((s.instances.list (.google project zone)).map (view project)))
        ((Scope.google project zone).limit c r) n)
    refine ⟨_, s, ?_, rfl, hshown, hnext.trans ?_⟩
    · rw [hr.handle c now]
      show (list "instances" (r.call params now)).exec s = _
      unfold list
      rw [hproject', hzone', Handler.exec_bind_liftExcept_ok, Handler.exec_bind_liftExcept_ok]
      simp only
      rw [Handler.exec_bind_ok _ (Handler.exec_look _ _), hpage]
      rfl
    · exact Option.map_id'.symm

end CloudEmulation.Google
