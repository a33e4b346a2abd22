import CloudEmulation.Proofs.Cloud.Turns
/-!
The pages of a filtered listing are the bodies of the instances that the filter accepts, as requests
for the single instances are answered with them.
-/

namespace CloudEmulation.Google

variable {c c₀ : Cloud} {config : Configuration} {project zone name : String} {r : Http.Request}
  {params : Params} {now : Timestamp} {n size : Nat}

/-! Single instances. -/

/-- Whether every request for an instance by its name is answered with this body. -/
def Fetched (c : Cloud) (project zone name : String) (body : Json) : Prop :=
  ∀ now r params, Provider.google.Routed r .get "instances" params →
    params.get? "project" = some project → params.get? "zone" = some zone →
    params.get? "instance" = some name → (c.respond .google now r).1 = .json 200 body

theorem fetched_view (hc : Cloud.Consistent config c) {i : Instance}
    (hi : i ∈ c.state.instances.list (.google project zone)) :
    Fetched c project zone i.identity (view project i) := by
  intro now r params hr hproject hzone hname
  obtain ⟨rfl, hs, -⟩ := hc
  have hfound : c.state.instances.get (.google project zone) i.identity = .ok i :=
    (Store.get_eq_ok_iff (hs.named _)).mpr ⟨hi, rfl⟩
  have hx : ((Provider.google.emulator c.config).handle now r).exec c.state =
      (.ok (.json 200 (view project i)), c.state) := by
    rw [hr.handle c.config now]
    show (get "instances" (r.call params now)).exec c.state = _
    rcases get_cases (r.call params now) c.state hproject hzone hname with
      ⟨j, -, hg, hx⟩ | ⟨f, hf, -⟩
    · rw [hfound] at hg
      cases hg
      exact hx
    · have hmem : i.identity ∈ (c.state.instances.list (.google project zone)).map identity :=
        List.mem_map_of_mem hi
      exact absurd hmem (Store.has_eq_false_iff.mp hf)
  exact congrArg Prod.fst (Provider.respond_of_answered hx)

/-! Filters that cannot be read. -/

theorem routed_list {resource : String} (hr : Provider.google.Routed r .list resource params) :
    resource = "instances" ∨ resource = "machineTypes" := by
  obtain ⟨route, hroute, hverb, rfl⟩ := hr
  have hmem := (Provider.mem_routes hroute).1
  simp only [Provider.routes, routes, Route.of, List.mem_cons, List.not_mem_nil, or_false] at hmem
  rcases hmem with rfl | rfl | rfl | rfl | rfl
  · cases hverb
  · exact .inl rfl
  · cases hverb
  · exact .inr rfl
  · cases hverb

theorem filter?_of_unreadable {text : String} {e : Filter.ReadError}
    (hq : r.query? "filter" = some text) (hblank : text.toList.all Text.isBlank = false)
    (he : Filter.parse text = .error e) (params : Params) (now : Timestamp) :
    filter? (r.call params now) = .error (.invalidArgument (.filter text e)) := by
  have hq' : (r.call params now).query? "filter" = some text := hq
  simp [filter?, hq', hblank, he]

theorem list_of_unreadable {call : Call} {reason : Reason} {resource : String}
    (hf : filter? call = .error (.invalidArgument reason))
    (hresource : resource = "instances" ∨ resource = "machineTypes") (s : CloudState) :
    ∃ f, (list resource call).exec s = (.error f, s) ∧ f.status = 400 := by
  have hpage (items : List Json) : page call items = .error (.invalidArgument reason) := by
    rw [page, hf]
    rfl
  unfold list
  cases hproject : call.param "project" with
  | error f => exact ⟨f, rfl, OfArguments.param call _ f hproject⟩
  | ok project =>
    cases hzone : call.param "zone" with
    | error f => exact ⟨f, rfl, OfArguments.param call _ f hzone⟩
    | ok zone =>
      refine ⟨.invalidArgument reason, ?_, rfl⟩
      rw [Handler.exec_bind_liftExcept_ok, Handler.exec_bind_liftExcept_ok]
      obtain rfl | rfl := hresource
      · simp only
        rw [Handler.exec_bind_ok _ (Handler.exec_look _ _), hpage]
        rfl
      · simp only
        rw [hpage]
        rfl

theorem respond_of_unreadable (hc : Cloud.Consistent config c) {resource text : String}
    {e : Filter.ReadError} (hr : Provider.google.Routed r .list resource params)
    (hq : r.query? "filter" = some text) (hblank : text.toList.all Text.isBlank = false)
    (he : Filter.parse text = .error e) : (c.respond .google now r).1.status = 400 := by
  obtain ⟨rfl, hs, -⟩ := hc
  obtain ⟨f, hx, hf⟩ := list_of_unreadable (filter?_of_unreadable hq hblank he params now)
    (routed_list hr) c.state
  have hh : ((Provider.google.emulator c.config).handle now r).exec c.state =
      (.error f, c.state) := by
    rw [hr.handle c.config now]
    exact hx
  obtain ⟨response, s'', hrun, hstatus, -⟩ := Provider.respond_of_refused hh hs.pool
  have ha : (c.respond .google now r).1 = response := congrArg Prod.fst hrun
  rw [ha, hstatus, hf]

/-! Uninterrupted tours. -/

/-- Whether one visit comes right after another, with pages of the same size. -/
structure Turns (project zone : String) (v v' : Visit) : Prop where
  precedes : v.Precedes (.google project zone) v'
  cloud : v'.cloud = v.left .google
  size : v'.request.query? "maxResults" = v.request.query? "maxResults"

/-- The number of items on a page, if a request limits it. -/
def pageSize (r : Http.Request) : Option Nat := (r.query? "maxResults").bind Numeral.word64?

variable {v v' first last : Visit} {visits : List Visit}

theorem pageSize_pos (h : v.At config (.google project zone) n)
    (hsize : pageSize v.request = some size) : 0 < size := by
  refine h.selects.limit_pos (c := config) (fun hp => ?_) hsize
  cases hp

theorem Turns.pageSize (h : Turns project zone v v') :
    pageSize v'.request = pageSize v.request := by
  rw [Google.pageSize, Google.pageSize, h.size]

theorem Turns.turns (h : Turns project zone v v') : v.Turns (.google project zone) v' :=
  ⟨h.precedes, by rw [h.cloud]; rfl⟩

theorem shown_le (h : v.At config (.google project zone) n)
    (hsize : pageSize v.request = some size) :
    (Provider.google.shown (v.answer .google)).length ≤ size := by
  have hshown : Provider.google.shown (v.answer .google) =
      (Page.slice (v.sought config (.google project zone)) (pageSize v.request) n).items :=
    h.displays.shown
  rw [hshown, hsize]
  exact Page.length_slice_le _ _ _

/-- No page is too large, and only the last one may be smaller. -/
theorem pages_full (ht : Tour (Turns project zone) first visits last)
    (h : first.At config (.google project zone) n) (hsize : pageSize first.request = some size) :
    (∀ v ∈ visits, (Provider.google.shown (v.answer .google)).length ≤ size) ∧
    ∀ v ∈ visits.dropLast, (Provider.google.shown (v.answer .google)).length = size := by
  -- All requests of the tour ask for pages of one size, and only the last page is not followed.
  induction ht generalizing n with
  | one =>
    constructor
    · intro v hv
      rw [List.mem_singleton.mp hv]
      exact shown_le h hsize
    · intro v hv
      cases hv
  | @more v v' visits last hturns ht ih =>
    obtain ⟨-, m, hm, hlength, hshown, hat⟩ := hturns.turns.next h
    have hm : pageSize v.request = some m := hm
    have hshown : Provider.google.shown (v.answer .google) = _ := hshown
    obtain ⟨hle, hfull⟩ := ih hat (hturns.pageSize.trans hsize)
    rw [hsize] at hm
    cases hm
    constructor
    · intro w hw
      obtain rfl | hw := List.mem_cons.mp hw
      · exact shown_le h hsize
      · exact hle w hw
    · intro w hw
      rw [List.dropLast_cons_of_ne_nil ht.ne_nil] at hw
      obtain rfl | hw := List.mem_cons.mp hw
      · rw [hshown, List.length_take, List.length_drop]
        omega
      · exact hfull w hw

/-- Every page before the last one shows something. -/
theorem length_visits_le (ht : Tour (Turns project zone) first visits last)
    (h : first.At config (.google project zone) n) :
    visits.length + n ≤ (first.sought config (.google project zone)).length + 1 := by
  induction ht generalizing n with
  | one =>
    have hle := Page.le_of_offset h.offset
    rw [List.length_singleton]
    omega
  | @more v v' visits last hturns ht ih =>
    obtain ⟨hsought, m, hm, hlength, -, hat⟩ := hturns.turns.next h
    have hpos := pageSize_pos h hm
    have hrest := ih hat
    rw [hsought] at hrest
    rw [List.length_cons]
    omega

theorem sought_last (ht : Tour (Turns project zone) first visits last)
    (h : first.At config (.google project zone) n) :
    last.sought config (.google project zone) = first.sought config (.google project zone) :=
  (ht.mono fun _ _ hturns => hturns.turns).sought_last h

theorem exists_tour (h : v.At config (.google project zone) n) :
    ∃ visits last, Tour (Turns project zone) v visits last ∧
      Provider.google.next? (last.answer .google) = none := by
  obtain ⟨visits, last, ht, hend⟩ := CloudEmulation.exists_tour h fun hp => by cases hp
  refine ⟨visits, last, ht.mono fun v v' hs => ?_, hend⟩
  exact ⟨hs.precedes, hs.cloud, hs.queries "maxResults" (by simp [Scope.provider,
    Provider.tokenName])⟩

/-! The listing as a whole. -/

theorem identitiesIn_append (h : Cloud.Consistent config c₀)
    (ops : List (Timestamp × CloudEmulation.Operation)) (scope : Scope) :
    (c₀.after ops).identitiesIn scope = c₀.identitiesIn scope ++ c₀.acceptedIn ops scope := by
  rw [Cloud.identitiesIn, Cloud.identitiesIn, CloudState.identities_list,
    CloudState.identities_list, h.identities_after, List.filter_append, List.map_append]
  rfl

theorem forall₂_fetched (hc : Cloud.Consistent config c) :
    List.Forall₂ (Fetched c project zone) (c.identitiesIn (.google project zone))
      ((c.state.instances.list (.google project zone)).map (view project)) := by
  rw [Cloud.identitiesIn, List.forall₂_map_left_iff, List.forall₂_map_right_iff, List.forall₂_same]
  exact fun i hi => fetched_view hc hi

/-- A filter that cannot be read is refused; the pages of any other are the bodies it accepts of
the instances in the order they were created. -/
theorem filtered_listing (h : Cloud.Built config c₀)
    (ops : List (Timestamp × CloudEmulation.Operation)) (project zone : String) :
    (∀ now r resource params text e, Provider.google.Routed r .list resource params →
      r.query? "filter" = some text → text.toList.all Text.isBlank = false →
      Filter.parse text = .error e → ((c₀.after ops).respond .google now r).1.status = 400) ∧
    ∃ bodies : List Json, bodies.Nodup ∧
      List.Forall₂ (Fetched (c₀.after ops) project zone)
        (c₀.identitiesIn (.google project zone) ++ c₀.acceptedIn ops (.google project zone))
        bodies ∧
      ∀ now r params accepts, Provider.google.Routed r .list "instances" params →
        params.get? "project" = some project → params.get? "zone" = some zone →
        r.condition? = .ok accepts → r.Counts "maxResults" →
        (r.query? "pageToken").getD "" = "" →
        (∃ visits last, Tour (Turns project zone) ⟨c₀.after ops, now, r⟩ visits last ∧
          Provider.google.next? (last.answer .google) = none) ∧
        ∀ visits last, Tour (Turns project zone) ⟨c₀.after ops, now, r⟩ visits last →
          (∀ v ∈ visits, (v.answer .google).isSuccess = true) ∧
          visits.length ≤ (bodies.filter accepts).length + 1 ∧
          (∀ size, pageSize r = some size →
            (∀ v ∈ visits, (Provider.google.shown (v.answer .google)).length ≤ size) ∧
            ∀ v ∈ visits.dropLast, (Provider.google.shown (v.answer .google)).length = size) ∧
          (Provider.google.next? (last.answer .google) = none →
            shownOn .google visits = bodies.filter accepts) := by
  have hc := h.consistent.after ops
  refine ⟨?_, _, hc.nodup_views (.google project zone), ?_, ?_⟩
  · intro now r resource params text e hr hq hblank he
    exact respond_of_unreadable hc hr hq hblank he
  · rw [← identitiesIn_append h.consistent]
    exact forall₂_fetched hc
  · intro now r params accepts hr hproject hzone hcondition hcounts hstart
    have hselects : (Scope.google project zone).Selects r :=
      .google hr hproject hzone hcondition hcounts
    have hat : Visit.At config (.google project zone) ⟨c₀.after ops, now, r⟩ 0 :=
      ⟨hc, hselects, Page.offset_start hstart⟩
    have hunsorted : (Scope.google project zone).Unsorted r := by
      intro hp
      cases hp
    have hsought : Visit.sought ⟨c₀.after ops, now, r⟩ config (.google project zone) =
        (((c₀.after ops).state.instances.list (.google project zone)).map
          ((Scope.google project zone).view config)).filter accepts := by
      have haccepts : (Scope.google project zone).condition r = accepts := by
        simp only [Scope.condition, Scope.provider, hcondition]
        rfl
      rw [Visit.sought, Scope.sought_unsorted hunsorted, haccepts]
    refine ⟨exists_tour hat, fun visits last ht => ?_⟩
    have hprecedes := ht.mono fun v v' hturns => hturns.precedes
    have hlength := length_visits_le ht hat
    rw [hsought] at hlength
    refine ⟨hprecedes.success hat, hlength, fun size hsize => pages_full ht hat hsize, ?_⟩
    intro hend
    have hshown := hprecedes.shown_eq hat hunsorted hend
    rw [List.drop_zero] at hshown
    have hlast : last.sought config (.google project zone) =
        Visit.sought ⟨c₀.after ops, now, r⟩ config (.google project zone) := sought_last ht hat
    rw [← hsought, ← hlast]
    exact hshown

/-- One of two instances is called `web`. -/
theorem listed_by_name :
    let body (name : String) := Json.object [("name", .string name)]
    let url (rest : List String) (query : Option String) : Url := ⟨"https", none, .segments
      (["compute", "v1", "projects", "shop", "zones", "eu", "instances"] ++ rest), query, none⟩
    let ops := [(⟨0, 0⟩, .insert "shop" "eu" (body "db")),
      (⟨1, 0⟩, .insert "shop" "eu" (body "web"))]
    let list : Http.Request := ⟨"GET", url [] (some "filter=name%3Dweb&maxResults=1"), [], none⟩
    ∃ visits last,
      Tour (Turns "shop" "eu") ⟨Cloud.initial.after ops, ⟨2, 0⟩, list⟩ visits last ∧
      (shownOn .google visits).map (·.textMember? "name") = [some "web"] := by
  intro body url ops list
  let get (name : String) : Http.Request := ⟨"GET", url [name] none, [], none⟩
  have hlist : Provider.google.Routed list .list "instances"
      [("project", "shop"), ("zone", "eu")] :=
    ⟨.of "GET" (zonePath ++ "instances") "instances" .list, by decide +kernel, rfl, rfl⟩
  have hdb : Provider.google.Routed (get "db") .get "instances"
      [("project", "shop"), ("zone", "eu"), ("instance", "db")] :=
    ⟨.of "GET" (zonePath ++ "instances/\x7binstance\x7d") "instances" .get, by decide +kernel,
      rfl, rfl⟩
  have hweb : Provider.google.Routed (get "web") .get "instances"
      [("project", "shop"), ("zone", "eu"), ("instance", "web")] :=
    ⟨.of "GET" (zonePath ++ "instances/\x7binstance\x7d") "instances" .get, by decide +kernel,
      rfl, rfl⟩
  have hcondition : list.condition? =
      .ok (Filter.accepts (.compare ["name"] .equal "web")) := by
    have hq : list.query? "filter" = some "name=web" := by decide +kernel
    rw [Http.Request.condition?, hq]
    rfl
  have hcounts : list.Counts "maxResults" := by
    intro raw hraw
    have hq : list.query? "maxResults" = some "1" := by decide +kernel
    rw [hq] at hraw
    cases hraw
    exact ⟨1, by decide +kernel, by decide⟩
  obtain ⟨-, bodies, -, hfetched, hlisted⟩ :=
    filtered_listing (.new Cloud.new_standard) ops "shop" "eu"
  have hnames : Cloud.initial.identitiesIn (.google "shop" "eu") ++
      Cloud.initial.acceptedIn ops (.google "shop" "eu") = ["db", "web"] := by decide +kernel
  rw [hnames] at hfetched
  obtain _ | @⟨_, db, _, _, hfirst, _ | @⟨_, web, _, _, hsecond, _ | _⟩⟩ := hfetched
  -- The bodies are what requests for the two instances are answered with.
  let c := Cloud.initial.after ops
  have hfirst : (c.respond .google ⟨2, 0⟩ (get "db")).1.body = some db :=
    congrArg Http.Response.body (hfirst ⟨2, 0⟩ _ _ hdb rfl rfl rfl)
  have hsecond : (c.respond .google ⟨2, 0⟩ (get "web")).1.body = some web :=
    congrArg Http.Response.body (hsecond ⟨2, 0⟩ _ _ hweb rfl rfl rfl)
  have hrefused : (c.respond .google ⟨2, 0⟩ (get "db")).1.body.map
      (Filter.accepts (.compare ["name"] .equal "web")) = some false := by decide +kernel
  have haccepted : (c.respond .google ⟨2, 0⟩ (get "web")).1.body.map (fun j =>
      (Filter.accepts (.compare ["name"] .equal "web") j, j.textMember? "name")) =
        some (true, some "web") := by decide +kernel
  rw [hfirst] at hrefused
  rw [hsecond] at haccepted
  obtain ⟨⟨visits, last, ht, hend⟩, hall⟩ :=
    hlisted ⟨2, 0⟩ list _ _ hlist rfl rfl hcondition hcounts (by decide +kernel)
  refine ⟨visits, last, ht, ?_⟩
  have hdb := Option.some.inj hrefused
  have hweb := Option.some.inj haccepted
  have hname : web.textMember? "name" = some "web" := congrArg Prod.snd hweb
  have hweb : Filter.accepts (.compare ["name"] .equal "web") web = true := congrArg Prod.fst hweb
  obtain ⟨-, -, -, hshown⟩ := hall visits last ht
  rw [hshown hend, List.filter_cons_of_neg (ne_true_of_eq_false hdb),
    List.filter_cons_of_pos hweb]
  exact congrArg (fun t => [t]) hname

end CloudEmulation.Google
