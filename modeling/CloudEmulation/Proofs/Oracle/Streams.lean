import CloudEmulation.Proofs.Client.Requests
import CloudEmulation.Proofs.Client.Walks
import CloudEmulation.Proofs.Cloud.Times
import CloudEmulation.Proofs.Oracle.Machines
import CloudEmulation.Proofs.Oracle.Sorting
/-!
Lists of a compartment, as their pages show them and as a client reads them: the same sequence.
-/

namespace CloudEmulation.Oracle

open Numeral (word64Limit)

variable {config : Configuration} {c c₀ : Cloud} {now : Timestamp} {endpoint compartment : String}
  {o : ListOptions} {token : Option String} {n : Nat} {machines : List ComputeInstance}

/-! The requests of a client. -/

theorem SortKey.ofName?_name (k : SortKey) : ofName? k.name = some k := by
  cases k <;> decide

theorem SortOrder.ofName?_name (o : SortOrder) : ofName? o.name = some o := by
  cases o <;> decide

/-- Parameters without a value are left out. -/
theorem find?_given (pairs : List (String × Option String)) (name : String) :
    ((ClientCall.query.given pairs).find? (·.1 = name)).map (·.2) =
      (pairs.filter (·.1 = name)).findSome? (·.2) := by
  induction pairs with
  | nil => rfl
  | cons p pairs ih =>
    obtain ⟨other, value⟩ := p
    rw [ClientCall.query.given] at ih ⊢
    by_cases h : other = name
    · cases value with
      | none => simpa [h] using ih
      | some v => simp [h]
    · cases value with
      | none => simpa [h] using ih
      | some v => simpa [h] using ih

/-- Whether a list with some options can be asked for, from its first page on. -/
structure ListOptions.Accepted (o : ListOptions) (compartment : String) : Prop where
  compartment : compartment ≠ ""
  limit : ∀ n, o.limit = some n → 0 < n ∧ n ≤ word64Limit
  page : o.page.getD "" = ""

theorem chosen_of_query {α : Type} {r : Http.Request} {field : String} {name : α → String}
    {ofName? : String → Option α} {value : Option α} (hname : ∀ a, ofName? (name a) = some a)
    (hq : r.query? field = value.map name) :
    r.Chooses field ofName? ∧ (r.query? field).bind ofName? = value := by
  cases value with
  | none =>
    refine ⟨fun raw hraw => ?_, by rw [hq]; rfl⟩
    rw [hq] at hraw
    cases hraw
  | some a =>
    refine ⟨fun raw hraw => ?_, by rw [hq]; exact hname a⟩
    rw [hq] at hraw
    cases hraw
    rw [hname]
    rfl

/-- A limit that can be asked for is read back. -/
theorem counts_of_limit {r : Http.Request} {limit : Option Nat}
    (hl : ∀ n, limit = some n → 0 < n ∧ n ≤ word64Limit)
    (hq : r.query? "limit" = limit.map toString) :
    r.Counts "limit" ∧ (r.query? "limit").bind Numeral.word64? = limit := by
  have hword : ∀ n, limit = some n → Numeral.word64? (toString n) = some n := fun n hn =>
    Numeral.word64?_toString (hl n hn).2
  constructor
  · intro raw hraw
    rw [hq] at hraw
    obtain ⟨n, hn, rfl⟩ := Option.map_eq_some_iff.mp hraw
    exact ⟨n, hword n hn, (hl n hn).1⟩
  · rw [hq]
    cases limit with
    | none => rfl
    | some n => exact hword n rfl

/-- The request that a client sends for a page. -/
theorem exists_request (he : BareEndpoint endpoint) (ha : o.Accepted compartment)
    (token : Option String) :
    ∃ url, resourceUrl endpoint ["instances"] ({ o with page := token }.pairs compartment) =
        .ok url ∧
      (Scope.oracle compartment).Selects ⟨"GET", url, [], none⟩ ∧
      o.AskedBy ⟨"GET", url, [], none⟩ ∧
      (Scope.oracle compartment).limit config ⟨"GET", url, [], none⟩ = o.limit ∧
      Http.Request.query? ⟨"GET", url, [], none⟩ "page" = token := by
  let paged : ListOptions := { o with page := token }
  have hparams : ∀ p ∈ (ClientCall.listOracleInstances compartment paged).params,
      Url.Argument p.2 := by
    intro p hp
    cases hp
  obtain ⟨url, hurl, hleads⟩ := resourceUrl_eq he (paged.pairs compartment)
    ((ClientCall.listOracleInstances compartment paged).route_filled hparams).argument
  obtain ⟨r, hr⟩ : ∃ r : Http.Request, r = ⟨"GET", url, [], none⟩ := ⟨_, rfl⟩
  have hrouted : Provider.oracle.Routed r .list "instances" [] :=
    hr ▸ ClientCall.routed rfl hparams hleads none
  have hquery (name : String) : r.query? name =
      ((paged.pairs compartment).filter (·.1 = name)).findSome? (·.2) := by
    rw [hr, Http.Request.query?, hleads.query]
    exact find?_given _ name
  simp only [ListOptions.pairs, paged] at hquery
  obtain ⟨hkey, hkey'⟩ := chosen_of_query SortKey.ofName?_name
    (by simp [hquery] : r.query? "sortBy" = o.sortBy.map SortKey.name)
  obtain ⟨horder, horder'⟩ := chosen_of_query SortOrder.ofName?_name
    (by simp [hquery] : r.query? "sortOrder" = o.sortOrder.map SortOrder.name)
  obtain ⟨hcounts, hlimit⟩ := counts_of_limit ha.limit
    (by simp [hquery] : r.query? "limit" = o.limit.map toString)
  refine ⟨url, hurl, hr ▸ ?_, hr ▸ ?_, hr ▸ hlimit, hr ▸ ?_⟩
  · exact .oracle hrouted (by simp [hquery]) ha.compartment hkey horder hcounts
  · exact ⟨by simp [hquery], by simp [hquery], by simp [hquery], hkey', horder'⟩
  · simp [hquery]

/-! What a client reads. -/

theorem exists_described (hc : c.Consistent config)
    (ht : ∀ i ∈ c.state.instances.list (.oracle compartment), i.createdAt.Valid)
    (o : ListOptions) :
    ∃ machines : List ComputeInstance,
      (o.chosen (c.state.instances.list (.oracle compartment))).mapM (describe config) =
        .ok machines ∧ (∀ m ∈ machines, m.Canonical) ∧
      machines.map (·.encode .ofFields) =
        (o.chosen (c.state.instances.list (.oracle compartment))).map
          ((Scope.oracle compartment).view config) := by
  have hd : ∀ i ∈ o.chosen (c.state.instances.list (.oracle compartment)), ∃ m,
      describe config i = .ok m ∧
        (Scope.oracle compartment).view config i = m.encode .ofFields := by
    intro i hi
    obtain ⟨m, hm, hv, -⟩ := (hc.sound.made _ i (o.mem_of_chosen hi)).oracle_view
    exact ⟨m, hm, hv⟩
  obtain ⟨machines, hm, hviews⟩ := mapM_of_forall hd
  refine ⟨machines, hm, ?_, hviews⟩
  intro m hmem
  obtain ⟨i, hi, him⟩ := exists_of_mem_mapM hm hmem
  exact canonical_of_describe him (ht i (o.mem_of_chosen hi))

/-- The body of an answer to a list is what the answer shows. -/
theorem content_of_selects {r : Http.Request} (h : (Scope.oracle compartment).Selects r)
    (hs : (c.respond .oracle now r).1.isSuccess = true) :
    (c.respond .oracle now r).1.content =
      .array (Provider.oracle.shown (c.respond .oracle now r).1) := by
  cases h with
  | oracle hrouted =>
    obtain ⟨-, shown, -, -, hbody⟩ := selects_of_success hrouted hs
    have hbody : (c.respond .oracle now r).1.body = some (.array shown) := hbody
    rw [Http.Response.content, Provider.shown, hbody]
    rfl

section

variable (he : BareEndpoint endpoint) (ha : o.Accepted compartment)
  (hm : ∀ m ∈ machines, m.Canonical)

include he ha hm

theorem run_page (now : Timestamp) (hc : c.Consistent config)
    (hviews : machines.map (·.encode .ofFields) =
      (o.chosen (c.state.instances.list (.oracle compartment))).map
        ((Scope.oracle compartment).view config))
    (ho : Page.offset machines.length token = .ok n) :
    ∃ c', (Client.page ⟨endpoint, Cloud.transport now .oracle⟩ compartment o token).run.run c =
        (.ok ((Page.slice machines o.limit n).items,
          (Page.slice machines o.limit n).next.map some), c') ∧ c.Step none c' := by
  obtain ⟨url, hurl, hselects, hasked, hlimit, htoken⟩ := exists_request he ha token
  obtain ⟨r, hr⟩ : ∃ r : Http.Request, r = ⟨"GET", url, [], none⟩ := ⟨_, rfl⟩
  rw [← hr] at hselects hasked hlimit htoken
  have hsought := (hasked.sought (hc.sound.made _)).trans hviews.symm
  have ho' : Page.offset ((Scope.oracle compartment).sought config r
      (c.state.instances.list (.oracle compartment))).length (r.query? "page") = .ok n := by
    rw [hsought, List.length_map, htoken]
    exact ho
  obtain ⟨hd, hstep⟩ := Cloud.respond_selects hc hselects now ho'
  rw [hsought, hlimit, Page.map_slice] at hd
  obtain ⟨answer, c', hx⟩ : ∃ answer c', c.respond .oracle now r = (answer, c') := ⟨_, _, rfl⟩
  have hx' : c.respond (Scope.oracle compartment).provider now r = (answer, c') := hx
  rw [hx'] at hd hstep
  have hcontent : answer.content =
      .array ((Page.slice machines o.limit n).items.map (·.encode .ofFields)) := by
    have hc := content_of_selects hselects (hx ▸ hd.success : (c.respond .oracle now r).1.isSuccess)
    rw [hx] at hc
    exact hc.trans (congrArg Json.array hd.shown)
  have hdecode : Json.asList ComputeInstance.decode answer.content =
      .ok (Page.slice machines o.limit n).items := by
    rw [hcontent]
    exact Json.asList_map fun m hmem =>
      ComputeInstance.decode_encode (hm m (Page.mem_slice hmem))
  have hnext : answer.header? "opc-next-page" = (Page.slice machines o.limit n).next :=
    hd.next.trans Option.map_id'
  refine ⟨c', ?_, hstep⟩
  unfold Client.page Client.listInstances Client.call
  rw [hurl]
  simp only [Calling.ofUrl, pure_bind, bind_assoc]
  rw [← hr, Calling.run_send hx]
  rw [Answer.ofResponse, if_pos hd.success, hdecode]
  show (Except.ok (_, Option.map some (answer.header? "opc-next-page")), c') = _
  rw [hnext]

/-- From each page on, enough pages tell all the rest. -/
theorem run_rest (hc : c.Consistent config)
    (hviews : machines.map (·.encode .ofFields) =
      (o.chosen (c.state.instances.list (.oracle compartment))).map
        ((Scope.oracle compartment).view config))
    (ho : Page.offset machines.length token = .ok n) {budget : Nat}
    (hb : machines.length - n < budget) :
    ∃ c', (Walk.run (Client.page ⟨endpoint, Cloud.transport now .oracle⟩ compartment o) budget none
        token).run c = (⟨machines.drop n, .complete⟩, c') ∧
      c'.state.instances = c.state.instances := by
  -- Each page is of the same list: reading it creates nothing.
  induction budget generalizing c token n with
  | zero => omega
  | succ budget ih =>
    obtain ⟨c', hrun, hstep⟩ := run_page he ha hm now hc hviews ho
    rcases Page.slice_cases machines o.limit n with hs | ⟨m, hlimit, hlt, hs⟩
    · rw [hs] at hrun
      exact ⟨c', Walk.run_last hrun budget, hstep.instances⟩
    · rw [hs] at hrun
      have hlength : machines.length ≤ word64Limit := by
        have hl := congrArg List.length hviews
        rw [List.length_map, List.length_map] at hl
        rw [hl]
        exact (o.length_chosen_le _).trans (hc.length_list_le _)
      have hpos := (ha.limit m hlimit).1
      obtain ⟨c'', hrest, hinstances⟩ := ih (hc.step hstep) (hstep.instances ▸ hviews)
        (Page.offset_toString (Nat.le_of_lt hlt) hlength) (by omega)
      have hw := Walk.run_next hrun hrest
      rw [← List.drop_drop, List.take_append_drop] at hw
      exact ⟨c'', hw, hinstances.trans hstep.instances⟩

end

/-- What a client of an emulated cloud reads of a compartment, on at most `budget` pages. -/
def stream (c : Cloud) (endpoint compartment : String) (o : ListOptions) (now : Timestamp)
    (budget : Nat) : Walk ComputeInstance × Cloud :=
  (Client.listAll ⟨endpoint, Cloud.transport now .oracle⟩ budget compartment o).run c

/-! Lists of a compartment. -/

/-- The pages of a list show the instances of a compartment that are asked for, each one once, in
the order that is asked for; where that does not tell two instances apart, or none is asked for,
the older one comes first. The same order results if instances are chosen after sorting them. A
client that reads all pages reads that list. -/
theorem listings_in_order (h : Cloud.new config = .ok c₀) (ops : List (Timestamp × Operation))
    (compartment : String) (o : ListOptions) :
    let c := c₀.after ops
    let scope := Scope.oracle compartment
    let all := c.state.instances.list scope
    let listed := arranged o.sortBy o.sortOrder (all.filter o.admits)
    all.map Instance.identity = c₀.acceptedIn ops scope ∧
    Ordered o.sortBy o.sortOrder (all.filter o.admits) listed ∧
    (arranged o.sortBy o.sortOrder all).filter o.admits = listed ∧
    (listed.map (scope.view config)).Nodup ∧
    (∀ now r params, Provider.oracle.Routed r .list "instances" params →
      (c.respond .oracle now r).1.isSuccess = true →
      r.query? "compartmentId" = some compartment → o.AskedBy r →
      (r.query? "page").getD "" = "" →
      (∃ visits last, Tour (Visit.Succeeds scope) ⟨c, now, r⟩ visits last ∧
        Provider.oracle.next? (last.answer .oracle) = none) ∧
      ∀ visits last, Tour (Visit.Turns scope) ⟨c, now, r⟩ visits last →
        (∀ v ∈ visits, (v.answer .oracle).isSuccess = true) ∧
        (Provider.oracle.next? (last.answer .oracle) = none →
          shownOn .oracle visits = listed.map (scope.view config))) ∧
    ((∀ step ∈ ops, step.1.Valid) → o.Accepted compartment →
      ∃ machines, listed.mapM (describe config) = .ok machines ∧
        ∀ endpoint now budget, BareEndpoint endpoint → listed.length < budget →
          ∃ c', stream c endpoint compartment o now budget = (⟨machines, .complete⟩, c') ∧
            c'.state.instances = c.state.instances) := by
  intro c scope all listed
  have hc : c.Consistent config := (Cloud.consistent_of_new h).after ops
  have hlisted : o.chosen all = listed := filter_arranged _ _ _ _
  refine ⟨Cloud.identitiesIn_after h ops scope, ordered_arranged _ _ _, hlisted, ?_, ?_, ?_⟩
  · have hnodup := (hc.nodup_views scope).sublist ((List.filter_sublist (p := o.admits)).map _)
    exact ((ordered_arranged _ _ _).perm.map _).nodup_iff.mpr hnodup
  · intro now r params hr hs hcompartment hasked hstart
    have hsought : scope.sought config r all = listed.map (scope.view config) := by
      rw [hasked.sought (hc.sound.made _), hlisted]
    have hselects : scope.Selects r := by
      obtain ⟨compartment', -, hq, hselects, -⟩ := selects_of_success hr hs
      cases hcompartment.symm.trans hq
      exact hselects
    have hat : (⟨c, now, r⟩ : Visit).At config scope 0 := ⟨hc, hselects, Page.offset_start hstart⟩
    refine ⟨exists_tour hat (fun hp => by cases hp), fun visits last ht => ?_⟩
    have hp := ht.mono fun v v' hv => hv.precedes
    refine ⟨hp.success hat, fun hend => ?_⟩
    have hshown := ht.shown_sought hat hend
    rw [List.drop_zero] at hshown
    exact hshown.trans hsought
  · intro htimes ha
    have hdated : ∀ i ∈ all, i.createdAt.Valid := by
      intro i hi
      obtain ⟨step, hstep, ht⟩ := List.mem_map.mp (Cloud.dated_of_new h ops hi)
      exact ht ▸ htimes step hstep
    obtain ⟨machines, hmachines, hm, hviews⟩ := exists_described hc hdated o
    refine ⟨machines, hlisted ▸ hmachines, fun endpoint now budget he hb => ?_⟩
    have hlength : machines.length = listed.length := by
      have hl := congrArg List.length hviews
      rwa [List.length_map, List.length_map, hlisted] at hl
    exact run_rest he ha hm hc hviews (Page.offset_start ha.page) (by omega)

theorem names_of_described {l : List Instance} (h : l.mapM (describe config) = .ok machines) :
    machines.map (·.displayName) = l.map (·.name) := by
  induction l generalizing machines with
  | nil =>
    cases h
    rfl
  | cons i l ih =>
    rw [List.mapM_cons] at h
    obtain ⟨m, hm, h⟩ := Except.bind_eq_ok.mp h
    obtain ⟨rest, hrest, h⟩ := Except.bind_eq_ok.mp h
    cases h
    have hname : m.displayName = i.name := by
      unfold describe at hm
      split at hm
      · cases hm
        rfl
      · cases hm
    rw [List.map_cons, List.map_cons, hname, ih hrest]

/-- Two instances by their names, on two pages. -/
theorem stream_by_name :
    let body (name : String) := Json.object
      [("compartmentId", .string "team"), ("displayName", .string name)]
    let c := Cloud.initial.after [(⟨0, 0⟩, .launch (body "web")), (⟨1, 0⟩, .launch (body "db"))]
    let o := { ListOptions.none with sortBy := some .displayName, limit := some 1 }
    ∃ machines c', stream c (endpointOf defaultRegion) "team" o ⟨2, 0⟩ 3 =
        (⟨machines, .complete⟩, c') ∧ machines.map (·.displayName) = ["db", "web"] := by
  intro body c o
  obtain ⟨-, hordered, -, -, -, hstream⟩ := listings_in_order Cloud.new_standard
    [(⟨0, 0⟩, .launch (body "web")), (⟨1, 0⟩, .launch (body "db"))] "team" o
  have htimes : ∀ step ∈ [((⟨0, 0⟩ : Timestamp), Operation.launch (body "web")),
      (⟨1, 0⟩, .launch (body "db"))], step.1.Valid := by
    simp only [List.forall_mem_cons]
    exact ⟨⟨by decide, by decide⟩, ⟨by decide, by decide⟩, List.forall_mem_nil _⟩
  have ha : o.Accepted "team" := ⟨by decide, fun n hn => by cases hn; decide, rfl⟩
  obtain ⟨machines, hmachines, hstream⟩ := hstream htimes ha
  have hnames : ((c.state.instances.list (.oracle "team")).filter o.admits).map (·.name) =
      ["web", "db"] := by decide +kernel
  have hkeys := hordered.keys .displayName rfl
  have hperm := hordered.perm.map (·.name)
  rw [hnames] at hperm
  generalize arranged o.sortBy o.sortOrder _ = listed at hkeys hperm hmachines hstream
  have hsorted : listed.map (·.name) = ["db", "web"] := by
    have hantisymm (x y : String) (hxy : Ord.compare x y ≠ .gt) (hyx : Ord.compare y x ≠ .gt) :
        x = y := by
      rw [Std.OrientedOrd.eq_swap, ne_eq, Ordering.swap_eq_gt] at hyx
      cases h : Ord.compare x y with
      | lt => exact absurd h hyx
      | eq => exact Std.compare_eq_iff_eq.mp h
      | gt => exact absurd h hxy
    refine List.Perm.eq_of_pairwise (fun x y _ _ => hantisymm x y) (List.pairwise_map.mpr hkeys) ?_
      (hperm.trans (.swap _ _ _))
    decide
  obtain ⟨c', hrun, -⟩ := hstream (endpointOf defaultRegion) ⟨2, 0⟩ 3
    (Provider.bare_defaultEndpoint .oracle) (by rw [← List.length_map (·.name), hsorted]; decide)
  exact ⟨machines, c', hrun, (names_of_described hmachines).trans hsorted⟩

end CloudEmulation.Oracle
