import CloudEmulation.Proofs.Azure.Machines
import CloudEmulation.Proofs.Client.Arguments
import CloudEmulation.Proofs.Client.Walks
import CloudEmulation.Proofs.Cloud.Names
import CloudEmulation.Proofs.Url.Reading
/-!
Streams of the machines of a group, which a client reads page by page from an emulated cloud.
-/

namespace CloudEmulation

open Url (Argument stripped)

namespace Azure

variable {config : Configuration} {c : Cloud} {now : Timestamp} {r : Http.Request}
  {endpoint subscription group : String} {machines : List VirtualMachine} {n : Nat} {u : Url}

/-- The machines of a group, as they are described. -/
def Described (c : Cloud) (subscription group : String) (machines : List VirtualMachine) : Prop :=
  (c.state.instances.list (.azure subscription group)).mapM (describe subscription group) =
    .ok machines

theorem Described.length_eq (h : Described c subscription group machines) : machines.length =
    (c.state.instances.list (.azure subscription group)).length := by
  have hm := congrArg List.length (Except.mapM_eq_ok.mp h)
  rw [List.length_map, List.length_map] at hm
  exact hm.symm

theorem exists_described (hc : c.Consistent config) (subscription group : String) :
    ∃ machines, Described c subscription group machines ∧ (∀ m ∈ machines, m.Canonical) ∧
      machines.map (·.name) = (c.identitiesIn (.azure subscription group)).map some := by
  have hd : ∀ i ∈ c.state.instances.list (.azure subscription group),
      ∃ m, describe subscription group i = .ok m ∧ some i.identity = m.name := by
    intro i hi
    have hmade := hc.sound.made _ i hi
    obtain ⟨m, hm, -, -⟩ := hmade.azure_view
    exact ⟨m, hm, (hmade.azure_name hm).symm⟩
  obtain ⟨machines, hm, hnames⟩ := mapM_of_forall hd
  refine ⟨machines, hm, ?_, ?_⟩
  · intro m hmem
    obtain ⟨i, -, hi⟩ := exists_of_mem_mapM hm hmem
    obtain ⟨m', -, hcanonical, rfl⟩ := describe_eq_ok hi
    exact hcanonical.assigned subscription group i
  · rw [hnames, Cloud.identitiesIn, List.map_map]
    rfl

/-- Asking for a page is answered with that page, and changes nothing. -/
theorem respond_page (hc : c.Consistent config) (ht : Described c subscription group machines)
    (hl : (Scope.azure subscription group).Lists r)
    (ho : Page.offset machines.length (r.query? tokenName) = .ok n) :
    c.respond .azure now r = (.json 200 ((MachineList.mk
      (Page.slice machines (some config.azurePageSize) n).items
      ((Page.slice machines (some config.azurePageSize) n).next.map
        (Provider.azure.link r))).encode .ofFields), c) := by
  obtain ⟨rfl, hs, -⟩ := hc
  cases hl with
  | @azure _ _ _ params hr hsubscription hgroup hversion =>
    obtain ⟨hitems, hnext⟩ := Page.mapM_slice ht (some c.config.azurePageSize) n
    have hv : hasVersion (r.call params now) = true := hasVersion_iff.mpr hversion
    have hx : (list c.config (r.call params now)).exec c.state = _ := list_of_page rfl
      (Call.param_eq_ok.mpr hsubscription) (Call.param_eq_ok.mpr hgroup) (ht.length_eq ▸ ho) hitems
    have hlist : (handler c.config .list resource (r.call params now)).exec c.state = _ :=
      (congrArg (·.exec c.state) (handler_of_version c.config .list hv)).trans hx
    have hh := (congrArg (·.exec c.state) (hr.handle c.config now)).trans hlist
    have ha := Provider.respond_of_answered hh
    show (_, Cloud.mk c.config _) = _
    rw [ha, hnext]
    rfl

/-- The URL of the page that a token begins. -/
def pageUrl (u : Url) (token : String) : Url :=
  ((request "GET" u none).withToken tokenName token).url

/-! What a client reads at a URL, whichever group it was asked for. -/

variable {account name : String}

theorem run_page (hc : c.Consistent config) (ht : Described c subscription group machines)
    (hm : ∀ m ∈ machines, m.Canonical)
    (hl : (Scope.azure subscription group).Lists (request "GET" u none)) (hu : u.Normal)
    (ho : Page.offset machines.length ((request "GET" u none).query? tokenName) = .ok n) :
    ((Client.page ⟨endpoint, account, Cloud.transport now .azure⟩ name (some u)).run).run c =
      (.ok ((Page.slice machines (some config.azurePageSize) n).items,
        (Page.slice machines (some config.azurePageSize) n).next.map fun token =>
          some (pageUrl u token)), c) := by
  have hr : c.respond .azure now (request "GET" u none) = _ := respond_page hc ht hl ho
  generalize hp : Page.slice machines (some config.azurePageSize) n = p at hr ⊢
  have hd : MachineList.decode ((MachineList.mk p.items
      (p.next.map (Provider.azure.link (request "GET" u none)))).encode .ofFields) = .ok _ :=
    MachineList.decode_encode fun m hmem => hm m (Page.mem_slice (hp ▸ hmem))
  have hlink (token : String) : Url.parse (Provider.azure.link (request "GET" u none) token) =
      .ok (pageUrl u token) := (hu.withPairs _).parse_text
  unfold Client.page
  simp only [pure_bind]
  rw [Calling.run_send hr]
  have hread : (readResponse MachineList.decode (.json 200 ((MachineList.mk p.items
      (p.next.map (Provider.azure.link (request "GET" u none)))).encode .ofFields)) :
        Calling (StateM Cloud) MachineList) = pure _ := congrArg Calling.ofDecoding hd
  rw [hread, pure_bind]
  cases hnext : p.next with
  | none => rfl
  | some token =>
    simp only [Option.map_some, hlink]
    rfl

/-- What the next page is asked for with is like what this page was asked for with. -/
theorem offset_pageUrl (hc : c.Consistent config) (ht : Described c subscription group machines)
    (hn : n ≤ machines.length) :
    Page.offset machines.length ((request "GET" (pageUrl u (toString n)) none).query? tokenName) =
      .ok n := by
  have hq : (request "GET" (pageUrl u (toString n)) none).query? tokenName =
      some (toString n) := (request "GET" u none).query?_withToken_self tokenName (toString n)
  rw [hq, ht.length_eq]
  exact hc.offset_token (ht.length_eq ▸ hn)

section

variable (hc : c.Consistent config) (ht : Described c subscription group machines)
  (hm : ∀ m ∈ machines, m.Canonical)
  (hl : (Scope.azure subscription group).Lists (request "GET" u none)) (hu : u.Normal)
  (ho : Page.offset machines.length ((request "GET" u none).query? tokenName) = .ok n)

include hc ht hm hl hu ho

/-- From each page on, enough pages tell all the rest. -/
theorem run_rest (hpage : 0 < config.azurePageSize ∨ machines.length ≤ n) {budget : Nat}
    (hb : machines.length - n < budget) :
    (Walk.run (Client.page ⟨endpoint, account, Cloud.transport now .azure⟩ name) budget none
      (some u)).run c = (⟨machines.drop n, .complete⟩, c) := by
  induction budget generalizing n u with
  | zero => omega
  | succ budget ih =>
    have hrun : ((Client.page ⟨endpoint, account, Cloud.transport now .azure⟩ name
      (some u)).run).run c = _ := run_page hc ht hm hl hu ho
    rcases Page.slice_cases machines (some config.azurePageSize) n with hs | ⟨m, hsize, hlt, hs⟩
    · rw [hs] at hrun
      exact Walk.run_last hrun budget
    · cases hsize
      rw [hs] at hrun
      have hrest := ih (hl.withToken _) (hu.withPairs _) (offset_pageUrl hc ht (Nat.le_of_lt hlt))
        (.inl (by omega)) (by omega)
      have hw := Walk.run_next hrun hrest
      rwa [← List.drop_drop, List.take_append_drop] at hw

/-- Pages without items never lead on. -/
theorem run_empty (hpage : config.azurePageSize = 0) (hn : n < machines.length) (budget : Nat) :
    (Walk.run (Client.page ⟨endpoint, account, Cloud.transport now .azure⟩ name) budget none
      (some u)).run c = (⟨[], .cut⟩, c) := by
  induction budget generalizing u with
  | zero => rfl
  | succ budget ih =>
    have hrun : ((Client.page ⟨endpoint, account, Cloud.transport now .azure⟩ name
      (some u)).run).run c = _ := run_page hc ht hm hl hu ho
    have hs : Page.slice machines (some config.azurePageSize) n = ⟨[], some (toString n)⟩ := by
      have hlt : 0 < (machines.drop n).length := by
        rw [List.length_drop]
        omega
      simp only [Page.slice, hpage, if_pos hlt, List.take_zero, Nat.add_zero]
    rw [hs] at hrun
    exact Walk.run_next hrun
      (ih (hl.withToken _) (hu.withPairs _) (offset_pageUrl hc ht (Nat.le_of_lt hn)))

end

/-! The stream of a group. -/

/-- An endpoint to which whole paths and queries are added, and which is read back with them. -/
def RootedEndpoint (endpoint : String) : Prop := ∃ u, Url.parse endpoint = .ok u ∧ u.Rooted

theorem rooted_defaultEndpoint : RootedEndpoint defaultEndpoint := by
  have h : Url.parse defaultEndpoint = .ok (rootUrl "management.azure.com") := by
    with_unfolding_all rfl
  refine ⟨_, h, ⟨⟨[""], rfl, fun _ hn => List.mem_singleton.mp hn⟩, .inl rfl, ?_⟩, ?_, ⟨_, rfl, ?_⟩,
    rfl⟩
  · show Url.kindOf "https" ≠ .file
    decide
  · show Url.kindOf "https" = .special
    decide
  · refine ⟨rfl, rfl, by decide, List.all_eq_true.mp (by decide), ?_, fun n hn => nomatch hn⟩
    with_unfolding_all rfl

theorem RootedEndpoint.bare (h : RootedEndpoint endpoint) : BareEndpoint endpoint := by
  obtain ⟨u, hu, hrooted⟩ := h
  exact ⟨u, hu, hrooted.toBare⟩

/-- The URL that the machines of a group are listed at, first of all. -/
theorem RootedEndpoint.machinesUrl (h : RootedEndpoint endpoint)
    (ha : Addressable [subscription, group]) :
    ∃ url, machinesUrl endpoint subscription group none = .ok url ∧ url.Normal ∧
      (Scope.azure (stripped subscription) (stripped group)).Opens (request "GET" url none) := by
  have ha : Addressable (subscription :: group :: (none : Option String).toList) := ha
  have hstripped := machinesUrl_stripped h.bare ha
  obtain ⟨u, hu, hrooted⟩ := h
  have hargs : ∀ p ∈ (ClientCall.listMachines (stripped subscription) (stripped group)).params,
      Argument p.2 := by
    simp only [Addressable, List.forall_mem_cons] at ha
    simp only [ClientCall.params, List.forall_mem_cons]
    exact ⟨ha.1, ha.2.1, List.forall_mem_nil _⟩
  have hsegments : ∀ s ∈ machineSegments (stripped subscription) (stripped group) none,
      Argument s :=
    ((ClientCall.listMachines _ _).route_filled hargs).argument
  obtain ⟨v, special, hjoin, hv, hsplit⟩ := hrooted.toBare.join hsegments
  have hnormal := hrooted.normal_join hsegments (by simp [machineSegments]) hjoin
  have hpairs := hrooted.toBare.appendPairs_eq hv [("api-version", apiVersion)]
  have hleads : Leads (v.withPairs [("api-version", apiVersion)])
      (machineSegments (stripped subscription) (stripped group) none)
      [("api-version", apiVersion)] := ⟨⟨special, hsplit⟩, Url.Query.decode_encode _⟩
  refine ⟨v.withPairs [("api-version", apiVersion)], ?_, hnormal.withPairs _, ?_, ?_⟩
  · exact hstripped.trans (hpairs ▸ machinesUrl_of_join hu hjoin)
  · refine .azure (ClientCall.routed rfl hargs hleads none) rfl rfl ⟨apiVersion, ?_, by decide⟩
    rw [Http.Request.query?, request, hleads.query]
    rfl
  · show ((request "GET" (v.withPairs _) none).query? tokenName).getD "" = ""
    rw [Http.Request.query?, request, hleads.query]
    rfl

/-- Shorter paths than those of the machines of a group are for nothing. -/
theorem unrouted_of_short (h : (PathTemplate.split u.pathText).length < 7) :
    Provider.azure.route? (request "GET" u none) = none := by
  have hlong : ∀ route ∈ routes, ¬route.template.segments.length < 7 := by
    rw [routes_eq]
    decide
  cases hr : Provider.azure.route? (request "GET" u none) with
  | none => rfl
  | some routed =>
    obtain ⟨route, params⟩ := routed
    have hlength := Emulator.length_of_route? hr
    exact absurd (hlength ▸ h) (hlong route (Provider.mem_routes hr).1)

theorem status_of_error (r : Http.Response) : (errorOfResponse r).status? = some r.status := by
  unfold errorOfResponse
  split
  · rfl
  · rfl

theorem run_unrouted (h : Provider.azure.route? (request "GET" u none) = none) :
    ∃ e : ClientError, e.isUnsupported = true ∧
      ((Client.page ⟨endpoint, account, Cloud.transport now .azure⟩ name (some u)).run).run c =
        (.error e, c) := by
  obtain ⟨f, hf⟩ : ∃ f, f = (emulator c.config).unrouted (request "GET" u none) := ⟨_, rfl⟩
  have hr : c.respond .azure now (request "GET" u none) = (refusal f, c) := by
    have hh : ((Provider.azure.emulator c.config).handle now (request "GET" u none)).exec c.state =
        (.error f, c.state) := by
      rw [Provider.handle_of_unrouted h, hf]
      rfl
    show (_, Cloud.mk c.config _) = _
    rw [Emulator.run_respond, hh]
    rfl
  refine ⟨errorOfResponse (refusal f), ?_, ?_⟩
  · rw [ClientError.isUnsupported, status_of_error, hf]
    rfl
  · unfold Client.page
    simp only [pure_bind]
    rw [Calling.run_send hr, readResponse, hf]
    rfl

/-- What a client of an emulated cloud reads of a group, on at most `budget` pages. -/
def stream (c : Cloud) (endpoint subscription group : String) (now : Timestamp) (budget : Nat) :
    CloudEmulation.Walk VirtualMachine × Cloud :=
  (Client.list ⟨endpoint, subscription, Cloud.transport now .azure⟩ budget none group).run c

theorem stream_eq (h : machinesUrl endpoint subscription group none = .ok u) (budget : Nat) :
    stream c endpoint subscription group now budget =
      (Walk.run (Client.page ⟨endpoint, subscription, Cloud.transport now .azure⟩ group) budget none
        (some u)).run c := by
  have hp : Client.page ⟨endpoint, subscription, Cloud.transport now .azure⟩ group none =
      Client.page ⟨endpoint, subscription, Cloud.transport now .azure⟩ group (some u) := by
    unfold Client.page
    simp only [h]
    rfl
  rw [stream, Client.list, Walk.run_congr hp]

section

variable (he : RootedEndpoint endpoint) (ha : Addressable [subscription, group])
  (hc : c.Consistent config)
  (ht : Described c (stripped subscription) (stripped group) machines)
  (hm : ∀ m ∈ machines, m.Canonical)

include he ha hc ht hm

theorem stream_of_pages (hpage : 0 < config.azurePageSize ∨ machines = []) {budget : Nat}
    (hb : machines.length < budget) :
    stream c endpoint subscription group now budget = (⟨machines, .complete⟩, c) := by
  obtain ⟨url, hurl, hnormal, hlists, hfirst⟩ := he.machinesUrl ha
  have hrest : 0 < config.azurePageSize ∨ machines.length ≤ 0 := by
    refine hpage.imp_right ?_
    rintro rfl
    exact Nat.le_refl 0
  rw [stream_eq hurl, run_rest hc ht hm hlists hnormal (Page.offset_start hfirst) hrest (by omega),
    List.drop_zero]

theorem stream_of_empty_pages (hpage : config.azurePageSize = 0) (hne : machines ≠ [])
    (budget : Nat) : stream c endpoint subscription group now budget = (⟨[], .cut⟩, c) := by
  obtain ⟨url, hurl, hnormal, hlists, hfirst⟩ := he.machinesUrl ha
  rw [stream_eq hurl, run_empty hc ht hm hlists hnormal (Page.offset_start hfirst) hpage
    (List.length_pos_of_ne_nil hne)]

end

theorem stream_unaddressable (he : RootedEndpoint endpoint)
    (ha : ¬Addressable [subscription, group]) (budget : Nat) :
    ∃ e : ClientError, e.isUnsupported = true ∧
      stream c endpoint subscription group now (budget + 1) = (⟨[], .failed e⟩, c) := by
  have ha : ¬Addressable (subscription :: group :: (none : Option String).toList) := ha
  obtain ⟨url, hurl, hlt⟩ := machinesUrl_short he.bare ha
  obtain ⟨e, he, hrun⟩ := run_unrouted (unrouted_of_short hlt)
  exact ⟨e, he, (stream_eq hurl _).trans (Walk.run_failed hrun budget)⟩

/-- The stream of a group ends after finitely many pages, with all machines in the order in which
they were created, unless pages have no items: then it never ends and tells none. What is ignored in
the name of a group does not matter, and where a name vanishes from the path the stream fails. -/
theorem streams_tell_groups {c₀ : Cloud} (h : Cloud.new config = .ok c₀)
    (ops : List (Timestamp × Operation)) (he : RootedEndpoint endpoint)
    (subscription group : String) (now : Timestamp) :
    let c := c₀.after ops
    let names := c₀.acceptedIn ops (.azure (stripped subscription) (stripped group))
    (Addressable [subscription, group] →
      ∃ machines, Described c (stripped subscription) (stripped group) machines ∧
        machines.map (·.name) = names.map some ∧ names.Nodup ∧
        (0 < config.azurePageSize ∨ names = [] → ∀ budget, names.length < budget →
          stream c endpoint subscription group now budget = (⟨machines, .complete⟩, c)) ∧
        (config.azurePageSize = 0 → names ≠ [] → ∀ budget,
          stream c endpoint subscription group now budget = (⟨[], .cut⟩, c))) ∧
    (¬Addressable [subscription, group] → ∀ budget, ∃ e : ClientError, e.isUnsupported = true ∧
      stream c endpoint subscription group now (budget + 1) = (⟨[], .failed e⟩, c)) := by
  intro c names
  refine ⟨fun ha => ?_, fun ha => stream_unaddressable he ha⟩
  have hc : c.Consistent config := (Cloud.consistent_of_new h).after ops
  obtain ⟨machines, ht, hm, hnames⟩ :=
    exists_described hc (stripped subscription) (stripped group)
  rw [Cloud.identitiesIn_after h] at hnames
  have hlength : machines.length = names.length := by
    rw [← List.length_map (·.name), hnames, List.length_map]
  have hempty : machines = [] ↔ names = [] := by
    rw [← List.length_eq_zero_iff, hlength, List.length_eq_zero_iff]
  refine ⟨machines, ht, hnames, Cloud.nodup_acceptedIn h ops _, ?_, ?_⟩
  · intro hpage budget hb
    exact stream_of_pages he ha hc ht hm (hpage.imp_right hempty.mpr) (hlength ▸ hb)
  · intro hpage hne budget
    exact stream_of_empty_pages he ha hc ht hm hpage (mt hempty.mp hne) budget

/-- The initial cloud, with pages of some size. -/
def paged (size : Nat) : Cloud :=
  { Cloud.initial with config := { Configuration.standard with azurePageSize := size } }

theorem new_paged (size : Nat) :
    Cloud.new { Configuration.standard with azurePageSize := size } = .ok (paged size) := by
  have hp : AddressPool.parse? Configuration.standard.networkCidr =
    some ⟨0x0A000000, 0x0A0000FF, 0x0A000002, [], "10.0.0.0/24"⟩ := by decide +kernel
  rw [Cloud.new, AddressPool.parse, hp]
  rfl

/-- Two machines on two pages. -/
theorem stream_of_two_pages :
    let body := Json.object [("location", .string "westeurope")]
    let c := (paged 1).after [(⟨0, 0⟩, .put "sub" "group" "web" body),
      (⟨1, 0⟩, .put "sub" "group" "db" body)]
    ∃ machines, machines.map (·.name) = [some "web", some "db"] ∧
      stream c defaultEndpoint "sub" "group" ⟨2, 0⟩ 3 = (⟨machines, .complete⟩, c) := by
  intro body c
  have hstripped : stripped "sub" = "sub" ∧ stripped "group" = "group" := by decide
  obtain ⟨machines, -, hnames, -, hstream, -⟩ := (streams_tell_groups (new_paged 1)
    [(⟨0, 0⟩, .put "sub" "group" "web" body), (⟨1, 0⟩, .put "sub" "group" "db" body)]
    rooted_defaultEndpoint "sub" "group" ⟨2, 0⟩).1 (by decide)
  have ha : (paged 1).acceptedIn [(⟨0, 0⟩, .put "sub" "group" "web" body),
      (⟨1, 0⟩, .put "sub" "group" "db" body)] (.azure "sub" "group") = ["web", "db"] := by
    decide +kernel
  rw [hstripped.1, hstripped.2, ha] at hnames hstream
  exact ⟨machines, hnames, hstream (.inl (by decide)) 3 (by decide)⟩

/-- A machine that was created is never told where pages have no items. -/
theorem endless_stream :
    let body := Json.object [("location", .string "westeurope")]
    let ops := [(⟨0, 0⟩, .put "sub" "group" "web" body)]
    Cloud.new { Configuration.standard with azurePageSize := 0 } = .ok (paged 0) ∧
      (paged 0).acceptedIn ops (.azure "sub" "group") = ["web"] ∧
      ∀ budget, (stream ((paged 0).after ops) defaultEndpoint "sub" "group" ⟨1, 0⟩ budget).1 =
        ⟨[], .cut⟩ := by
  intro body ops
  have ha : (paged 0).acceptedIn ops (.azure "sub" "group") = ["web"] := by decide +kernel
  refine ⟨new_paged 0, ha, fun budget => ?_⟩
  have hc : ((paged 0).after ops).Consistent _ := (Cloud.consistent_of_new (new_paged 0)).after ops
  have hstripped : stripped "sub" = "sub" ∧ stripped "group" = "group" := by decide
  obtain ⟨machines, ht, hm, hnames⟩ := exists_described hc (stripped "sub") (stripped "group")
  have hne : machines ≠ [] := by
    rintro rfl
    rw [hstripped.1, hstripped.2, Cloud.identitiesIn_after (new_paged 0), ha] at hnames
    cases hnames
  exact congrArg Prod.fst
    (stream_of_empty_pages rooted_defaultEndpoint (by decide) hc ht hm rfl hne budget)

end Azure

end CloudEmulation
