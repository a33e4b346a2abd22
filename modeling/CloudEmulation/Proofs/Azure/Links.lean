import CloudEmulation.Proofs.Azure.Streams
import CloudEmulation.Proofs.Cloud.Tours
import CloudEmulation.Proofs.Cloud.Walks
import CloudEmulation.Proofs.Emulation.Bodies
import CloudEmulation.Proofs.Url.Building
/-!
The link of a page leads to the next page: it is the text of the URL of the request, whatever that
URL is, with the token of the next page in place of all others.
-/

namespace CloudEmulation.Azure

open Cloud (Consistent Reachable)

variable {config : Configuration} {c : Cloud} {now : Timestamp} {r : Http.Request} {u : Url}
  {verb : Verb} {params : Params} {link subscription group : String}

/-! Which URLs are routed. -/

theorem head?_routes : ∀ route ∈ routes,
    route.template.segments.head? = some (.literal "subscriptions") := by
  decide +kernel

theorem head?_of_routed {resource : String} (h : Provider.azure.Routed r verb resource params) :
    (PathTemplate.split r.url.pathText).head? = some "subscriptions" := by
  obtain ⟨route, hr, -, -⟩ := h
  obtain ⟨other, hmem, hother⟩ := List.exists_of_findSome?_eq_some hr
  split at hother
  · obtain ⟨params, hmatch, -⟩ := Option.map_eq_some_iff.mp hother
    obtain ⟨ts, hts⟩ := List.head?_eq_some_iff.mp (head?_routes other hmem)
    rw [PathTemplate.matches?, hts] at hmatch
    cases hs : PathTemplate.split r.url.pathText with
    | nil =>
      rw [hs] at hmatch
      cases hmatch
    | cons part parts =>
      rw [hs, PathTemplate.matchSegments?, PathTemplate.matchSegment?] at hmatch
      split at hmatch
      · rename_i hliteral _
        split at hliteral
        · rename_i he
          rw [List.head?_cons, he]
        · cases hliteral
      · cases hmatch
  · cases hother

/-- No path that is routed begins with a drive. -/
theorem onDrive_of_routed {resource : String} (h : Provider.azure.Routed r verb resource params)
    (hu : r.url.Canonical) : Url.Read.onDrive r.url.path = false := by
  cases hp : r.url.path with
  | whole t => rfl
  | segments names =>
    cases names with
    | nil => rfl
    | cons n names =>
      show Url.Read.isDrive n = false
      rw [Bool.eq_false_iff, ne_eq, Url.isDrive_iff]
      rintro ⟨letter, mark, hn, -⟩
      have hsplit := Url.split_text (hu.slash_notMem hp)
      have hne : n ≠ "" := by
        rintro rfl
        cases hn
      have hhead := head?_of_routed h
      rw [Url.pathText, hp, hsplit, List.filter_cons_of_pos (by simpa using hne),
        List.head?_cons, Option.some.injEq] at hhead
      rw [hhead] at hn
      have hlength := congrArg List.length hn
      cases hlength

/-! What a link says. -/

theorem page_of_list {s s' : CloudState} {call : Call} {answer : Http.Response}
    (h : (list config call).exec s = (.ok answer, s')) :
    ∃ subscription group n, call.params.get? "subscriptionId" = some subscription ∧
      call.params.get? "resourceGroupName" = some group ∧
      Page.offset (s.instances.list (.azure subscription group)).length (call.query? tokenName) =
        .ok n ∧
      Provider.azure.next? answer = (Page.slice (s.instances.list (.azure subscription group))
        (some config.azurePageSize) n).next.map fun token => (nextLink call token).text := by
  obtain ⟨subscription, group, p, machines, hsubscription, hgroup, hp, -, rfl⟩ := listing_eq_ok h
  obtain ⟨n, hn, rfl⟩ := Page.of_eq_ok.mp hp
  exact ⟨subscription, group, n, hsubscription, hgroup, hn, (shown_of_list machines _).2⟩

/-- Only a list in a named version is continued. -/
theorem list_of_next? (hr : Provider.azure.Routed r .list resource params)
    (hnext : Provider.azure.next? (c.respond .azure now r).1 = some link) :
    hasVersion (r.call params now) = true ∧ ∃ answer s',
      (list c.config (r.call params now)).exec c.state = (.ok answer, s') ∧
        Provider.azure.next? answer = some link := by
  have hhandle := hr.handle c.config now
  have hrun := Emulator.run_respond (Provider.azure.emulator c.config) now r c.state
  have hanswer : (c.respond .azure now r).1 =
      (((Provider.azure.emulator c.config).respond now r).run c.state).1 := rfl
  cases hv : hasVersion (r.call params now) with
  | false =>
    have hx : ((Provider.azure.emulator c.config).handle now r).exec c.state =
        (.ok versionMissing, c.state) :=
      congrArg (·.exec c.state) (hhandle.trans (handler_of_versionless c.config .list hv))
    rw [hanswer, Provider.respond_of_answered hx] at hnext
    cases hnext
  | true =>
    have hx : ((Provider.azure.emulator c.config).handle now r).exec c.state =
        (list c.config (r.call params now)).exec c.state :=
      congrArg (·.exec c.state) (hhandle.trans (handler_of_version c.config .list hv))
    cases hl : (list c.config (r.call params now)).exec c.state with
    | mk result s' =>
      rw [hl] at hx
      cases result with
      | error f =>
        rw [hanswer, hrun, hx] at hnext
        cases hnext
      | ok answer =>
        rw [hanswer, Provider.respond_of_answered hx] at hnext
        exact ⟨rfl, answer, s', rfl, hnext⟩

/-- The link says where the page ended. -/
theorem lists_of_next? (hc : Consistent config c)
    (hr : Provider.azure.Routed r .list resource params)
    (hnext : Provider.azure.next? (c.respond .azure now r).1 = some link) :
    ∃ subscription group n, params.get? "subscriptionId" = some subscription ∧
      params.get? "resourceGroupName" = some group ∧ (Scope.azure subscription group).Lists r ∧
      Page.offset (c.state.instances.list (.azure subscription group)).length
        (r.query? tokenName) = .ok n ∧
      n + config.azurePageSize < (c.state.instances.list (.azure subscription group)).length ∧
      link = (r.withToken tokenName (toString (n + config.azurePageSize))).url.text := by
  obtain ⟨rfl, -, -⟩ := hc
  obtain ⟨hv, answer, s', hl, hnext⟩ := list_of_next? hr hnext
  obtain ⟨subscription, group, n, hsubscription, hgroup, hn, hlink⟩ := page_of_list hl
  rw [hlink] at hnext
  rcases Page.slice_cases (c.state.instances.list (.azure subscription group))
    (some c.config.azurePageSize) n with hslice | ⟨m, hm, hlt, hslice⟩
  · rw [hslice] at hnext
    cases hnext
  · cases hm
    rw [hslice] at hnext
    exact ⟨subscription, group, n, hsubscription, hgroup,
      .azure hr hsubscription hgroup (hasVersion_iff.mp hv), hn, hlt,
      (Option.some.inj hnext).symm⟩

/-- A page of a group shows the machines from its offset on. -/
theorem shows_page (hc : Consistent config c) {n : Nat}
    (h : (Scope.azure subscription group).Lists r)
    (ho : Page.offset (c.state.instances.list (.azure subscription group)).length
      (r.query? tokenName) = .ok n) :
    (Scope.azure subscription group).Shows config r (c.respond .azure now r).1
      (Page.slice (c.state.instances.list (.azure subscription group))
        (some config.azurePageSize) n) := by
  have hsought := h.sought config (c.state.instances.list (.azure subscription group))
  rw [← List.length_map ((Scope.azure subscription group).view config), ← hsought] at ho
  have hd := (Cloud.respond_selects hc h.selects now ho).1
  rw [hsought, Page.map_slice] at hd
  exact hd.shows

/-- The link of a page that is continued is read back as the URL of the page, which names the same
group, the same version and all that the page was asked for with, but for its token. It leads to
what follows, also after more machines were created. -/
theorem links_lead_on (h : Reachable config c) (hu : r.url.Built)
    (hr : Provider.azure.Routed r .list resource params)
    (hnext : Provider.azure.next? (c.respond .azure now r).1 = some link) :
    ∃ u subscription group n, Url.parse link = .ok u ∧ u = { r.url with query := u.query } ∧
      u.queryPairs = r.url.queryPairs.filter (·.1 ≠ tokenName) ++
        [(tokenName, toString (n + config.azurePageSize))] ∧
      params.get? "subscriptionId" = some subscription ∧
      params.get? "resourceGroupName" = some group ∧ (Scope.azure subscription group).Lists r ∧
      Page.offset (c.state.instances.list (.azure subscription group)).length
        (r.query? tokenName) = .ok n ∧
      ∀ r' : Http.Request, r'.method = "GET" → r'.url = u →
        (Scope.azure subscription group).Lists r' ∧
        ∀ ops now', let later := (c.respond .azure now r).2.after ops
          Page.offset (later.state.instances.list (.azure subscription group)).length
            (r'.query? tokenName) = .ok (n + config.azurePageSize) ∧
          (Scope.azure subscription group).Shows config r' (later.respond .azure now' r').1
            (Page.slice (later.state.instances.list (.azure subscription group))
              (some config.azurePageSize) (n + config.azurePageSize)) := by
  have hc := h.consistent
  obtain ⟨subscription, group, n, hsubscription, hgroup, hl, hn, hlt, rfl⟩ :=
    lists_of_next? hc hr hnext
  have hcanonical := hu.canonical
  let u := (r.withToken tokenName (toString (n + config.azurePageSize))).url
  have hparse : Url.parse u.text = .ok u := (hcanonical.withPairs _).parse_text
    (fun hq => nomatch hq) fun _ => onDrive_of_routed hr hcanonical
  refine ⟨u, subscription, group, n, hparse, rfl, Http.Request.queryPairs_withToken, hsubscription,
    hgroup, hl, hn, ?_⟩
  intro r' hm' hu'
  have hl' : (Scope.azure subscription group).Lists r' :=
    (hl.withToken (toString (n + config.azurePageSize))).of_url (hm'.trans hl.method.symm) hu'
  refine ⟨hl', fun ops now' => ?_⟩
  -- Whatever is done in between, instances are only added after those that the page ended with.
  have hstep := hc.step_perform now (.request .azure r)
  have hlater := (hc.step hstep).after ops
  have hgrows := (hstep.list_grows (.azure subscription group)).trans
    ((hc.step hstep).list_grows ops (.azure subscription group))
  have hle := Nat.le_trans (Nat.le_of_lt hlt) hgrows.length_le
  have htoken : r'.query? tokenName = some (toString (n + config.azurePageSize)) := by
    rw [Http.Request.query?, hu']
    exact r.query?_withToken_self tokenName (toString (n + config.azurePageSize))
  have hoffset := hlater.offset_token hle
  rw [← htoken] at hoffset
  exact ⟨hoffset, shows_page hlater hl' hoffset⟩

/-- The link of a first page, where the request repeats keys and has malformed escapes. -/
theorem link_of_first_page :
    let text := "https://management.azure.com/subscriptions/shop//resourceGroups/we%62/" ++
      "providers/Microsoft.Compute/virtualMachines?$skiptoken=&tag=%zz+%C3&api-version=1" ++
        "&tag=%E2%82%AC&$skiptoken=7#top"
    let body := Json.object [("location", .string "westeurope")]
    let c := (paged 1).after [(⟨0, 0⟩, .put "shop" "web" "blue" body),
      (⟨1, 0⟩, .put "shop" "web" "green" body)]
    ∃ url link u, Url.parse text = .ok url ∧
      Provider.azure.next? (c.respond .azure ⟨2, 0⟩ ⟨"GET", url, [], none⟩).1 = some link ∧
      Url.parse link = .ok u ∧ u = { url with query := u.query } ∧
      u.queryPairs = [("tag", "%zz \uFFFD"), ("api-version", "1"), ("tag", "€"),
        ("$skiptoken", "1")] ∧
      (Scope.azure "shop" "web").Lists ⟨"GET", u, [], none⟩ := by
  intro text body c
  let url : Url := ⟨"https", some ⟨"", "", "management.azure.com", none⟩,
    .segments ["subscriptions", "shop", "", "resourceGroups", "we%62", "providers",
      "Microsoft.Compute", "virtualMachines"],
    some "$skiptoken=&tag=%zz+%C3&api-version=1&tag=%E2%82%AC&$skiptoken=7", some "top"⟩
  let r : Http.Request := ⟨"GET", url, [], none⟩
  have hurl : Url.parse text = .ok url := by decide +kernel
  have hreach : Reachable _ c := ⟨paged 1, _, .new (new_paged 1), rfl⟩
  have hr : Provider.azure.Routed r .list resource
      [("subscriptionId", "shop"), ("resourceGroupName", "web")] :=
    ⟨.of "GET" machinesPath resource .list, by decide +kernel, rfl, rfl⟩
  obtain ⟨link, hlink⟩ := Option.isSome_iff_exists.mp
    (by decide +kernel : (Provider.azure.next? (c.respond .azure ⟨2, 0⟩ r).1).isSome = true)
  obtain ⟨u, _, _, n, hparse, hu, hpairs, hsubscription, hgroup, -, hn, hnext⟩ :=
    links_lead_on hreach (.parsed hurl) hr hlink
  cases hsubscription
  cases hgroup
  have hfirst : (r.query? tokenName).getD "" = "" := by decide +kernel
  cases (Page.offset_start hfirst).symm.trans hn
  have hkept : url.queryPairs.filter (·.1 ≠ tokenName) =
      [("tag", "%zz \uFFFD"), ("api-version", "1"), ("tag", "€")] := by decide +kernel
  rw [hkept] at hpairs
  exact ⟨url, link, u, hurl, hlink, hparse, hu, hpairs, (hnext ⟨"GET", u, [], none⟩ rfl rfl).1⟩

end CloudEmulation.Azure
