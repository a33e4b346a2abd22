import CloudEmulation.Proofs.Cloud.Addresses
import CloudEmulation.Proofs.Cloud.Walks
/-!
Names that were accepted in a scope: they conflict with new ones, are found, and are listed.
-/

namespace CloudEmulation.Cloud

variable {config : Configuration} {c c₀ : Cloud} {r : Http.Request} {params : Params}
  {now : Timestamp} {project zone subscription group name : String} {scope : Scope}

theorem respond_google_conflict (hc : Consistent config c)
    (hr : Provider.google.Routed r .create "instances" params)
    (hproject : params.get? "project" = some project) (hzone : params.get? "zone" = some zone) :
    (c.respond .google now r).1.status = 409 ↔ ∃ body d, r.body = some body ∧
      Google.Draft.ofBody config now project zone body = .ok d ∧
      d.request.name ∈ c.identitiesIn (.google project zone) := by
  obtain ⟨rfl, hs, -⟩ := hc
  have hconflict : (c.respond .google now r).1.status = 409 ↔ _ :=
    Provider.google_conflict_iff hs hr
  rw [hconflict]
  constructor
  · rintro ⟨d, hd, hhas⟩
    obtain ⟨project', zone', body, hproject', hzone', hbody, hd⟩ := Google.draft_eq_ok.mp hd
    cases hproject.symm.trans hproject'
    cases hzone.symm.trans hzone'
    rw [(Google.Draft.ofBody_eq_ok hd).1] at hhas
    exact ⟨body, d, hbody, hd, Store.has_iff.mp hhas⟩
  · rintro ⟨body, d, hbody, hd, hmem⟩
    refine ⟨d, Google.draft_eq_ok.mpr ⟨project, zone, body, hproject, hzone, hbody, hd⟩, ?_⟩
    rw [(Google.Draft.ofBody_eq_ok hd).1]
    exact Store.has_iff.mpr hmem

theorem respond_azure_conflict (hc : Consistent config c)
    (hr : Provider.azure.Routed r .create Azure.resource params)
    (hsubscription : params.get? "subscriptionId" = some subscription)
    (hgroup : params.get? "resourceGroupName" = some group)
    (hname : params.get? "vmName" = some name)
    (hversion : r.HasVersion) :
    (c.respond .azure now r).1.status = 409 ↔ ∃ body d, r.body = some body ∧
      Azure.Draft.ofBody config now subscription group name body = .ok d ∧
      name ∈ c.identitiesIn (.azure subscription group) := by
  obtain ⟨rfl, hs, -⟩ := hc
  have hv : Azure.hasVersion (r.call params now) = true := Azure.hasVersion_iff.mpr hversion
  have hconflict : (c.respond .azure now r).1.status = 409 ↔ _ :=
    Provider.azure_conflict_iff hs hr hv
  rw [hconflict]
  constructor
  · rintro ⟨d, hd, hhas⟩
    obtain ⟨subscription', group', name', body, hsubscription', hgroup', hname', hbody, hd⟩ :=
      Azure.draft_eq_ok.mp hd
    cases hsubscription.symm.trans hsubscription'
    cases hgroup.symm.trans hgroup'
    cases hname.symm.trans hname'
    obtain ⟨hscope, hdname⟩ := Azure.Draft.ofBody_eq_ok hd
    rw [hscope, hdname] at hhas
    exact ⟨body, d, hbody, hd, Store.has_iff.mp hhas⟩
  · rintro ⟨body, d, hbody, hd, hmem⟩
    refine ⟨d, Azure.draft_eq_ok.mpr
      ⟨subscription, group, name, body, hsubscription, hgroup, hname, hbody, hd⟩, ?_⟩
    obtain ⟨hscope, hdname⟩ := Azure.Draft.ofBody_eq_ok hd
    rw [hscope, hdname]
    exact Store.has_iff.mpr hmem

theorem respond_google_get (hc : Consistent config c)
    (hr : Provider.google.Routed r .get "instances" params)
    (hproject : params.get? "project" = some project) (hzone : params.get? "zone" = some zone)
    (hname : params.get? "instance" = some name) :
    (c.respond .google now r).1.isSuccess = true ↔
      name ∈ c.identitiesIn (.google project zone) := by
  obtain ⟨rfl, hs, -⟩ := hc
  have hh : (Provider.google.emulator c.config).handle now r =
    Google.get "instances" (r.call params now) := hr.handle c.config now
  refine Provider.isSuccess_iff ?_
  rw [hh]
  rcases Google.get_cases (r.call params now) c.state hproject hzone hname with
    ⟨i, hi, hg, hx⟩ | ⟨f, hf, hx⟩
  · have hid := ((Store.get_eq_ok_iff (hs.named _)).mp hg).2
    exact .inl ⟨_, _, hx, rfl, List.mem_map.mpr ⟨i, hi, hid⟩⟩
  · exact .inr ⟨f, _, hx, Store.has_eq_false_iff.mp hf⟩

theorem respond_azure_get (hc : Consistent config c)
    (hr : Provider.azure.Routed r .get Azure.resource params)
    (hsubscription : params.get? "subscriptionId" = some subscription)
    (hgroup : params.get? "resourceGroupName" = some group)
    (hname : params.get? "vmName" = some name)
    (hversion : r.HasVersion) :
    (c.respond .azure now r).1.isSuccess = true ↔
      name ∈ c.identitiesIn (.azure subscription group) := by
  obtain ⟨rfl, hs, -⟩ := hc
  have hv : Azure.hasVersion (r.call params now) = true := Azure.hasVersion_iff.mpr hversion
  have hh : (Provider.azure.emulator c.config).handle now r = Azure.get (r.call params now) :=
    (hr.handle c.config now).trans (Azure.handler_of_version c.config .get hv)
  refine Provider.isSuccess_iff ?_
  rw [hh]
  rcases Azure.get_cases (r.call params now) c.state hsubscription hgroup hname with
    ⟨i, hi, hg, hx⟩ | ⟨f, hf, hx⟩
  · obtain ⟨m, hm, -, -⟩ := (hs.made _ i hi).azure_view
    have hid := ((Store.get_eq_ok_iff (hs.named _)).mp hg).2
    rw [hm] at hx
    exact .inl ⟨_, _, hx, rfl, List.mem_map.mpr ⟨i, hi, hid⟩⟩
  · exact .inr ⟨f, _, hx, Store.has_eq_false_iff.mp hf⟩

theorem respond_azure_versionless {verb : Verb}
    (hr : Provider.azure.Routed r verb Azure.resource params)
    (hversion : ¬r.HasVersion) :
    (c.respond .azure now r).1 = Azure.versionMissing := by
  have hv : Azure.hasVersion (r.call params now) = false :=
    Bool.eq_false_iff.mpr (mt Azure.hasVersion_iff.mp hversion)
  have hx : ((Provider.azure.emulator c.config).handle now r).exec c.state =
      (.ok Azure.versionMissing, c.state) := by
    rw [hr.handle c.config now]
    exact congrArg (·.exec c.state) (Azure.handler_of_versionless c.config verb hv)
  exact congrArg Prod.fst (Provider.respond_of_answered hx)

/-- A complete walk tells the identities in a scope. -/
theorem Walk.keys (hc : Consistent config c) (hpage : 0 < config.azurePageSize)
    (ho : scope.Opens r) {items : List Json} (hw : Walk scope c r items) :
    items.map (·.textMember? scope.provider.key) = (c.identitiesIn scope).map some := by
  have hi := hw.items_eq hc hpage ho.1 (Page.offset_start ho.2)
  rw [hi, List.drop_zero, List.map_map, identitiesIn, List.map_map]
  refine List.map_congr_left ?_
  intro i hi
  exact (hc.sound.made scope i hi).key_of_view

/-- What was accepted in a scope is what its complete listing shows, what is refused as a conflict
there, and what is found there. -/
theorem scopes_tell_accepted (h : new config = .ok c₀) (hpage : 0 < config.azurePageSize)
    (ops : List (Timestamp × Operation)) :
    (∀ scope, (c₀.acceptedIn ops scope).Nodup) ∧
    (∀ scope r, scope.Opens r → (∃ items, Walk scope (c₀.after ops) r items) ∧
      ∀ items, Walk scope (c₀.after ops) r items →
        items.map (·.textMember? scope.provider.key) = (c₀.acceptedIn ops scope).map some) ∧
    (∀ now r params project zone, Provider.google.Routed r .create "instances" params →
      params.get? "project" = some project → params.get? "zone" = some zone →
      (((c₀.after ops).respond .google now r).1.status = 409 ↔ ∃ body d, r.body = some body ∧
        Google.Draft.ofBody config now project zone body = .ok d ∧
        d.request.name ∈ c₀.acceptedIn ops (.google project zone))) ∧
    (∀ now r params subscription group name,
      Provider.azure.Routed r .create Azure.resource params →
      params.get? "subscriptionId" = some subscription →
      params.get? "resourceGroupName" = some group → params.get? "vmName" = some name →
      r.HasVersion →
      (((c₀.after ops).respond .azure now r).1.status = 409 ↔ ∃ body d, r.body = some body ∧
        Azure.Draft.ofBody config now subscription group name body = .ok d ∧
        name ∈ c₀.acceptedIn ops (.azure subscription group))) ∧
    (∀ now r params project zone name, Provider.google.Routed r .get "instances" params →
      params.get? "project" = some project → params.get? "zone" = some zone →
      params.get? "instance" = some name →
      (((c₀.after ops).respond .google now r).1.isSuccess = true ↔
        name ∈ c₀.acceptedIn ops (.google project zone))) ∧
    (∀ now r params subscription group name,
      Provider.azure.Routed r .get Azure.resource params →
      params.get? "subscriptionId" = some subscription →
      params.get? "resourceGroupName" = some group → params.get? "vmName" = some name →
      r.HasVersion →
      (((c₀.after ops).respond .azure now r).1.isSuccess = true ↔
        name ∈ c₀.acceptedIn ops (.azure subscription group))) ∧
    ∀ now r verb params, Provider.azure.Routed r verb Azure.resource params → ¬r.HasVersion →
      ((c₀.after ops).respond .azure now r).1.status = 400 := by
  have hc := (consistent_of_new h).after ops
  -- Each part is about the state; what was accepted is what the scope holds in it.
  have hi := identitiesIn_after h ops
  refine ⟨nodup_acceptedIn h ops, ?_, ?_, ?_, ?_, ?_, ?_⟩
  · intro scope r ho
    refine ⟨exists_walk hc hpage ho.1 (Page.offset_start ho.2), ?_⟩
    intro items hw
    rw [← hi]
    exact hw.keys hc hpage ho
  · intro now r params project zone hr hproject hzone
    rw [← hi]
    exact respond_google_conflict hc hr hproject hzone
  · intro now r params subscription group name hr hsubscription hgroup hname hversion
    rw [← hi]
    exact respond_azure_conflict hc hr hsubscription hgroup hname hversion
  · intro now r params project zone name hr hproject hzone hname
    rw [← hi]
    exact respond_google_get hc hr hproject hzone hname
  · intro now r params subscription group name hr hsubscription hgroup hname hversion
    rw [← hi]
    exact respond_azure_get hc hr hsubscription hgroup hname hversion
  · intro now r verb params hr hversion
    rw [respond_azure_versionless hr hversion]
    rfl

/-- A zone lists the one instance that was inserted there. -/
theorem listed_after_insert :
    let body := Json.object [("name", .string "web")]
    let list : Http.Request := ⟨"GET", ⟨"https", none, .segments
      ["compute", "v1", "projects", "shop", "zones", "eu", "instances"], none, none⟩, [], none⟩
    ∃ items, Walk (.google "shop" "eu") (initial.after [(⟨0, 0⟩, .insert "shop" "eu" body)]) list
      items ∧ items.map (·.textMember? "name") = [some "web"] := by
  intro body list
  have hr : Provider.google.Routed list .list "instances" [("project", "shop"), ("zone", "eu")] :=
    ⟨.of "GET" (Google.zonePath ++ "instances") "instances" .list, by decide +kernel, rfl, rfl⟩
  have hl : (Scope.google "shop" "eu").Lists list := by
    refine .google hr rfl rfl ?_ ?_
    · rintro text ⟨⟩
    · rintro raw ⟨⟩
  obtain ⟨-, hlists, -⟩ := scopes_tell_accepted new_standard (by decide)
    [(⟨0, 0⟩, .insert "shop" "eu" body)]
  obtain ⟨⟨items, hw⟩, hkeys⟩ := hlists (.google "shop" "eu") list ⟨hl, rfl⟩
  refine ⟨items, hw, (hkeys items hw).trans ?_⟩
  have ha : initial.acceptedIn [(⟨0, 0⟩, .insert "shop" "eu" body)] (.google "shop" "eu") =
      ["web"] := by decide +kernel
  rw [ha]
  rfl

/-- A machine that was accepted is not found by a request that names no version. -/
theorem not_found_without_version :
    let url (query : Option String) : Url := ⟨"https", none, .segments ["subscriptions", "sub",
      "resourceGroups", "group", "providers", "Microsoft.Compute", "virtualMachines", "web"],
      query, none⟩
    let put : Http.Request := ⟨"PUT", url (some "api-version=2024-07-01"), [],
      some (.object [("location", .string "westeurope")])⟩
    let get : Http.Request := ⟨"GET", url none, [], none⟩
    let ops := [(⟨0, 0⟩, .request .azure put)]
    "web" ∈ initial.acceptedIn ops (.azure "sub" "group") ∧
    (∃ params, Provider.azure.Routed get .get Azure.resource params ∧
      params.get? "subscriptionId" = some "sub" ∧ params.get? "resourceGroupName" = some "group" ∧
      params.get? "vmName" = some "web") ∧
    ((initial.after ops).respond .azure ⟨1, 0⟩ get).1.isSuccess = false := by
  intro url put get ops
  have hr : Provider.azure.Routed get .get Azure.resource [("subscriptionId", "sub"),
      ("resourceGroupName", "group"), ("vmName", "web")] :=
    ⟨.of "GET" Azure.machinePath Azure.resource .get, by decide +kernel, rfl, rfl⟩
  refine ⟨by decide +kernel, ⟨_, hr, rfl, rfl, rfl⟩, ?_⟩
  have hn : ¬get.HasVersion := by
    rintro ⟨version, hv, -⟩
    cases hv
  rw [respond_azure_versionless hr hn]
  rfl

end CloudEmulation.Cloud
