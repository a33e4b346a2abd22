import CloudEmulation.Proofs.Azure.Machines
import CloudEmulation.Proofs.Client.Arguments
import CloudEmulation.Proofs.Cloud.Renderings
/-!
What the clients get from an emulated cloud when they ask for an instance, with any arguments.
-/

namespace CloudEmulation

open Url (Argument stripped)

variable {config : Configuration} {c : Cloud} {now : Timestamp} {endpoint : String} {url : Url}

/-- Shorter paths than those of instances are only for lists. -/
theorem Provider.list_of_short {p : Provider} (hp : p ≠ .oracle) {route : Route}
    (hr : route ∈ p.routes) (hm : route.method = "GET")
    (hlt : route.template.segments.length < 8) : route.verb = .list := by
  have hall : ∀ p ∈ [Provider.google, .azure], ∀ route ∈ p.routes, route.method = "GET" →
      route.template.segments.length < 8 → route.verb = .list := by
    simp only [List.forall_mem_cons, routes, Google.routes_eq, Azure.routes_eq]
    decide
  refine hall p ?_ route hr hm hlt
  cases p with
  | google => exact List.mem_cons_self
  | azure => exact List.mem_cons_of_mem _ List.mem_cons_self
  | oracle => exact absurd rfl hp

/-- A short path that is answered with a success is the path of a list. -/
theorem Cloud.routed_of_short {p : Provider} (hp : p ≠ .oracle)
    (hs : (c.respond p now ⟨"GET", url, [], none⟩).1.isSuccess = true)
    (hlt : (PathTemplate.split url.pathText).length < 8) :
    ∃ route ∈ p.routes, ∃ params,
      p.Routed ⟨"GET", url, [], none⟩ .list route.resource params := by
  obtain ⟨route, params, hr⟩ := Provider.exists_route_of_success hs
  obtain ⟨hmem, hmethod⟩ := Provider.mem_routes hr
  have hlength := Emulator.length_of_route? hr
  have hshort := Nat.lt_of_le_of_lt (Nat.le_of_eq hlength) hlt
  exact ⟨route, hmem, params, route, hr, Provider.list_of_short hp hmem hmethod hshort, rfl⟩

namespace Google

variable {project zone name : String} {v : Json}

/-- What a client of an emulated cloud gets for an instance. -/
def gotten (c : Cloud) (endpoint project zone name : String) (now : Timestamp) :
    Except ClientError Json :=
  ((Client.execute ⟨endpoint, Cloud.transport now .google⟩
    (.getInstance project zone name)).run.run c).1

theorem gotten_eq_ok
    (h : (Request.getInstance project zone name).build endpoint = .ok ⟨"GET", url, [], none⟩) :
    gotten c endpoint project zone name now = .ok v ↔
      (c.respond .google now ⟨"GET", url, [], none⟩).1.isSuccess = true ∧
        (c.respond .google now ⟨"GET", url, [], none⟩).1.body.getD (.object []) = v := by
  obtain ⟨response, c', hr⟩ : ∃ response c', c.respond .google now ⟨"GET", url, [], none⟩ =
    (response, c') := ⟨_, _, rfl⟩
  unfold gotten Client.execute
  rw [h]
  simp only [Calling.ofUrl, pure_bind]
  rw [Calling.run_send hr, hr]
  cases hs : response.isSuccess with
  | true =>
    simp only [if_true, true_and]
    exact ⟨fun he => Except.ok.inj he, fun he => congrArg Except.ok he⟩
  | false =>
    simp only [Bool.false_eq_true, if_false, false_and, iff_false]
    rintro ⟨⟩

theorem gotten_iff (hc : c.Consistent config) (he : BareEndpoint endpoint)
    (ha : Addressable [project, zone, name]) :
    gotten c endpoint project zone name now = .ok v ↔
      ∃ i ∈ c.state.instances.list (.google (stripped project) (stripped zone)),
        i.identity = stripped name ∧ v = view (stripped project) i := by
  obtain ⟨url, hurl, hleads⟩ := build_addressable he ha
  rw [gotten_eq_ok hurl]
  have hargs : ∀ p ∈ (ClientCall.getGoogleInstance (stripped project) (stripped zone)
      (stripped name) []).params, Argument p.2 := by
    simp only [Addressable, List.forall_mem_cons] at ha
    simp only [ClientCall.params, List.forall_mem_cons]
    exact ⟨ha.1, ha.2.1, ha.2.2.1, List.forall_mem_nil _⟩
  have hr : Provider.google.Routed ⟨"GET", url, [], none⟩ .get "instances" _ :=
    ClientCall.routed rfl hargs hleads none
  have hshown : ∀ i ∈ c.state.instances.list (.google (stripped project) (stripped zone)),
      i.identity = stripped name →
      (c.respond .google now ⟨"GET", url, [], none⟩).1.isSuccess = true ∧
        (c.respond .google now ⟨"GET", url, [], none⟩).1.body =
          some (view (stripped project) i) :=
    fun i hi hid => Cloud.got_google hc hi hr rfl rfl (hid ▸ rfl)
  constructor
  · rintro ⟨hs, hv⟩
    obtain ⟨i, hi, hid⟩ := List.mem_map.mp ((Cloud.respond_google_get hc hr rfl rfl rfl).mp hs)
    rw [(hshown i hi hid).2, Option.getD_some] at hv
    exact ⟨i, hi, hid, hv.symm⟩
  · rintro ⟨i, hi, hid, rfl⟩
    obtain ⟨hs, hb⟩ := hshown i hi hid
    rw [hb, Option.getD_some]
    exact ⟨hs, rfl⟩

/-- Where an argument vanishes, a listing is gotten if anything. -/
theorem nameless_of_gotten (he : BareEndpoint endpoint) (ha : ¬Addressable [project, zone, name])
    (h : gotten c endpoint project zone name now = .ok v) : v.member? "name" = none := by
  obtain ⟨url, hurl, hlt⟩ := build_short he ha
  obtain ⟨hsucc, hv⟩ := (gotten_eq_ok hurl).mp h
  obtain ⟨route, -, params, hr⟩ := Cloud.routed_of_short (by decide) hsucc hlt
  obtain ⟨p, hb⟩ := body_of_list (hr.exec_of_success hsucc)
  have hb : (c.respond .google now ⟨"GET", url, [], none⟩).1.body = some _ := hb
  rw [hb, Option.getD_some] at hv
  have hn : "name" ∉ Listing.fields := by decide
  rw [← hv]
  exact Json.member?_record_other rfl hn (by simp)

end Google

namespace Azure

variable {subscription group name : String} {m : VirtualMachine}

/-- What a client of an emulated cloud gets for a machine. -/
def gotten (c : Cloud) (endpoint subscription group name : String) (now : Timestamp) :
    Except ClientError VirtualMachine :=
  ((Client.get ⟨endpoint, subscription, Cloud.transport now .azure⟩ group name).run.run c).1

theorem gotten_eq_ok (h : machinesUrl endpoint subscription group (some name) = .ok url) :
    gotten c endpoint subscription group name now = .ok m ↔
      (c.respond .azure now (request "GET" url none)).1.isSuccess = true ∧
        VirtualMachine.decode (c.respond .azure now (request "GET" url none)).1.content =
          .ok m := by
  obtain ⟨response, c', hr⟩ : ∃ response c', c.respond .azure now (request "GET" url none) =
    (response, c') := ⟨_, _, rfl⟩
  unfold gotten Client.get Client.machineUrl
  rw [h]
  simp only [Calling.ofUrl, pure_bind]
  rw [Calling.run_send hr, hr, readResponse]
  cases hs : response.isSuccess with
  | true =>
    simp only [if_true, true_and]
    cases VirtualMachine.decode response.content with
    | ok m' =>
      constructor
      · rintro ⟨⟩
        rfl
      · rintro ⟨⟩
        rfl
    | error e =>
      constructor
      · rintro ⟨⟩
      · rintro ⟨⟩
  | false =>
    simp only [Bool.false_eq_true, if_false, false_and, iff_false]
    rintro ⟨⟩

/-- A machine is read back as it is described. -/
theorem decode_of_gets {i : Instance} {r : Http.Request} (hc : c.Consistent config)
    (hi : i ∈ c.state.instances.list (.azure subscription group))
    (hg : (Scope.azure subscription group).Gets i.identity r) :
    ∃ m, describe subscription group i = .ok m ∧ (c.respond .azure now r).1.isSuccess = true ∧
      VirtualMachine.decode (c.respond .azure now r).1.content = .ok m := by
  have hs : (c.respond (Scope.azure subscription group).provider now r).1.isSuccess = true ∧ _ :=
    Cloud.respond_gets hc hi hg
  obtain ⟨hsucc, hb⟩ := hs
  obtain ⟨m, hm, hv, -⟩ := (hc.sound.made _ i hi).azure_view
  obtain ⟨m', -, hcanonical, rfl⟩ := describe_eq_ok hm
  refine ⟨_, hm, hsucc, ?_⟩
  have hb : (c.respond .azure now r).1.body = some _ := hb
  rw [Http.Response.content, hb, Option.getD_some, hv]
  exact VirtualMachine.decode_encode (hcanonical.assigned subscription group i)

theorem content_of_list {r : Http.Request} {params : Params}
    (hr : Provider.azure.Routed r .list resource params)
    (hs : (c.respond .azure now r).1.isSuccess = true) :
    ∃ l : MachineList, (c.respond .azure now r).1.content = l.encode .ofFields := by
  obtain ⟨_, _, machines, link, -, -, hb, -⟩ := list_eq_ok (exec_of_success hr hs)
  exact ⟨⟨machines, link⟩, congrArg Http.Response.content hb⟩

/-- A listing that is read as a machine has no name. -/
theorem name_of_listing {l : MachineList}
    (h : VirtualMachine.decode (l.encode .ofFields) = .ok m) : m.name = none := by
  obtain ⟨members, hmembers, hb⟩ := Record.decodeOpen_eq_ok h
  simp only [Ranked.ap_eq_ok, Ranked.map_eq_ok] at hb
  obtain ⟨_, extra, ⟨_, properties, ⟨_, tags, ⟨_, location, ⟨_, type, ⟨_, name, ⟨id, -, rfl⟩, hname,
    rfl⟩, -, rfl⟩, -, rfl⟩, -, rfl⟩, -, rfl⟩, -, rfl⟩ := hb
  have hn : "name" ∉ MachineList.fields := by decide
  have hnone : (l.encode .ofFields).member? "name" = none :=
    Json.member?_record_other rfl hn (by simp)
  rw [hmembers] at hnone
  have hfind : Record.find? ⟨"VirtualMachine", VirtualMachine.fields, .members members⟩ "name" =
    none := hnone
  rw [Record.text?, Record.optional, Record.default, hfind] at hname
  cases hname
  rfl

theorem gotten_iff (hc : c.Consistent config) (he : BareEndpoint endpoint)
    (ha : Addressable [subscription, group, name]) :
    gotten c endpoint subscription group name now = .ok m ↔
      ∃ i ∈ c.state.instances.list (.azure (stripped subscription) (stripped group)),
        i.identity = stripped name ∧
          describe (stripped subscription) (stripped group) i = .ok m := by
  have hargs : ∀ p ∈ (ClientCall.getMachine (stripped subscription) (stripped group)
      (stripped name)).params, Argument p.2 := by
    simp only [Addressable, List.forall_mem_cons] at ha
    simp only [ClientCall.params, List.forall_mem_cons]
    exact ⟨ha.1, ha.2.1, ha.2.2.1, List.forall_mem_nil _⟩
  obtain ⟨url, hurl, hleads⟩ := machinesUrl_eq he
    ((ClientCall.getMachine _ _ _).route_filled hargs).argument
  rw [gotten_eq_ok ((machinesUrl_stripped he ha).trans hurl)]
  have hr : Provider.azure.Routed (request "GET" url none) .get resource _ :=
    ClientCall.routed rfl hargs hleads none
  have hversion : (request "GET" url none).HasVersion := by
    refine ⟨apiVersion, ?_, by decide⟩
    rw [Http.Request.query?, request, hleads.query]
    rfl
  have hg : (Scope.azure (stripped subscription) (stripped group)).Gets (stripped name)
    (request "GET" url none) := .azure hr rfl rfl rfl hversion
  constructor
  · rintro ⟨hs, hd⟩
    have hmem : stripped name ∈
        c.identitiesIn (.azure (stripped subscription) (stripped group)) :=
      (Cloud.respond_azure_get hc hr rfl rfl rfl hversion).mp hs
    obtain ⟨i, hi, hid⟩ := List.mem_map.mp hmem
    rw [← hid] at hg
    obtain ⟨m', hm', -, hd'⟩ := decode_of_gets hc hi hg
    cases hd'.symm.trans hd
    exact ⟨i, hi, hid, hm'⟩
  · rintro ⟨i, hi, hid, hm⟩
    rw [← hid] at hg
    obtain ⟨m', hm', hs, hd⟩ := decode_of_gets hc hi hg
    cases hm'.symm.trans hm
    exact ⟨hs, hd⟩

/-- Where an argument vanishes, a listing is read as a machine without a name if anything is. -/
theorem nameless_of_gotten (he : BareEndpoint endpoint)
    (ha : ¬Addressable [subscription, group, name])
    (h : gotten c endpoint subscription group name now = .ok m) : m.name = none := by
  have ha : ¬Addressable (subscription :: group :: (some name).toList) := ha
  obtain ⟨url, hurl, hlt⟩ := machinesUrl_short he ha
  obtain ⟨hsucc, hd⟩ := (gotten_eq_ok hurl).mp h
  obtain ⟨route, hroute, params, hr⟩ := Cloud.routed_of_short (by decide) hsucc hlt
  have hresource : ∀ route ∈ Provider.azure.routes, route.resource = resource := by
    simp only [Provider.routes, routes_eq]
    decide
  rw [hresource route hroute] at hr
  obtain ⟨l, hl⟩ := content_of_list hr hsucc
  exact name_of_listing (hl ▸ hd)

end Azure

theorem exists_of_map_toOption {α β : Type} {x : Except ClientError α} {f : α → β} {b : β}
    (h : x.toOption.map f = some b) : ∃ a, x = .ok a ∧ f a = b := by
  cases x with
  | error e => cases h
  | ok a => exact ⟨a, rfl, Option.some.inj h⟩

/-- What the clients get is the instance of the name in the scope that the arguments are stripped
to, which texts without tabs and line ends are not changed by. Only where an argument vanishes from
the path something else is gotten: a listing, or a machine without a name. -/
theorem gets_tell_addressed (h : Cloud.Reachable config c) (he : BareEndpoint endpoint)
    (now : Timestamp) :
    (∀ s, Argument s → stripped s = s) ∧
    (∀ project zone name,
      (Addressable [project, zone, name] → ∀ v,
        Google.gotten c endpoint project zone name now = .ok v ↔
          ∃ i ∈ c.state.instances.list (.google (stripped project) (stripped zone)),
            i.identity = stripped name ∧ v = Google.view (stripped project) i) ∧
      (¬Addressable [project, zone, name] → ∀ v,
        Google.gotten c endpoint project zone name now = .ok v → v.member? "name" = none)) ∧
    ∀ subscription group name,
      (Addressable [subscription, group, name] → ∀ m,
        Azure.gotten c endpoint subscription group name now = .ok m ↔
          ∃ i ∈ c.state.instances.list (.azure (stripped subscription) (stripped group)),
            i.identity = stripped name ∧ m.name = some (stripped name) ∧
              Azure.describe (stripped subscription) (stripped group) i = .ok m) ∧
      (¬Addressable [subscription, group, name] → ∀ m,
        Azure.gotten c endpoint subscription group name now = .ok m → m.name = none) := by
  have hc := h.consistent
  refine ⟨fun s => Url.stripped_of_argument, ?_, ?_⟩
  · intro project zone name
    exact ⟨fun ha v => Google.gotten_iff hc he ha,
      fun ha v hv => Google.nameless_of_gotten he ha hv⟩
  · intro subscription group name
    refine ⟨fun ha m => ?_, fun ha m hm => Azure.nameless_of_gotten he ha hm⟩
    rw [Azure.gotten_iff hc he ha]
    constructor
    · rintro ⟨i, hi, hid, hm⟩
      exact ⟨i, hi, hid, hid ▸ (hc.sound.made _ i hi).azure_name hm, hm⟩
    · rintro ⟨i, hi, hid, -, hm⟩
      exact ⟨i, hi, hid, hm⟩

/-- An instance that was inserted is gotten. -/
theorem gotten_after_insert :
    let c := Cloud.initial.after [(⟨0, 0⟩, .insert "shop" "eu" (.object [("name", .string "web")]))]
    ∃ v, Google.gotten c Google.defaultEndpoint "shop" "eu" "web" ⟨1, 0⟩ = .ok v ∧
      v.textMember? "name" = some "web" := by
  intro c
  have hbare : BareEndpoint Google.defaultEndpoint := Provider.bare_defaultEndpoint .google
  obtain ⟨hstripped, hgoogle, -⟩ :=
    gets_tell_addressed (Cloud.reachable_initial _) hbare ⟨1, 0⟩ (c := c)
  have ha : Addressable ["shop", "eu", "web"] := by decide
  have hmem : "web" ∈ c.identitiesIn (.google "shop" "eu") := by decide +kernel
  obtain ⟨i, hi, hid⟩ := List.mem_map.mp hmem
  have hv := (hgoogle "shop" "eu" "web").1 ha (Google.view "shop" i)
  rw [hstripped "shop" (by decide), hstripped "eu" (by decide), hstripped "web" (by decide)] at hv
  have hc : c.Consistent _ := (Cloud.reachable_initial _).consistent
  exact ⟨_, hv.mpr ⟨i, hi, hid, rfl⟩, hid ▸ (hc.sound.made _ i hi).key_of_view⟩

/-- An empty name gets a listing, or a machine without a name, and a name with a tab an instance of
another name. -/
theorem gotten_under_other_names :
    let c := Cloud.initial.after [
      (⟨0, 0⟩, .insert "shop" "eu" (.object [("name", .string "web")])),
      (⟨1, 0⟩, .put "sub" "group" "web" (.object [("location", .string "westeurope")]))]
    (∃ v, Google.gotten c Google.defaultEndpoint "shop" "eu" "" ⟨2, 0⟩ = .ok v ∧
      v.member? "name" = none) ∧
    (∃ v, Google.gotten c Google.defaultEndpoint "shop" "eu" "we\tb" ⟨2, 0⟩ = .ok v ∧
      v.textMember? "name" = some "web") ∧
    ∃ m, Azure.gotten c Azure.defaultEndpoint "sub" "group" "" ⟨2, 0⟩ = .ok m ∧ m.name = none := by
  intro c
  have hlisting : ((Google.gotten c Google.defaultEndpoint "shop" "eu" "" ⟨2, 0⟩).toOption.map
      fun v => (v.member? "name").isNone) = some true := by decide +kernel
  have hother : ((Google.gotten c Google.defaultEndpoint "shop" "eu" "we\tb" ⟨2, 0⟩).toOption.map
      fun v => v.textMember? "name") = some (some "web") := by decide +kernel
  have hnameless : ((Azure.gotten c Azure.defaultEndpoint "sub" "group" "" ⟨2, 0⟩).toOption.map
      (·.name)) = some none := by decide +kernel
  obtain ⟨v, hv, hn⟩ := exists_of_map_toOption hlisting
  exact ⟨⟨v, hv, Option.isNone_iff_eq_none.mp hn⟩, exists_of_map_toOption hother,
    exists_of_map_toOption hnameless⟩

end CloudEmulation
