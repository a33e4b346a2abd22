import CloudEmulation.Proofs.Client.Lookups
import CloudEmulation.Proofs.Emulation.Matching
import CloudEmulation.Proofs.Url.Links
/-!
Links that instances show of themselves. They are written without an encoding, so that only some of
them lead back to the instance.
-/

namespace CloudEmulation

open PathTemplate (Stands decodeSegment? isWord)
open Url (Verbatim Argument Trimmed linkText)

/-- Whether a request is a GET of a link. -/
structure Http.Request.Follows (r : Request) (link : String) : Prop where
  method : r.method = "GET"
  url : Url.parse link = .ok r.url

/-- Whether the answer to a request is a value. -/
def Cloud.Shows (c : Cloud) (p : Provider) (now : Timestamp) (r : Http.Request) (v : Json) : Prop :=
  (c.respond p now r).1.isSuccess = true ∧ (c.respond p now r).1.body = some v

/-- Whether a link can be followed, and leads to a value at any later time if a condition holds and
at none if not. -/
structure Cloud.LeadsIf (c : Cloud) (p : Provider) (link : String) (v : Json) (condition : Prop) :
    Prop where
  parsed : ∃ url, Url.parse link = .ok url
  shows_iff : ∀ ops now r, r.Follows link → ((c.after ops).Shows p now r v ↔ condition)

variable {config : Configuration} {c : Cloud} {now : Timestamp} {i : Instance} {r : Http.Request}

/-! The segments of links. -/

theorem keeps_of_isWord {s : String} (h : isWord s = true) : ∀ ch ∈ s.toList,
    ch.toNat < 128 ∧ Url.keepsPath ch = true ∧ Url.Read.isSlash .special ch = false := by
  have hword := List.all_eq_true.mp (Bool.and_eq_true_iff.mp h).2
  intro ch hmem
  obtain ⟨hascii, hkeeps⟩ := Bool.and_eq_true_iff.mp (hword ch hmem)
  have hascii := of_decide_eq_true hascii
  exact ⟨hascii, Text.of_ascii (P := fun ch => Url.keepsSegment true ch = true →
    Url.keepsPath ch = true ∧ Url.Read.isSlash .special ch = false) hascii (by decide +kernel)
    hkeeps⟩

theorem stands_encodePath {s : String} (h : Verbatim s) :
    Stands (Url.Read.encodePath s.toList) s where
  decoded := (Url.decodeSegment?_encodePath s).trans h.decoded
  word hw := Url.encodePath_self fun ch hmem => keeps_of_isWord hw ch hmem

theorem verbatim_of_isWord {s : String} (h : isWord s = true) : Verbatim s where
  toArgument := PathTemplate.argument_of_isWord h
  inner ch hmem := by
    obtain ⟨hascii, hkeeps, hslash⟩ := keeps_of_isWord h ch hmem
    exact ⟨hslash, (Url.spec_of_keepsPath hascii hkeeps).2⟩
  decoded := by
    have hd := Url.decodeSegment?_segmentText true s
    rwa [PathTemplate.segmentText_of_isWord h] at hd

/-- What a segment of a template stands for in a match. -/
def TemplateSegment.value? (params : Params) : TemplateSegment → Option String
  | .literal l => decodeSegment? l
  | .param name => params.get? name

theorem TemplateSegment.value?_literal {l : String} (h : isWord l = true) (params : Params) :
    (literal l).value? params = some l :=
  (verbatim_of_isWord h).decoded

theorem TemplateSegment.value?_param (params : Params) (name : String) :
    (param name).value? params = params.get? name := rfl

theorem PathTemplate.decoded_of_matchSegments? {ts : List TemplateSegment} {params : Params}
    {parts : List String} (hd : (paramNames ts).Nodup)
    (h : matchSegments? ts parts = some params) :
    parts.map decodeSegment? = ts.map (TemplateSegment.value? params) := by
  have haccepts := accepts_of_matchSegments? hd h
  have hvalue : List.Forall₂ (fun t part => t.value? params = decodeSegment? part) ts parts := by
    refine haccepts.imp fun t part ht => ?_
    cases t with
    | literal l => exact congrArg decodeSegment? ht.symm
    | param name =>
      obtain ⟨value, hget, -, hvalue⟩ := ht
      exact hget.trans (decodeSegment?_eq_some.mpr hvalue).symm
  rw [← List.forall₂_eq_eq_eq, List.forall₂_map_left_iff, List.forall₂_map_right_iff]
  exact hvalue.flip.imp fun part t he => he.symm

/-! Requests that follow links. -/

section

variable {a : Url.Authority} {query : Option String}

/-- Where the segments of a call stand for themselves, a request that follows the link written of
them is routed to what the call is for. -/
theorem ClientCall.routed_of_follows (call : ClientCall) {verb : Verb} {resource : String}
    (ht : call.target? = some (verb, resource)) (hm : call.method = "GET")
    (ha : a.Canonical .special "https") (hq : Url.TailOf .special query none)
    (hne : call.segments ≠ []) (hargs : ∀ p ∈ call.params, Argument p.2)
    (hs : ∀ s ∈ call.segments, Verbatim s)
    (hlast : query = none →
      Text.Halts Url.Read.isEdge (Url.Path.text (.segments call.segments)).toList.reverse)
    (hf : r.Follows (linkText "https" a call.segments query)) :
    call.provider.Routed r verb resource call.params ∧ r.url.query = query := by
  have hread := Except.ok.inj (hf.url.symm.trans (Url.parse_verbatim rfl ha hq hne hs hlast))
  obtain ⟨hmethod, hverb, hresource⟩ := target?_some ht
  have hsplit : PathTemplate.split r.url.pathText =
      call.segments.map fun s => Url.Read.encodePath s.toList := by
    rw [Url.pathText, hread]
    exact Url.split_verbatim hs
  have hstands : List.Forall₂ Stands (PathTemplate.split r.url.pathText) call.segments := by
    rw [hsplit, List.forall₂_map_left_iff]
    exact List.forall₂_same.mpr fun s hmem => stands_encodePath (hs s hmem)
  have hr := Emulator.route?_of_filled call.route_mem call.provider.routes_apart
    (call.route_filled hargs) hstands
  rw [hmethod, hm, ← hf.method] at hr
  exact ⟨⟨call.route, hr, hverb, hresource⟩, hread ▸ rfl⟩

/-- Where the texts that a request is matched with make up the same path as the link that it
follows, what the link is written of stands for itself. -/
theorem verbatim_of_follows {p : Provider} {route : Route} {params : Params}
    {segments texts : List String} (ha : a.Canonical .special "https")
    (hq : Url.TailOf .special query none) (hne : segments ≠ [])
    (hf : r.Follows (linkText "https" a segments query))
    (hr : p.route? r = some (route, params))
    (hd : (PathTemplate.paramNames route.template.segments).Nodup)
    (hv : route.template.segments.map (TemplateSegment.value? params) = texts.map some)
    (ht : Url.Path.text (.segments texts) = Url.Path.text (.segments segments))
    (hl : texts.length = segments.length) :
    (∀ s ∈ segments, Verbatim s) ∧ (query = none →
      Text.Halts Url.Read.isEdge (Url.Path.text (.segments segments)).toList.reverse) := by
  have hm := PathTemplate.decoded_of_matchSegments? hd (Emulator.matchSegments?_of_route? hr)
  exact Url.verbatim_of_parse rfl ha hq hne hf.url (hm.trans hv) ht hl

end

namespace Google

variable {project zone : String}

/-- The host that links lead to. -/
def linkHost : Url.Authority := ⟨"", "", "www.googleapis.com", none⟩

theorem named_linkHost : linkHost.Named "https" := by
  refine ⟨rfl, rfl, by decide, Text.forall_of_all (by decide), ?_, fun n hn => nomatch hn⟩
  with_unfolding_all rfl

theorem selfLink_eq (project : String) (i : Instance) : (describe project i).selfLink =
    linkText "https" linkHost
      (ClientCall.getGoogleInstance project i.placement i.name []).segments none := by
  rw [← String.toList_inj]
  simp [describe, zoneLink, linkBase, linkText, linkHost, Url.Authority.text,
    ClientCall.segments, zoneSegments, Url.toList_text, Url.marked]

theorem placement_of_makes (h : config.Makes (.google project zone) i) :
    i.placement = zone ∧ i.name = i.identity := by
  generalize hs : Scope.google project zone = scope at h
  cases h with
  | google hd hc =>
    cases hs
    exact ⟨rfl, rfl⟩
  | azure => cases hs
  | oracle => cases hs

theorem verbatim_segments {name : String} {query : List (String × String)} :
    (∀ s ∈ (ClientCall.getGoogleInstance project zone name query).segments, Verbatim s) ↔
      Verbatim project ∧ Verbatim zone ∧ Verbatim name := by
  have hword {s : String} (h : isWord s = true) : Verbatim s ↔ True :=
    iff_true_intro (verbatim_of_isWord h)
  simp (disch := decide) only [ClientCall.segments, zoneSegments, List.cons_append,
    List.nil_append, List.forall_mem_cons, hword]
  simp

theorem shows_of_verbatim (hc : c.Consistent config)
    (hi : i ∈ c.state.instances.list (.google project zone))
    (hf : r.Follows (describe project i).selfLink) (hp : Verbatim project) (hz : Verbatim zone)
    (hn : Verbatim i.identity) (ht : Trimmed i.identity) :
    c.Shows .google now r (view project i) := by
  obtain ⟨hplacement, hname⟩ := placement_of_makes (hc.sound.made _ i hi)
  let call := ClientCall.getGoogleInstance project zone i.identity []
  have hs : ∀ s ∈ call.segments, Verbatim s := verbatim_segments.mpr ⟨hp, hz, hn⟩
  have hlast : Text.Halts Url.Read.isEdge
      (Url.Path.text (.segments call.segments)).toList.reverse :=
    (Url.halts_reverse_text hn.nonempty (zoneSegments project zone ++ ["instances"])).mpr ht
  have hargs : ∀ p ∈ call.params, Argument p.2 := by
    simp only [call, ClientCall.params, List.forall_mem_cons]
    exact ⟨hp.toArgument, hz.toArgument, hn.toArgument, List.forall_mem_nil _⟩
  rw [selfLink_eq, hplacement, hname] at hf
  obtain ⟨hr, -⟩ := call.routed_of_follows rfl rfl named_linkHost.canonical .none
    (List.cons_ne_nil _ _) hargs hs (fun _ => hlast) hf
  exact Cloud.got_google hc hi hr rfl rfl rfl

/-! What shows a status is an instance, as no other resource has one. -/

theorem status_of_view (project : String) (i : Instance) :
    (view project i).textMember? "status" = some (statusName i.status) := by
  have hn : ComputeInstance.fields.Nodup := by decide
  have he : ∀ p ∈ (describe project i).extra, p.1 ∉ ComputeInstance.fields := fun p hp =>
    (Dictionary.mem_without.mp hp).2
  refine Json.textMember?_record hn he rfl ?_
  simp [describe]

theorem statusless_machineType (m : MachineType) (project zone : String) :
    (m.encodeIn project zone).member? "status" = none := by
  have hother {fields : List (String × Json)} (h : ∀ p ∈ fields, p.1 ≠ "status") :
      (Json.ofFields fields).member? "status" = none :=
    Dictionary.get?_of_not_mem fun p hp => h p (Dictionary.mem_ofList hp)
  rw [MachineType.encodeIn]
  exact hother (by simp [MachineType.members])

theorem machineType_of_get {call : Call} {s s' : CloudState} {answer : Http.Response}
    (h : (get "machineTypes" call).exec s = (.ok answer, s')) :
    ∃ project zone m, answer = .json 200 (MachineType.encodeIn project zone m) := by
  unfold get at h
  obtain ⟨project, -, h⟩ := Handler.exec_liftExcept_bind_eq_ok.mp h
  obtain ⟨zone, -, h⟩ := Handler.exec_liftExcept_bind_eq_ok.mp h
  simp only at h
  obtain ⟨name, -, h⟩ := Handler.exec_liftExcept_bind_eq_ok.mp h
  cases hm : MachineType.find? name with
  | none =>
    rw [hm] at h
    cases h
  | some m =>
    rw [hm] at h
    cases h
    exact ⟨project, zone, m, rfl⟩

section

variable {route : Route} {params : Params} {v : Json}

/-- What a GET shows with a status is an instance of the scope that the path names. -/
theorem instance_of_status
    (hr : Provider.google.route? r = some (route, params)) (hm : r.method = "GET")
    (hs : (c.respond .google now r).1.isSuccess = true)
    (hb : (c.respond .google now r).1.body = some v)
    (hv : v.member? "status" ≠ none) :
    route.template.segments = zoneTemplate ++ [.literal "instances", .param "instance"] ∧
      ∃ project zone name i, params.get? "project" = some project ∧
        params.get? "zone" = some zone ∧ params.get? "instance" = some name ∧
        c.state.instances.get (.google project zone) name = .ok i ∧ v = view project i := by
  have hlisting {resource : String}
      (h : Provider.google.Routed r .list resource params) : False := by
    obtain ⟨p, hp⟩ := body_of_list (h.exec_of_success hs)
    have hp : (c.respond .google now r).1.body = some _ := hp
    have hn : "status" ∉ Listing.fields := by decide
    cases hb.symm.trans hp
    exact hv (Json.member?_record_other rfl hn (by simp))
  obtain ⟨hmem, hmethod⟩ := Provider.mem_routes hr
  rw [Provider.routes, routes_eq] at hmem
  simp only [List.mem_cons, List.not_mem_nil, or_false] at hmem
  rcases hmem with rfl | rfl | rfl | rfl | rfl
  · have hne : "POST" ≠ "GET" := by decide
    exact absurd (hmethod.trans hm) hne
  · exact (hlisting ⟨_, hr, rfl, rfl⟩).elim
  · have hrouted : Provider.google.Routed r .get "instances" params := ⟨_, hr, rfl, rfl⟩
    obtain ⟨project, zone, name, i, hproject, hzone, hname, hi, ha⟩ :=
      get_eq_ok (hrouted.exec_of_success hs)
    cases hb.symm.trans (congrArg Http.Response.body ha)
    exact ⟨rfl, project, zone, name, i, hproject, hzone, hname, hi, rfl⟩
  · exact (hlisting ⟨_, hr, rfl, rfl⟩).elim
  · have hrouted : Provider.google.Routed r .get "machineTypes" params := ⟨_, hr, rfl, rfl⟩
    obtain ⟨project, zone, m, ha⟩ := machineType_of_get (hrouted.exec_of_success hs)
    cases hb.symm.trans (congrArg Http.Response.body ha)
    exact absurd (statusless_machineType m project zone) hv

end

theorem verbatim_of_shows (hc : c.Consistent config)
    (hi : i ∈ c.state.instances.list (.google project zone))
    (hf : r.Follows (describe project i).selfLink) (h : c.Shows .google now r (view project i)) :
    Verbatim project ∧ Verbatim zone ∧ Verbatim i.identity ∧ Trimmed i.identity := by
  obtain ⟨hs, hb⟩ := h
  have hstatus : (view project i).member? "status" ≠ none := by
    intro hn
    have hv := status_of_view project i
    rw [Json.textMember?, hn] at hv
    cases hv
  obtain ⟨route, params, hr⟩ := Provider.exists_route_of_success hs
  obtain ⟨htemplate, project', zone', name', j, hproject, hzone, hname, hj, hview⟩ :=
    instance_of_status hr hf.method hs hb hstatus
  obtain ⟨hmem, rfl⟩ := (Store.get_eq_ok_iff (hc.sound.named _)).mp hj
  obtain ⟨hplacement, hidentity⟩ := placement_of_makes (hc.sound.made _ i hi)
  obtain ⟨hplacement', hidentity'⟩ := placement_of_makes (hc.sound.made _ j hmem)
  let call := ClientCall.getGoogleInstance project zone i.identity []
  let call' := ClientCall.getGoogleInstance project' zone' j.identity []
  have hlink : linkText "https" linkHost call'.segments none =
      linkText "https" linkHost call.segments none := by
    have h := (members_of_view project' j).2
    rw [← hview, (members_of_view project i).2, selfLink_eq, selfLink_eq, hplacement, hidentity,
      hplacement', hidentity'] at h
    exact (Option.some.inj h).symm
  have hvalues : route.template.segments.map (TemplateSegment.value? params) =
      call'.segments.map some := by
    rw [htemplate]
    simp (disch := decide) only [zoneTemplate, List.cons_append, List.nil_append, List.map_cons,
      List.map_nil, TemplateSegment.value?_literal, TemplateSegment.value?_param, hproject, hzone,
      hname]
    rfl
  have hne : call.segments ≠ [] := List.cons_ne_nil _ _
  rw [selfLink_eq, hplacement, hidentity] at hf
  obtain ⟨hall, hlast⟩ := verbatim_of_follows named_linkHost.canonical .none hne hf hr
    (by rw [htemplate]; decide) hvalues (Url.text_of_linkText hlink) rfl
  obtain ⟨hp, hz, hn⟩ := verbatim_segments.mp hall
  exact ⟨hp, hz, hn, (Url.halts_reverse_text hn.nonempty
    (zoneSegments project zone ++ ["instances"])).mp (hlast rfl)⟩

end Google

namespace Azure

variable {subscription group version : String} {a : Url.Authority}

/-- A link that leads to an identifier at a host, for a version of the interface. -/
def idLink (a : Url.Authority) (id version : String) : String :=
  "https://" ++ a.text ++ id ++ "?" ++ Url.Query.encode [("api-version", version)]

theorem resourceId_eq (subscription group name : String) :
    resourceId subscription group machineType name =
      Url.Path.text (.segments (ClientCall.getMachine subscription group name).segments) := by
  rw [← String.toList_inj, Url.toList_text]
  unfold resourceId machineType
  simp [ClientCall.segments, machineSegments]

theorem idLink_eq (a : Url.Authority) (subscription group name version : String) :
    idLink a (resourceId subscription group machineType name) version =
      linkText "https" a (ClientCall.getMachine subscription group name).segments
        (some (Url.Query.encode [("api-version", version)])) := by
  rw [idLink, resourceId_eq, linkText, Url.marked, ← String.toList_inj]
  simp

theorem tailOf_version (version : String) :
    Url.TailOf .special (some (Url.Query.encode [("api-version", version)])) none := by
  refine ⟨fun q hq => ?_, fun _ h => (nomatch h)⟩
  cases hq
  exact Url.keptBy_pairs _ _

theorem name_of_makes (h : config.Makes (.azure subscription group) i) : i.name = i.identity := by
  obtain ⟨now, subscription', group', name, body, d, id, nic, a, hd, rfl⟩ := h.azure_draft
  rfl

theorem id_of_describe {m : VirtualMachine} (h : describe subscription group i = .ok m) :
    (m.encode .ofFields).textMember? "id" =
      some (resourceId subscription group machineType i.name) := by
  obtain ⟨m, hm, -, rfl⟩ := describe_eq_ok h
  exact (members_of_encode hm _ _ _).1

theorem verbatim_segments {name : String} :
    (∀ s ∈ (ClientCall.getMachine subscription group name).segments, Verbatim s) ↔
      Verbatim subscription ∧ Verbatim group ∧ Verbatim name := by
  have hword {s : String} (h : isWord s = true) : Verbatim s ↔ True :=
    iff_true_intro (verbatim_of_isWord h)
  simp (disch := decide) only [ClientCall.segments, machineSegments, Option.toList_some,
    List.cons_append, List.nil_append, List.forall_mem_cons, hword]
  simp

theorem shows_of_verbatim (hc : c.Consistent config)
    (hi : i ∈ c.state.instances.list (.azure subscription group)) (ha : a.Named "https")
    (hv : version ≠ "")
    (hf : r.Follows (idLink a (resourceId subscription group machineType i.identity) version))
    (hs : Verbatim subscription) (hg : Verbatim group) (hn : Verbatim i.identity) :
    c.Shows .azure now r ((Scope.azure subscription group).view config i) := by
  let call := ClientCall.getMachine subscription group i.identity
  have hall : ∀ s ∈ call.segments, Verbatim s := verbatim_segments.mpr ⟨hs, hg, hn⟩
  have hargs : ∀ p ∈ call.params, Argument p.2 := by
    simp only [call, ClientCall.params, List.forall_mem_cons]
    exact ⟨hs.toArgument, hg.toArgument, hn.toArgument, List.forall_mem_nil _⟩
  rw [idLink_eq] at hf
  obtain ⟨hr, hquery⟩ := call.routed_of_follows rfl rfl ha.canonical (tailOf_version version)
    (List.cons_ne_nil _ _) hargs hall (fun h => absurd h (Option.some_ne_none _)) hf
  have hpairs : r.url.queryPairs = [("api-version", version)] := by
    rw [Url.queryPairs, hquery]
    exact Url.Query.decode_encode _
  have hversion : r.HasVersion := by
    refine ⟨version, ?_, hv⟩
    rw [Http.Request.query?, hpairs]
    rfl
  exact Cloud.got_azure hc hi hr rfl rfl rfl hversion

section

variable {route : Route} {params : Params} {v : Json}

/-- What a GET shows with an identifier is a machine of the scope that the path names. -/
theorem machine_of_id
    (hr : Provider.azure.route? r = some (route, params)) (hm : r.method = "GET")
    (hs : (c.respond .azure now r).1.isSuccess = true)
    (hb : (c.respond .azure now r).1.body = some v)
    (hv : v.member? "id" ≠ none) :
    route.template.segments = groupTemplate ++ [.param "vmName"] ∧
      ∃ subscription group name i m, params.get? "subscriptionId" = some subscription ∧
        params.get? "resourceGroupName" = some group ∧ params.get? "vmName" = some name ∧
        c.state.instances.get (.azure subscription group) name = .ok i ∧
        describe subscription group i = .ok m ∧ v = m.encode .ofFields := by
  obtain ⟨hmem, hmethod⟩ := Provider.mem_routes hr
  rw [Provider.routes, routes_eq] at hmem
  simp only [List.mem_cons, List.not_mem_nil, or_false] at hmem
  rcases hmem with rfl | rfl | rfl
  · have hne : "PUT" ≠ "GET" := by decide
    exact absurd (hmethod.trans hm) hne
  · have hrouted : Provider.azure.Routed r .get resource params := ⟨_, hr, rfl, rfl⟩
    obtain ⟨subscription, group, name, i, m, hsubscription, hgroup, hname, hi, hm, ha⟩ :=
      get_eq_ok (exec_of_success hrouted hs)
    cases hb.symm.trans (congrArg Http.Response.body ha)
    exact ⟨rfl, subscription, group, name, i, m, hsubscription, hgroup, hname, hi, hm, rfl⟩
  · have hrouted : Provider.azure.Routed r .list resource params := ⟨_, hr, rfl, rfl⟩
    obtain ⟨_, _, machines, link, -, -, ha, -⟩ := list_eq_ok (exec_of_success hrouted hs)
    have hn : "id" ∉ MachineList.fields := by decide
    cases hb.symm.trans (congrArg Http.Response.body ha)
    exact absurd (Json.member?_record_other rfl hn (by simp)) hv

end

theorem verbatim_of_shows (hc : c.Consistent config)
    (hi : i ∈ c.state.instances.list (.azure subscription group)) (ha : a.Named "https")
    (hf : r.Follows (idLink a (resourceId subscription group machineType i.identity) version))
    (h : c.Shows .azure now r ((Scope.azure subscription group).view config i)) :
    Verbatim subscription ∧ Verbatim group ∧ Verbatim i.identity := by
  obtain ⟨hs, hb⟩ := h
  obtain ⟨m, hm, hview, -⟩ := (hc.sound.made _ i hi).azure_view
  have hid := id_of_describe hm
  rw [name_of_makes (hc.sound.made _ i hi)] at hid
  rw [hview] at hb
  have hshown : (m.encode .ofFields).member? "id" ≠ none := by
    intro hn
    rw [Json.textMember?, hn] at hid
    cases hid
  obtain ⟨route, params, hr⟩ := Provider.exists_route_of_success hs
  obtain ⟨htemplate, subscription', group', name', j, m', hsubscription, hgroup, hname, hj, hm',
    hsame⟩ := machine_of_id hr hf.method hs hb hshown
  obtain ⟨hmem, rfl⟩ := (Store.get_eq_ok_iff (hc.sound.named _)).mp hj
  let call := ClientCall.getMachine subscription group i.identity
  let call' := ClientCall.getMachine subscription' group' j.identity
  have htext : Url.Path.text (.segments call'.segments) =
      Url.Path.text (.segments call.segments) := by
    have hid' := id_of_describe hm'
    rw [name_of_makes (hc.sound.made _ j hmem), ← hsame, hid] at hid'
    rw [← resourceId_eq, ← resourceId_eq]
    exact (Option.some.inj hid').symm
  have hvalues : route.template.segments.map (TemplateSegment.value? params) =
      call'.segments.map some := by
    rw [htemplate]
    simp (disch := decide) only [groupTemplate, List.cons_append, List.nil_append, List.map_cons,
      List.map_nil, TemplateSegment.value?_literal, TemplateSegment.value?_param, hsubscription,
      hgroup, hname]
    rfl
  have hne : call.segments ≠ [] := List.cons_ne_nil _ _
  rw [idLink_eq] at hf
  obtain ⟨hall, -⟩ := verbatim_of_follows ha.canonical (tailOf_version version) hne hf hr
    (by rw [htemplate]; decide) hvalues htext rfl
  exact verbatim_segments.mp hall

end Azure

/-! Links of all instances. -/

theorem Google.leads (hc : c.Consistent config) {project zone : String}
    (hi : i ∈ c.state.instances.list (.google project zone)) :
    c.LeadsIf .google (describe project i).selfLink (view project i)
      (Verbatim project ∧ Verbatim zone ∧ Verbatim i.identity ∧ Trimmed i.identity) where
  parsed := by
    rw [selfLink_eq]
    exact ⟨_, Url.parse_link rfl named_linkHost.canonical .none (List.cons_ne_nil _ _)⟩
  shows_iff ops now r hf := by
    have hc' := hc.after ops
    have hi' := hc.mem_after hi ops
    exact ⟨verbatim_of_shows hc' hi' hf,
      fun ⟨hp, hz, hn, ht⟩ => shows_of_verbatim hc' hi' hf hp hz hn ht⟩

theorem Azure.leads (hc : c.Consistent config) {subscription group version : String}
    {a : Url.Authority} (hi : i ∈ c.state.instances.list (.azure subscription group))
    (ha : a.Named "https") (hv : version ≠ "") :
    c.LeadsIf .azure (idLink a (resourceId subscription group machineType i.identity) version)
      ((Scope.azure subscription group).view config i)
      (Verbatim subscription ∧ Verbatim group ∧ Verbatim i.identity) where
  parsed := by
    rw [idLink_eq]
    exact ⟨_, Url.parse_link rfl ha.canonical (tailOf_version version) (List.cons_ne_nil _ _)⟩
  shows_iff ops now r hf := by
    have hc' := hc.after ops
    have hi' := hc.mem_after hi ops
    exact ⟨verbatim_of_shows hc' hi' ha hf,
      fun ⟨hs, hg, hn⟩ => shows_of_verbatim hc' hi' ha hv hf hs hg hn⟩

/-- The links that instances show of themselves, that their creations tell and that their
identifiers make lead back to the instances at any later time if all that they are written of
stands for itself, and at none if not. -/
theorem links_lead_back (h : Cloud.Reachable config c) :
    (∀ project zone, ∀ name ∈ c.identitiesIn (.google project zone), ∃ v link,
      c.Renders (.google project zone) name v ∧ v.textMember? "selfLink" = some link ∧
      c.LeadsIf .google link v
        (Verbatim project ∧ Verbatim zone ∧ Verbatim name ∧ Trimmed name)) ∧
    (∀ now r project zone name,
      Provider.google.accepted? r (c.respond .google now r).1 =
        some (.google project zone, name) → ∃ operation v link,
      (c.respond .google now r).1.body = some operation ∧
      operation.textMember? "targetLink" = some link ∧
      (c.respond .google now r).2.Renders (.google project zone) name v ∧
      (c.respond .google now r).2.LeadsIf .google link v
        (Verbatim project ∧ Verbatim zone ∧ Verbatim name ∧ Trimmed name)) ∧
    ∀ subscription group, ∀ name ∈ c.identitiesIn (.azure subscription group), ∃ v id,
      c.Renders (.azure subscription group) name v ∧ v.textMember? "id" = some id ∧
      ∀ (a : Url.Authority) version, a.Named "https" → version ≠ "" →
        c.LeadsIf .azure (Azure.idLink a id version) v
          (Verbatim subscription ∧ Verbatim group ∧ Verbatim name) := by
  have hc := h.consistent
  refine ⟨?_, ?_, ?_⟩
  · intro project zone name hname
    obtain ⟨i, hi, rfl⟩ := List.mem_map.mp hname
    exact ⟨Google.view project i, _, hc.renders hi, (Google.members_of_view project i).2,
      Google.leads hc hi⟩
  · intro now r project zone name ha
    have hc' := hc.step (hc.step_perform now (.request .google r))
    obtain ⟨i, hi, rfl, -, operation, id, link, hb, -, -, htarget, hself⟩ :=
      Cloud.respond_tells hc ha
    cases hself.symm.trans (Google.members_of_view project i).2
    exact ⟨operation, Google.view project i, _, hb, htarget, hc'.renders hi, Google.leads hc' hi⟩
  · intro subscription group name hname
    obtain ⟨i, hi, rfl⟩ := List.mem_map.mp hname
    obtain ⟨m, hm, hview, -⟩ := (hc.sound.made _ i hi).azure_view
    refine ⟨(Scope.azure subscription group).view config i, _, hc.renders hi, ?_,
      fun a version ha hv => Azure.leads hc hi ha hv⟩
    rw [hview, ← Azure.name_of_makes (hc.sound.made _ i hi)]
    exact Azure.id_of_describe hm

/-- Blanks, other letters and stray percent signs do no harm. -/
theorem links_of_plain_names :
    let c := Cloud.initial.after [
      (⟨0, 0⟩, .insert "my shop" "eu" (.object [("name", .string "büro 50%")])),
      (⟨1, 0⟩, .put "sub" "group" "web" (.object [("location", .string "westeurope")]))]
    let insert : Http.Request := ⟨"POST", ⟨"https", none, .segments
      ["compute", "v1", "projects", "shop", "zones", "eu", "instances"], none, none⟩, [],
      some (.object [("name", .string "büro")])⟩
    let out := c.respond .google ⟨2, 0⟩ insert
    (∃ v link, c.Renders (.google "my shop" "eu") "büro 50%" v ∧
      v.textMember? "selfLink" = some link ∧
      ∀ ops now r, r.Follows link → (c.after ops).Shows .google now r v) ∧
    (∃ operation v link, out.1.body = some operation ∧
      operation.textMember? "targetLink" = some link ∧
      out.2.Renders (.google "shop" "eu") "büro" v ∧
      ∀ ops now r, r.Follows link → (out.2.after ops).Shows .google now r v) ∧
    ∃ v id, c.Renders (.azure "sub" "group") "web" v ∧ v.textMember? "id" = some id ∧
      ∀ ops now r, r.Follows (Azure.idLink Google.linkHost id "2024-07-01") →
        (c.after ops).Shows .azure now r v := by
  intro c insert out
  obtain ⟨hgoogle, hinsert, hazure⟩ := links_lead_back (Cloud.reachable_initial _) (c := c)
  have ha : Provider.google.accepted? insert out.1 = some (.google "shop" "eu", "büro") := by
    decide +kernel
  obtain ⟨v, link, hv, hlink, hleads⟩ := hgoogle "my shop" "eu" "büro 50%" (by decide +kernel)
  obtain ⟨o, w, target, ho, htarget, hw, htargets⟩ := hinsert _ _ _ _ _ ha
  obtain ⟨m, id, hm, hid, hids⟩ := hazure "sub" "group" "web" (by decide +kernel)
  refine ⟨⟨v, link, hv, hlink, fun ops now r hf => ?_⟩,
    ⟨o, w, target, ho, htarget, hw, fun ops now r hf => ?_⟩, m, id, hm, hid,
    fun ops now r hf => ?_⟩
  · exact (hleads.shows_iff ops now r hf).mpr (by decide +kernel)
  · exact (htargets.shows_iff ops now r hf).mpr (by decide +kernel)
  · exact ((hids _ _ Google.named_linkHost (by decide)).shows_iff ops now r hf).mpr
      (by decide +kernel)

/-- A link with an encoded character in a name leads to the instance of another name, and one with a
slash nowhere. -/
theorem links_of_other_names :
    let c := Cloud.initial.after [
      (⟨0, 0⟩, .insert "shop" "eu" (.object [("name", .string "web")])),
      (⟨1, 0⟩, .insert "shop" "eu" (.object [("name", .string "we%62")])),
      (⟨2, 0⟩, .insert "shop" "eu" (.object [("name", .string "a/b")])),
      (⟨3, 0⟩, .put "sub" "group" "a%2Fb" (.object [("location", .string "westeurope")]))]
    let zone := "https://www.googleapis.com/compute/v1/projects/shop/zones/eu/instances/"
    let read (names : List String) (query : Option String) : Http.Request :=
      ⟨"GET", ⟨"https", some Google.linkHost, .segments names, query, none⟩, [], none⟩
    let encoded := read (Google.zoneSegments "shop" "eu" ++ ["instances", "we%62"]) none
    let slash := read (Google.zoneSegments "shop" "eu" ++ ["instances", "a", "b"]) none
    let id := Azure.resourceId "sub" "group" Azure.machineType "a%2Fb"
    let machine :=
      read (Azure.machineSegments "sub" "group" (some "a%2Fb")) (some "api-version=2024-07-01")
    (c.state.instances.list (.google "shop" "eu")).map
        (fun i => (i.name, (Google.describe "shop" i).selfLink)) =
      [("web", zone ++ "web"), ("we%62", zone ++ "we%62"), ("a/b", zone ++ "a/b")] ∧
    encoded.Follows (zone ++ "we%62") ∧
    (c.respond .google ⟨4, 0⟩ encoded).1.body.bind (·.textMember? "name") = some "web" ∧
    slash.Follows (zone ++ "a/b") ∧ (c.respond .google ⟨4, 0⟩ slash).1.status = 501 ∧
    c.identitiesIn (.azure "sub" "group") = ["a%2Fb"] ∧
    machine.Follows (Azure.idLink Google.linkHost id "2024-07-01") ∧
    (c.respond .azure ⟨4, 0⟩ machine).1.status = 404 := by
  refine ⟨by decide +kernel, ⟨rfl, by decide +kernel⟩, by decide +kernel, ⟨rfl, by decide +kernel⟩,
    by decide +kernel, by decide +kernel, ⟨rfl, by decide +kernel⟩, by decide +kernel⟩

end CloudEmulation
