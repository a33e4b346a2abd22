import CloudEmulation.Proofs.Cloud.Names
import CloudEmulation.Proofs.Emulation.Bodies
/-!
Renderings of instances: whoever reads an instance, and whenever, sees what its creation told of.
-/

namespace CloudEmulation

variable {config : Configuration} {s s' : CloudState} {scope : Scope} {i : Instance} {id : String}
  {call : Call} {r : Http.Request} {answer : Http.Response} {v : Json}

/-- Whether a request reads one instance of a scope. -/
inductive Scope.Gets : Scope → String → Http.Request → Prop
  | google {project zone name r params} : Provider.google.Routed r .get "instances" params →
    params.get? "project" = some project → params.get? "zone" = some zone →
    params.get? "instance" = some name → Gets (.google project zone) name r
  | azure {subscription group name r params} :
    Provider.azure.Routed r .get Azure.resource params →
    params.get? "subscriptionId" = some subscription →
    params.get? "resourceGroupName" = some group → params.get? "vmName" = some name →
    r.HasVersion → Gets (.azure subscription group) name r
  | oracle {compartment id r params} : Provider.oracle.Routed r .get "instances" params →
    params.get? "instanceId" = some id → Gets (.oracle compartment) id r

/-- Whether a request lists instances of a scope, whichever of them and from any page on. -/
inductive Scope.Asks : Scope → Http.Request → Prop
  | google {project zone r params} : Provider.google.Routed r .list "instances" params →
    params.get? "project" = some project → params.get? "zone" = some zone →
    Asks (.google project zone) r
  | azure {subscription group r params} :
    Provider.azure.Routed r .list Azure.resource params →
    params.get? "subscriptionId" = some subscription →
    params.get? "resourceGroupName" = some group → Asks (.azure subscription group) r
  | oracle {compartment r params} : Provider.oracle.Routed r .list "instances" params →
    r.query? "compartmentId" = some compartment → Asks (.oracle compartment) r

/-- What the answer to a creation tells of how the instance is shown: Google tells two of its
members, the others show it. -/
def Provider.Tells (p : Provider) (answer : Http.Response) (v : Json) : Prop :=
  match p with
  | .google => ∃ operation id link, answer.body = some operation ∧
    operation.textMember? "targetId" = some id ∧ v.textMember? "id" = some id ∧
    operation.textMember? "targetLink" = some link ∧ v.textMember? "selfLink" = some link
  | _ => answer.body = some v

/-- Whether all that reads an instance in a cloud sees one value. -/
structure Cloud.Renders (c : Cloud) (scope : Scope) (id : String) (v : Json) : Prop where
  got : ∀ now r, scope.Gets id r → (c.respond scope.provider now r).1.isSuccess = true ∧
    (c.respond scope.provider now r).1.body = some v
  listed : ∀ now r, scope.Asks r → (c.respond scope.provider now r).1.isSuccess = true →
    ∀ j ∈ scope.provider.shown (c.respond scope.provider now r).1,
      j.textMember? scope.provider.key = some id → j = v
  walked : 0 < c.config.azurePageSize → ∀ r, scope.Opens r →
    (∃ items, Walk scope c r items) ∧ ∀ items, Walk scope c r items → v ∈ items

theorem Store.append_inj {α : Type} {s : Store α} {scope scope' : Scope} {a a' : α}
    (h : s.append scope a = s.append scope' a') : scope = scope' ∧ a = a' := by
  have he := congrArg Store.entries h
  simpa [append] using he

/-! What creations tell. -/

namespace Google

theorem members_of_view (project : String) (i : Instance) :
    (view project i).textMember? "id" = some i.id ∧
      (view project i).textMember? "selfLink" = some (describe project i).selfLink := by
  have hn : ComputeInstance.fields.Nodup := by decide
  have he : ∀ p ∈ (describe project i).extra, p.1 ∉ ComputeInstance.fields := fun p hp =>
    (Dictionary.mem_without.mp hp).2
  constructor
  · refine Json.textMember?_record hn he rfl ?_
    simp [describe]
  · refine Json.textMember?_record hn he rfl ?_
    simp

theorem members_of_operation (o : Operation) :
    (o.encode .ofFields).textMember? "targetId" = some o.targetId ∧
      (o.encode .ofFields).textMember? "targetLink" = some o.targetLink := by
  have hn : Operation.fields.Nodup := by decide
  constructor
  · refine Json.textMember?_record hn (by simp) rfl ?_
    simp
  · refine Json.textMember?_record hn (by simp) rfl ?_
    simp

theorem create_tells (hp : s.pool.Valid)
    (h : (create config "instances" call).exec s = (.ok answer, s')) :
    ∃ scope i, s'.instances = s.instances.append scope i ∧
      Provider.google.Tells answer (scope.view config i) := by
  obtain ⟨project, zone, body, d, i, s₁, id, name, -, hd, hi, rfl, rfl⟩ := create_eq_ok h
  refine ⟨.google project zone, i, ?_, _, i.id, (describe project i).selfLink, rfl, ?_, ?_, ?_, ?_⟩
  · rcases d.create_cases hp hd with ⟨id, nics, s₂, hs, ha⟩ | ⟨f, s₂, hs, -, -⟩
    · rw [hs] at hi
      cases hi
      rw [(kept_operationNames ha.pool.valid).instances, ha.instances, (Draft.ofBody_eq_ok hd).1]
    · rw [hs] at hi
      cases hi
  · exact (members_of_operation _).1
  · exact (members_of_view project i).1
  · exact (members_of_operation _).2
  · exact (members_of_view project i).2

end Google

namespace Azure

theorem view_of_describe {subscription group : String} {m : VirtualMachine}
    (h : describe subscription group i = .ok m) :
    (Scope.azure subscription group).view config i = m.encode .ofFields := by
  rw [Scope.view, h]
  rfl

theorem create_tells (hp : s.pool.Valid) (h : (create config call).exec s = (.ok answer, s')) :
    ∃ scope i, s'.instances = s.instances.append scope i ∧
      Provider.azure.Tells answer (scope.view config i) := by
  obtain ⟨subscription, group, name, body, d, i, m, -, hd, hi, hm, rfl⟩ := create_eq_ok h
  refine ⟨.azure subscription group, i, ?_, ?_⟩
  · rcases d.create_cases hp hd with ⟨id, nic, a, s₂, hs, ha⟩ | ⟨f, s₂, hs, -, -⟩
    · rw [hs] at hi
      cases hi
      rw [ha.instances, (Draft.ofBody_eq_ok hd).1]
    · rw [hs] at hi
      cases hi
  · rw [view_of_describe hm]
    rfl

end Azure

namespace Oracle

theorem view_of_describe {compartment : String} {m : ComputeInstance}
    (h : describe config i = .ok m) :
    (Scope.oracle compartment).view config i = m.encode .ofFields := by
  rw [Scope.view, h]
  rfl

theorem create_tells (hs : s.Sound config)
    (h : (create config "instances" call).exec s = (.ok answer, s')) :
    ∃ scope i, s'.instances = s.instances.append scope i ∧
      Provider.oracle.Tells answer (scope.view config i) := by
  obtain ⟨body, d, i, m, s₁, -, hd, hi, hs', hm, hb⟩ := create_eq_ok h
  refine ⟨.oracle d.details.compartmentId, i, ?_, ?_⟩
  · rcases Draft.launch_cases hs hd with ⟨id, vnic, attachment, a, s₂, hl, ha⟩ | ⟨f, s₂, hl, -⟩
    · rw [hl] at hi
      cases hi
      rw [hs', ha.instances]
      rfl
    · rw [hl] at hi
      cases hi
  · rw [view_of_describe hm]
    exact hb

end Oracle

namespace Cloud

variable {c : Cloud} {now : Timestamp} {p : Provider}

theorem respond_tells (hc : Consistent config c)
    (ha : p.accepted? r (c.respond p now r).1 = some (scope, id)) :
    ∃ i ∈ (c.respond p now r).2.state.instances.list scope, i.identity = id ∧
      scope.provider = p ∧ p.Tells (c.respond p now r).1 (scope.view config i) := by
  obtain ⟨rfl, hs, -⟩ := hc
  have ho := Provider.outcome hs p now r
  generalize hx : ((p.emulator c.config).respond now r).run c.state = out at ho
  have h₁ : (c.respond p now r).1 = out.1 := congrArg Prod.fst hx
  have h₂ : (c.respond p now r).2.state = out.2 := congrArg Prod.snd hx
  rw [h₁] at ha ⊢
  rw [h₂]
  cases ho with
  | kept _ hn => rw [hn] at ha; cases ha
  | @added route params scope' i hr hv hg hsucc hprov hn hadd =>
    rw [hn] at ha
    cases ha
    have hrouted : p.Routed r .create p.machines params :=
      ⟨route, hr, hv, p.routes_create route (Provider.mem_routes hr).1 hv⟩
    have hrun : (((p.emulator c.config).respond now r).run c.state).1.isSuccess = true := hx ▸ hsucc
    -- The record that the handler added is the one that the answer tells of.
    have htells : ∃ scope i, out.2.instances = c.state.instances.append scope i ∧
        p.Tells out.1 (scope.view c.config i) := by
      rw [← hx]
      cases p with
      | google => exact Google.create_tells hs.pool (hrouted.exec_of_success hrun)
      | azure => exact Azure.create_tells hs.pool (Azure.exec_of_success hrouted hrun)
      | oracle => exact Oracle.create_tells hs (hrouted.exec_of_success hrun)
    obtain ⟨scope'', i', hi', ht⟩ := htells
    obtain ⟨rfl, rfl⟩ := Store.append_inj (hadd.instances.symm.trans hi')
    refine ⟨i, ?_, rfl, hprov, ht⟩
    rw [hadd.instances, Store.list_append, if_pos rfl]
    exact List.mem_append_right _ List.mem_cons_self

/-! What reads an instance. -/

theorem Consistent.eq_of_get {j : Instance} (hc : Consistent config c)
    (hi : i ∈ c.state.instances.list scope)
    (hj : c.state.instances.get scope i.identity = .ok j) : j = i := by
  have hn := hc.sound.named scope
  obtain ⟨hj, hid⟩ := (Store.get_eq_ok_iff hn).mp hj
  exact List.inj_on_of_nodup_map hn hj hi hid

section

variable {project zone subscription group compartment : String} {params : Params}

theorem got_google (hc : Consistent config c)
    (hi : i ∈ c.state.instances.list (.google project zone))
    (hr : Provider.google.Routed r .get "instances" params)
    (hproject : params.get? "project" = some project) (hzone : params.get? "zone" = some zone)
    (hname : params.get? "instance" = some i.identity) :
    (c.respond .google now r).1.isSuccess = true ∧
      (c.respond .google now r).1.body = some (Google.view project i) := by
  have hsucc : (c.respond .google now r).1.isSuccess = true :=
    (respond_google_get hc hr hproject hzone hname).mpr (List.mem_map_of_mem hi)
  refine ⟨hsucc, ?_⟩
  obtain ⟨project', zone', name', j, hp', hz', hn', hj, ha⟩ :=
    Google.get_eq_ok (hr.exec_of_success hsucc)
  cases hproject.symm.trans hp'
  cases hzone.symm.trans hz'
  cases hname.symm.trans hn'
  rw [hc.eq_of_get hi hj] at ha
  exact congrArg Http.Response.body ha

theorem got_azure (hc : Consistent config c)
    (hi : i ∈ c.state.instances.list (.azure subscription group))
    (hr : Provider.azure.Routed r .get Azure.resource params)
    (hsubscription : params.get? "subscriptionId" = some subscription)
    (hgroup : params.get? "resourceGroupName" = some group)
    (hname : params.get? "vmName" = some i.identity) (hversion : r.HasVersion) :
    (c.respond .azure now r).1.isSuccess = true ∧
      (c.respond .azure now r).1.body =
        some ((Scope.azure subscription group).view config i) := by
  have hsucc : (c.respond .azure now r).1.isSuccess = true :=
    (respond_azure_get hc hr hsubscription hgroup hname hversion).mpr (List.mem_map_of_mem hi)
  refine ⟨hsucc, ?_⟩
  obtain ⟨subscription', group', name', j, m, hs', hg', hn', hj, hm, ha⟩ :=
    Azure.get_eq_ok (Azure.exec_of_success hr hsucc)
  cases hsubscription.symm.trans hs'
  cases hgroup.symm.trans hg'
  cases hname.symm.trans hn'
  rw [hc.eq_of_get hi hj] at hm
  rw [Azure.view_of_describe hm]
  exact congrArg Http.Response.body ha

theorem got_oracle (hc : Consistent config c)
    (hi : i ∈ c.state.instances.list (.oracle compartment))
    (hr : Provider.oracle.Routed r .get "instances" params)
    (hid : params.get? "instanceId" = some i.identity) :
    (c.respond .oracle now r).1.isSuccess = true ∧
      (c.respond .oracle now r).1.body = some ((Scope.oracle compartment).view config i) := by
  have hs := hc.sound
  have hshape := (Oracle.made_shape (hs.made _ i hi)).1
  have hsucc : (c.respond .oracle now r).1.isSuccess = true :=
    (respond_getInstance hc hr hid).mpr ⟨compartment, i, hi, hshape⟩
  refine ⟨hsucc, ?_⟩
  obtain ⟨x, l, j, m, hx, hl, hj, hm, hb⟩ := Oracle.get_eq_ok (hr.exec_of_success hsucc)
  cases hid.symm.trans hx
  have hhome := (Oracle.mem_locators hs).mpr ⟨compartment, i, hi, .inl rfl⟩
  rw [Oracle.get_locator hs hhome] at hl
  cases hl
  rw [hc.eq_of_get hi hj, hc.configured] at hm
  rw [Oracle.view_of_describe hm]
  exact hb

end

theorem respond_gets (hc : Consistent config c) (hi : i ∈ c.state.instances.list scope)
    (hg : scope.Gets i.identity r) :
    (c.respond scope.provider now r).1.isSuccess = true ∧
      (c.respond scope.provider now r).1.body = some (scope.view config i) := by
  cases hg with
  | google hr hproject hzone hname => exact got_google hc hi hr hproject hzone hname
  | azure hr hsubscription hgroup hname hversion =>
    exact got_azure hc hi hr hsubscription hgroup hname hversion
  | oracle hr hid => exact got_oracle hc hi hr hid

theorem respond_asks (hc : Consistent config c) (ha : scope.Asks r)
    (hsucc : (c.respond scope.provider now r).1.isSuccess = true) :
    ∀ j ∈ scope.provider.shown (c.respond scope.provider now r).1,
      ∃ i ∈ c.state.instances.list scope, j = scope.view config i := by
  cases ha with
  | @google project zone r params hr hproject hzone =>
    obtain ⟨project', zone', hp', hz', hshown⟩ := Google.list_eq_ok (hr.exec_of_success hsucc)
    cases hproject.symm.trans hp'
    cases hzone.symm.trans hz'
    exact hshown
  | @azure subscription group r params hr hsubscription hgroup =>
    obtain ⟨subscription', group', machines, link, hs', hg', he, hm⟩ :=
      Azure.list_eq_ok (Azure.exec_of_success hr hsucc)
    cases hsubscription.symm.trans hs'
    cases hgroup.symm.trans hg'
    have hshown : Provider.azure.shown (c.respond .azure now r).1 = _ :=
      (congrArg _ he).trans (Azure.shown_of_list machines link).1
    show ∀ j ∈ Provider.azure.shown (c.respond .azure now r).1, _
    rw [hshown]
    intro j hj
    obtain ⟨m, hmem, rfl⟩ := List.mem_map.mp hj
    obtain ⟨i, hi, hd⟩ := hm m hmem
    exact ⟨i, hi, (Azure.view_of_describe hd).symm⟩
  | @oracle compartment r params hr hcompartment =>
    obtain ⟨compartment', hc', hshown⟩ := Oracle.list_eq_ok (hr.exec_of_success hsucc)
    cases hcompartment.symm.trans hc'
    intro j hj
    obtain ⟨i, hi, m, hm, rfl⟩ := hshown j hj
    rw [hc.configured] at hm
    exact ⟨i, hi, (Oracle.view_of_describe hm).symm⟩

theorem Consistent.renders (hc : Consistent config c) (hi : i ∈ c.state.instances.list scope) :
    c.Renders scope i.identity (scope.view config i) where
  got now r hg := respond_gets hc hi hg
  listed now r ha hsucc j hj hid := by
    obtain ⟨i', hi', rfl⟩ := respond_asks hc ha hsucc j hj
    rw [(hc.sound.made scope i' hi').key_of_view] at hid
    rw [List.inj_on_of_nodup_map (hc.sound.named scope) hi' hi (Option.some.inj hid)]
  walked hpage r ho := by
    rw [hc.configured] at hpage
    refine ⟨exists_walk hc hpage ho.1 (Page.offset_start ho.2), ?_⟩
    intro items hw
    rw [hw.items_eq hc hpage ho.1 (Page.offset_start ho.2), List.drop_zero]
    exact List.mem_map_of_mem hi

/-- Of each instance there is one view: its creation tells it, and whatever happens later all that
reads the instance sees it. -/
theorem one_view_of_each_instance (h : Reachable config c) :
    (∀ scope, ∀ id ∈ c.identitiesIn scope, ∃ v, v.textMember? scope.provider.key = some id ∧
      ∀ ops, (c.after ops).Renders scope id v) ∧
    ∀ p now r scope id, p.accepted? r (c.respond p now r).1 = some (scope, id) →
      ∃ v, v.textMember? scope.provider.key = some id ∧ scope.provider = p ∧
        p.Tells (c.respond p now r).1 v ∧
        ∀ ops, ((c.respond p now r).2.after ops).Renders scope id v := by
  have hc := h.consistent
  constructor
  · intro scope id hid
    obtain ⟨i, hi, rfl⟩ := List.mem_map.mp hid
    refine ⟨scope.view config i, (hc.sound.made scope i hi).key_of_view, fun ops => ?_⟩
    exact (hc.after ops).renders (hc.mem_after hi ops)
  · intro p now r scope id ha
    have hc' := hc.step (hc.step_perform now (.request p r))
    obtain ⟨i, hi, rfl, hp, ht⟩ := respond_tells hc ha
    refine ⟨scope.view config i, (hc'.sound.made scope i hi).key_of_view, hp, ht, fun ops => ?_⟩
    exact (hc'.after ops).renders (hc'.mem_after hi ops)

/-- An instance is seen as its insertion told. -/
theorem view_of_insertion :
    let insert : Http.Request := ⟨"POST", ⟨"https", none, .segments
      ["compute", "v1", "projects", "shop", "zones", "eu", "instances"], none, none⟩, [],
      some (.object [("name", .string "web")])⟩
    let out := initial.respond .google ⟨0, 0⟩ insert
    ∃ v, v.textMember? "name" = some "web" ∧ Provider.google.Tells out.1 v ∧
      ∀ ops, (out.2.after ops).Renders (.google "shop" "eu") "web" v := by
  intro insert out
  have ha : Provider.google.accepted? insert out.1 = some (.google "shop" "eu", "web") := by
    decide +kernel
  obtain ⟨v, hname, -, htells, hrenders⟩ :=
    (one_view_of_each_instance (reachable_initial [])).2 .google ⟨0, 0⟩ insert _ _ ha
  exact ⟨v, hname, htells, hrenders⟩

end Cloud

end CloudEmulation
