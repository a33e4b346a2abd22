import CloudEmulation.Proofs.Cloud.Addresses
import CloudEmulation.Proofs.Emulation.Pages
import CloudEmulation.Proofs.Oracle.Locators
/-!
Requests that look Oracle identifiers up, and where the attachments of a compartment lead.
-/

namespace CloudEmulation

namespace Oracle

variable {c : Configuration} {s s' : CloudState} {call : Call} {compartment : String}
  {items : List Json} {r : Http.Response} {j : Json}

theorem replyPage_of_ok (h : (replyPage call items).exec s = (.ok r, s')) :
    ∃ shown, r.body = some (.array shown) ∧ ∀ j ∈ shown, j ∈ items := by
  unfold replyPage at h
  cases hl : call.queryCount "limit" with
  | error f =>
    rw [hl, Handler.exec_bind_liftExcept_error] at h
    cases h
  | ok limit =>
    rw [hl, Handler.exec_bind_liftExcept_ok] at h
    cases hp : Page.of items limit (call.query? "page") with
    | error f =>
      rw [hp, Handler.exec_bind_liftExcept_error] at h
      cases h
    | ok p =>
      obtain ⟨id, s'', hr⟩ := exec_answer (.array p.items) s
      rw [hp, Handler.exec_bind_liftExcept_ok, Handler.exec_bind_ok _ hr, Handler.exec_pure] at h
      refine ⟨p.items, ?_, fun j hj => Page.mem_of hp hj⟩
      simp only [Prod.mk.injEq, Except.ok.injEq] at h
      rw [← h.1]
      cases p.next <;> rfl

theorem listAttachments_of_ok (h : (listAttachments call).exec s = (.ok r, s')) :
    ∃ compartment shown, call.query? "compartmentId" = some compartment ∧
      r.body = some (.array shown) ∧
      ∀ j ∈ shown, ∃ i ∈ s.instances.list (.oracle compartment), ∃ nic ∈ i.nics,
        ∃ a, describeAttachment compartment i nic = some a ∧ j = a.encode .ofFields := by
  unfold listAttachments Call.requireQuery at h
  cases hq : call.query? "compartmentId" with
  | none =>
    rw [hq] at h
    cases h
  | some compartment =>
    rw [hq] at h
    by_cases he : compartment = ""
    · simp only [he, if_true] at h
      cases h
    · simp only [he, if_false, Handler.exec_bind_liftExcept_ok] at h
      rw [Handler.exec_bind_ok _ (Handler.exec_look _ _)] at h
      obtain ⟨shown, hb, hshown⟩ := replyPage_of_ok h
      refine ⟨compartment, shown, rfl, hb, ?_⟩
      intro j hj
      obtain ⟨a, ha, rfl⟩ := List.mem_map.mp (hshown j hj)
      obtain ⟨i, hi, hnic⟩ := List.mem_flatMap.mp ha
      obtain ⟨nic, hn, hd⟩ := List.mem_filterMap.mp hnic
      exact ⟨i, (List.mem_filter.mp hi).1, nic, hn, a, hd, rfl⟩

theorem members_of_attachment {i : Instance} {nic : Nic} {a : VnicAttachment}
    (h : describeAttachment compartment i nic = some a) :
    (a.encode .ofFields).textMember? "vnicId" = some nic.id ∧
      (a.encode .ofFields).textMember? "instanceId" = some i.id := by
  obtain ⟨id, -, rfl⟩ := Option.map_eq_some_iff.mp h
  have hn : VnicAttachment.fields.Nodup := by decide
  constructor
  · refine Json.textMember?_record hn (by simp) rfl ?_
    simp
  · refine Json.textMember?_record hn (by simp) rfl ?_
    simp

theorem members_of_vnic (v : Vnic) :
    (v.encode .ofFields).textMember? "compartmentId" = some v.compartmentId ∧
      (v.encode .ofFields).textMember? "privateIp" = some v.privateIp := by
  have hn : Vnic.fields.Nodup := by decide
  constructor
  · refine Json.textMember?_record hn (by simp) rfl ?_
    simp
  · refine Json.textMember?_record hn (by simp) rfl ?_
    simp

end Oracle

namespace Cloud

variable {config : Configuration} {c c' : Cloud} {scope : Scope} {i : Instance}
  {created : Option (Scope × String)} {now : Timestamp} {r : Http.Request} {route : Route}
  {params : Params} {x : String}

theorem Step.mem (k : c.Step created c') (h : i ∈ c.state.instances.list scope) :
    i ∈ c'.state.instances.list scope := by
  cases k with
  | kept _ _ hk => exact hk.instances ▸ h
  | added _ _ ha =>
    rw [ha.instances, Store.list_append]
    exact List.mem_append_left _ h

theorem Consistent.mem_after (hc : Consistent config c) (h : i ∈ c.state.instances.list scope)
    (ops : List (Timestamp × Operation)) : i ∈ (c.after ops).state.instances.list scope := by
  induction ops generalizing c with
  | nil => exact h
  | cons step ops ih =>
    have k := hc.step_perform step.1 step.2
    exact ih (hc.step k) (k.mem h)

theorem respond_getInstance (hc : Consistent config c)
    (hr : Provider.oracle.Routed r .get "instances" params)
    (hx : params.get? "instanceId" = some x) :
    (c.respond .oracle now r).1.isSuccess = true ↔
      ∃ compartment, ∃ i ∈ c.state.instances.list (.oracle compartment), i.id = x := by
  obtain ⟨rfl, hs, -⟩ := hc
  have hh : (Provider.oracle.emulator c.config).handle now r = Oracle.getInstance c.config _ :=
    hr.handle c.config now
  have hx' : (r.call params now).params.get? "instanceId" = some x := hx
  refine Provider.isSuccess_iff ?_
  rw [hh]
  by_cases hm : ∃ compartment, ∃ i ∈ c.state.instances.list (.oracle compartment), i.id = x
  · obtain ⟨compartment, i, hi, rfl⟩ := hm
    rw [(Oracle.made_shape (hs.made _ i hi)).1] at hx'
    obtain ⟨details, answer, s', ha, hsuccess, -⟩ := Oracle.getInstance_of_mem hs hx' hi
    exact .inl ⟨answer, s', ha, hsuccess, compartment, i, hi, rfl⟩
  · have hn : ¬ ∃ compartment, ∃ i ∈ c.state.instances.list (.oracle compartment),
        i.identity = x := by
      rintro ⟨compartment, i, hi, rfl⟩
      exact hm ⟨compartment, i, hi, (Oracle.made_shape (hs.made _ i hi)).1⟩
    obtain ⟨f, hf⟩ := Oracle.getInstance_of_not_mem hs hx' hn
    exact .inr ⟨f, c.state, hf, hm⟩

theorem respond_getVnic_of_mem (hc : Consistent config c)
    (hr : Provider.oracle.Routed r .get "vnics" params) {compartment : String} {nic : Nic}
    (hx : params.get? "vnicId" = some nic.id)
    (hi : i ∈ c.state.instances.list (.oracle compartment)) (hn : nic ∈ i.nics) :
    (c.respond .oracle now r).1.isSuccess = true ∧
      ∃ body, (c.respond .oracle now r).1.body = some body ∧
        body.textMember? "compartmentId" = some compartment ∧
        body.textMember? "privateIp" = some nic.address.text := by
  obtain ⟨rfl, hs, -⟩ := hc
  have hh : (Provider.oracle.emulator c.config).handle now r = Oracle.getVnic _ :=
    hr.handle c.config now
  have hx' : (r.call params now).params.get? "vnicId" = some nic.id := hx
  obtain ⟨answer, s', ha, hsucc, hb⟩ := Oracle.getVnic_of_mem hs hx' hi hn
  rw [← hh] at ha
  have h₁ : (c.respond .oracle now r).1 = answer :=
    congrArg Prod.fst (Provider.respond_of_answered ha)
  rw [h₁]
  exact ⟨hsucc, _, hb, Oracle.members_of_vnic _⟩

theorem respond_getVnic (hc : Consistent config c)
    (hr : Provider.oracle.Routed r .get "vnics" params) (hx : params.get? "vnicId" = some x) :
    (c.respond .oracle now r).1.isSuccess = true ↔
      ∃ compartment, ∃ i ∈ c.state.instances.list (.oracle compartment), ∃ nic ∈ i.nics,
        nic.id = x := by
  obtain ⟨rfl, hs, -⟩ := hc
  have hh : (Provider.oracle.emulator c.config).handle now r = Oracle.getVnic _ :=
    hr.handle c.config now
  have hx' : (r.call params now).params.get? "vnicId" = some x := hx
  refine Provider.isSuccess_iff ?_
  rw [hh]
  by_cases hm : ∃ compartment, ∃ i ∈ c.state.instances.list (.oracle compartment),
      ∃ nic ∈ i.nics, nic.id = x
  · obtain ⟨compartment, i, hi, nic, hn, rfl⟩ := hm
    obtain ⟨answer, s', ha, hsuccess, -⟩ := Oracle.getVnic_of_mem hs hx' hi hn
    exact .inl ⟨answer, s', ha, hsuccess, compartment, i, hi, nic, hn, rfl⟩
  · obtain ⟨f, hf⟩ := Oracle.getVnic_of_not_mem hs hx' hm
    exact .inr ⟨f, c.state, hf, hm⟩

theorem respond_listAttachments (hc : Consistent config c)
    (hr : Provider.oracle.Routed r .list "vnicAttachments" params)
    (hsucc : (c.respond .oracle now r).1.isSuccess = true) :
    ∃ compartment entries, (r.call params now).query? "compartmentId" = some compartment ∧
      (c.respond .oracle now r).1.body = some (.array entries) ∧
      ∀ entry ∈ entries, ∃ i ∈ c.state.instances.list (.oracle compartment), ∃ nic ∈ i.nics,
        entry.textMember? "instanceId" = some i.id ∧ entry.textMember? "vnicId" = some nic.id := by
  obtain ⟨rfl, hs, -⟩ := hc
  have hh : (Provider.oracle.emulator c.config).handle now r = Oracle.listAttachments _ :=
    hr.handle c.config now
  have hok := Provider.respond_of_success hsucc
  rw [hh] at hok
  obtain ⟨compartment, entries, hq, hb, he⟩ := Oracle.listAttachments_of_ok hok
  refine ⟨compartment, entries, hq, hb, ?_⟩
  intro entry hentry
  obtain ⟨i, hi, nic, hn, a, ha, rfl⟩ := he entry hentry
  obtain ⟨hv, hid⟩ := Oracle.members_of_attachment ha
  exact ⟨i, hi, nic, hn, hid, hv⟩

/-- An attachment names an interface, and looking that up tells its compartment and its address. -/
def Follows (c : Cloud) (compartment : String) (nic : Nic) (attachment : Json) : Prop :=
  attachment.textMember? "vnicId" = some nic.id ∧
    ∀ now r params, Provider.oracle.Routed r .get "vnics" params →
      params.get? "vnicId" = some nic.id →
      (c.respond .oracle now r).1.isSuccess = true ∧
        ∃ body, (c.respond .oracle now r).1.body = some body ∧
          body.textMember? "compartmentId" = some compartment ∧
          body.textMember? "privateIp" = some nic.address.text

/-- Attachments can be followed whatever happened since they were listed. -/
theorem respond_listAttachments_follows (hc : Consistent config c)
    (hr : Provider.oracle.Routed r .list "vnicAttachments" params)
    (hsucc : (c.respond .oracle now r).1.isSuccess = true)
    (ops : List (Timestamp × Operation)) :
    ∃ compartment entries, (r.call params now).query? "compartmentId" = some compartment ∧
      (c.respond .oracle now r).1.body = some (.array entries) ∧
      ∀ entry ∈ entries, ∃ i ∈ c.state.instances.list (.oracle compartment), ∃ nic ∈ i.nics,
        entry.textMember? "instanceId" = some i.id ∧
          ((c.respond .oracle now r).2.after ops).Follows compartment nic entry := by
  obtain ⟨compartment, entries, hq, hb, he⟩ := respond_listAttachments hc hr hsucc
  refine ⟨compartment, entries, hq, hb, ?_⟩
  intro entry hentry
  obtain ⟨i, hi, nic, hn, hid, hv⟩ := he entry hentry
  refine ⟨i, hi, nic, hn, hid, hv, ?_⟩
  intro later r' params' hr' hx
  have k := hc.step_perform now (.request .oracle r)
  have hc' := (hc.step k).after ops
  exact respond_getVnic_of_mem hc' hr' hx ((hc.step k).mem_after (k.mem hi) ops) hn

end Cloud

/-- The identifiers of Oracle instances and of their interfaces. -/
def CloudState.ocids (s : CloudState) : List String :=
  s.instances.entries.flatMap fun e =>
    match e.1 with
    | .oracle _ => e.2.id :: e.2.nics.map Nic.id
    | _ => []

theorem CloudState.Sound.identities_eq_ocids {c : Configuration} {s : CloudState}
    (h : s.Sound c) : (s.locators.list Oracle.tenancy).map Locator.identity = s.ocids := by
  rw [Oracle.list_locators h, List.map_flatMap, ocids]
  refine List.flatMap_congr ?_
  rintro ⟨scope, i⟩ hm
  cases scope with
  | oracle compartment =>
    have hid := (Oracle.made_shape (h.made _ i (Store.mem_list.mpr hm))).1
    simp [Scope.located, hid]
  | _ => rfl

namespace Cloud

variable {config : Configuration} {c : Cloud}

/-- An identifier is not that of an instance and of an interface at once. -/
theorem Consistent.id_ne (hc : Consistent config c) {compartment compartment' : String}
    {i i' : Instance} {nic : Nic} (hi : i ∈ c.state.instances.list (.oracle compartment))
    (hi' : i' ∈ c.state.instances.list (.oracle compartment')) (hn : nic ∈ i'.nics) :
    i.id ≠ nic.id := by
  intro he
  have hs := hc.sound
  have hid := (Oracle.made_shape (hs.made _ i hi)).1
  have hl := (Oracle.mem_locators hs).mpr ⟨compartment, i, hi, .inl rfl⟩
  have hl' := (Oracle.mem_locators hs).mpr ⟨compartment', i', hi', .inr ⟨nic, hn, rfl⟩⟩
  have hsame := List.inj_on_of_nodup_map hs.identified hl hl' (hid.symm.trans he)
  have howner := congrArg Locator.owner hsame
  cases howner

/-- The locators of the tenancy and the stored instances describe each other. -/
theorem locators_lead_to_instances (h : Reachable config c) :
    (∀ compartment, ∀ i ∈ c.state.instances.list (.oracle compartment),
      ⟨i.id, .oracle compartment, none⟩ ∈ c.state.locators.list Oracle.tenancy ∧
        ∀ nic ∈ i.nics,
          ⟨nic.id, .oracle compartment, some i.id⟩ ∈ c.state.locators.list Oracle.tenancy) ∧
    (∀ l ∈ c.state.locators.list Oracle.tenancy,
      ∃ compartment, ∃ i ∈ c.state.instances.list (.oracle compartment),
        l = ⟨i.id, .oracle compartment, none⟩ ∨
          ∃ nic ∈ i.nics, l = ⟨nic.id, .oracle compartment, some i.id⟩) ∧
    ((c.state.locators.list Oracle.tenancy).map Locator.identity = c.state.ocids ∧
      c.state.ocids.Nodup) ∧
    (∀ now r params x, Provider.oracle.Routed r .get "instances" params →
      params.get? "instanceId" = some x →
      ((c.respond .oracle now r).1.isSuccess = true ↔
        ∃ compartment, ∃ i ∈ c.state.instances.list (.oracle compartment), i.id = x) ∧
      ((∃ compartment, ∃ i ∈ c.state.instances.list (.oracle compartment), ∃ nic ∈ i.nics,
        nic.id = x) → (c.respond .oracle now r).1.isSuccess = false)) ∧
    (∀ now r params x, Provider.oracle.Routed r .get "vnics" params →
      params.get? "vnicId" = some x →
      ((c.respond .oracle now r).1.isSuccess = true ↔
        ∃ compartment, ∃ i ∈ c.state.instances.list (.oracle compartment), ∃ nic ∈ i.nics,
          nic.id = x)) ∧
    ∀ now r params ops, Provider.oracle.Routed r .list "vnicAttachments" params →
      (c.respond .oracle now r).1.isSuccess = true →
      ∃ compartment entries, (r.call params now).query? "compartmentId" = some compartment ∧
        (c.respond .oracle now r).1.body = some (.array entries) ∧
        ∀ entry ∈ entries, ∃ i ∈ c.state.instances.list (.oracle compartment), ∃ nic ∈ i.nics,
          entry.textMember? "instanceId" = some i.id ∧
            ((c.respond .oracle now r).2.after ops).Follows compartment nic entry := by
  have hc := h.consistent
  have hs := hc.sound
  have hid : ∀ {compartment i}, i ∈ c.state.instances.list (.oracle compartment) →
    i.id = i.identity := fun hi => (Oracle.made_shape (hs.made _ _ hi)).1
  refine ⟨?_, ?_, ⟨hs.identities_eq_ocids, hs.identities_eq_ocids ▸ hs.identified⟩, ?_, ?_, ?_⟩
  · intro compartment i hi
    rw [hid hi]
    refine ⟨(Oracle.mem_locators hs).mpr ⟨compartment, i, hi, .inl rfl⟩, ?_⟩
    intro nic hn
    exact (Oracle.mem_locators hs).mpr ⟨compartment, i, hi, .inr ⟨nic, hn, rfl⟩⟩
  · intro l hl
    obtain ⟨compartment, i, hi, hor⟩ := (Oracle.mem_locators hs).mp hl
    refine ⟨compartment, i, hi, ?_⟩
    rw [hid hi]
    exact hor
  · intro now r params x hr hx
    have hiff : (c.respond .oracle now r).1.isSuccess = true ↔ _ := respond_getInstance hc hr hx
    refine ⟨hiff, ?_⟩
    rintro ⟨compartment', i', hi', nic, hn, rfl⟩
    by_contra hsucc
    obtain ⟨compartment, i, hi, he⟩ := hiff.mp (by simpa using hsucc)
    exact hc.id_ne hi hi' hn he
  · intro now r params x hr hx
    exact respond_getVnic hc hr hx
  · intro now r params ops hr hsucc
    exact respond_listAttachments_follows hc hr hsucc ops

/-- Two launches in compartments of their own. -/
theorem ocids_of_two_launches :
    let c := initial.after [
      (⟨0, 0⟩, .launch (.object [("compartmentId", .string "red")])),
      (⟨1, 0⟩, .launch (.object [("compartmentId", .string "blue")]))]
    (c.state.locators.list Oracle.tenancy).map Locator.identity = c.state.ocids ∧
      c.state.ocids.Nodup :=
  (locators_lead_to_instances (reachable_initial _)).2.2.1

end Cloud

end CloudEmulation
