import CloudEmulation.Proofs.Cloud.Runs
/-!
Locators of Oracle identifiers and the instances they lead to: each finds the other, so looking an
identifier up succeeds just for those of its own kind that belong to a launched instance.
-/

namespace CloudEmulation.Oracle

variable {c : Configuration} {s : CloudState} {compartment x : String} {i : Instance} {nic : Nic}
  {l : Locator} {call : Call}

/-- An instance is addressed by its identifier and has one interface. -/
theorem made_shape (h : c.Makes (.oracle compartment) i) :
    i.id = i.identity ∧ ∃ nic attachment, i.nics = [nic] ∧ nic.attachment = some attachment := by
  obtain ⟨now, body, d, id, vnic, attachment, a, -, -, rfl⟩ := h.oracle_draft
  exact ⟨rfl, _, attachment, rfl, rfl⟩

theorem described (h : c.Makes (.oracle compartment) i) :
    ∃ details, describe c i = .ok (assigned c i details) := by
  obtain ⟨now, body, d, id, vnic, attachment, a, hd, -, rfl⟩ := h.oracle_draft
  exact ⟨d.details, d.describe_record hd _ rfl⟩

theorem mem_locators (h : s.Sound c) : l ∈ s.locators.list tenancy ↔
    ∃ compartment, ∃ i ∈ s.instances.list (.oracle compartment),
      l = ⟨i.identity, .oracle compartment, none⟩ ∨
        ∃ nic ∈ i.nics, l = ⟨nic.id, .oracle compartment, some i.identity⟩ := by
  rw [Store.mem_list, h.located, List.mem_flatMap]
  constructor
  · rintro ⟨⟨scope, i⟩, hm, hl⟩
    obtain ⟨l', hl', he⟩ := List.mem_map.mp hl
    cases he
    cases scope with
    | oracle compartment =>
      refine ⟨compartment, i, Store.mem_list.mpr hm, ?_⟩
      rcases List.mem_cons.mp hl' with rfl | hl'
      · exact .inl rfl
      · obtain ⟨nic, hn, rfl⟩ := List.mem_map.mp hl'
        exact .inr ⟨nic, hn, rfl⟩
    | _ => cases hl'
  · rintro ⟨compartment, i, hi, hl⟩
    refine ⟨_, Store.mem_list.mp hi, List.mem_map.mpr ⟨l, ?_, rfl⟩⟩
    rcases hl with rfl | ⟨nic, hn, rfl⟩
    · exact List.mem_cons_self
    · exact List.mem_cons_of_mem _ (List.mem_map.mpr ⟨nic, hn, rfl⟩)

theorem list_locators (h : s.Sound c) : s.locators.list tenancy =
    s.instances.entries.flatMap fun e => e.1.located e.2 := by
  rw [Store.list, h.located, List.filterMap_flatMap]
  congr 1
  funext e
  simp [List.filterMap_map, tenancy]

/-- Identifiers of instances and of their interfaces lead to the instance that has them. -/
theorem get_locator (h : s.Sound c) (hl : l ∈ s.locators.list tenancy) :
    s.locators.get tenancy l.identity = .ok l :=
  (Store.get_eq_ok_iff h.identified).mpr ⟨hl, rfl⟩

theorem get_instance (h : s.Sound c) (hi : i ∈ s.instances.list (.oracle compartment)) :
    s.instances.get (.oracle compartment) i.identity = .ok i :=
  (Store.get_eq_ok_iff (h.named _)).mpr ⟨hi, rfl⟩

theorem describeVnic_of_single (hn : i.nics = [nic]) :
    describeVnic (.oracle compartment) i nic.id = some ⟨nic.id, compartment, i.placement, i.name,
      nic.address.text, true, "AVAILABLE", i.createdAt⟩ := by
  simp [describeVnic, hn, Scope.get?, Scope.keys]

theorem getInstance_of_mem (h : s.Sound c) (hx : call.params.get? "instanceId" = some i.identity)
    (hi : i ∈ s.instances.list (.oracle compartment)) : ∃ details r s',
    (getInstance c call).exec s = (.ok r, s') ∧ r.isSuccess = true ∧
      r.body = some ((assigned c i details).encode .ofFields) := by
  obtain ⟨details, hd⟩ := described (h.made _ i hi)
  obtain ⟨id, s', hr⟩ := exec_answer ((assigned c i details).encode .ofFields) s
  refine ⟨details, (Http.Response.json 200 _).withHeader "opc-request-id" id, s', ?_, rfl, rfl⟩
  have hl := get_locator h ((mem_locators h).mpr ⟨compartment, i, hi, .inl rfl⟩)
  have hf : (find i.identity).exec s = (.ok ⟨i.identity, .oracle compartment, none⟩, s) :=
    congrArg (·, s) hl
  have hg : (Handler.lookup fun s => s.instances.get (.oracle compartment) i.identity).exec s =
      (.ok i, s) := congrArg (·, s) (get_instance h hi)
  unfold getInstance
  rw [Call.param_eq_ok.mpr hx, Handler.exec_bind_liftExcept_ok, Handler.exec_bind_ok _ hf,
    Handler.exec_bind_ok _ hg, hd, Handler.exec_bind_liftExcept_ok]
  exact hr

theorem getInstance_of_not_mem (h : s.Sound c) (hx : call.params.get? "instanceId" = some x)
    (hn : ¬ ∃ compartment, ∃ i ∈ s.instances.list (.oracle compartment), i.identity = x) :
    ∃ f, (getInstance c call).exec s = (.error f, s) := by
  unfold getInstance
  rw [Call.param_eq_ok.mpr hx, Handler.exec_bind_liftExcept_ok]
  cases hl : s.locators.get tenancy x with
  | error f => exact ⟨f, Handler.exec_bind_error _ (congrArg (·, s) hl)⟩
  | ok l =>
    have hf : (find x).exec s = (.ok l, s) := congrArg (·, s) hl
    rw [Handler.exec_bind_ok _ hf]
    obtain ⟨hm, rfl⟩ := (Store.get_eq_ok_iff h.identified).mp hl
    obtain ⟨compartment, i, hi, rfl | ⟨nic, hnic, rfl⟩⟩ := (mem_locators h).mp hm
    · exact absurd ⟨compartment, i, hi, rfl⟩ hn
    · cases hg : s.instances.get (.oracle compartment) nic.id with
      | error f => exact ⟨f, Handler.exec_bind_error _ (congrArg (·, s) hg)⟩
      | ok j =>
        obtain ⟨hj, hid⟩ := (Store.get_eq_ok_iff (h.named _)).mp hg
        exact absurd ⟨compartment, j, hj, hid⟩ hn

theorem getVnic_of_mem (h : s.Sound c) (hx : call.params.get? "vnicId" = some nic.id)
    (hi : i ∈ s.instances.list (.oracle compartment)) (hn : nic ∈ i.nics) : ∃ r s',
    (getVnic call).exec s = (.ok r, s') ∧ r.isSuccess = true ∧
      r.body = some ((Vnic.mk nic.id compartment i.placement i.name nic.address.text true
        "AVAILABLE" i.createdAt).encode .ofFields) := by
  obtain ⟨-, nic', -, hnics, -⟩ := made_shape (h.made _ i hi)
  rw [hnics] at hn
  rw [← List.mem_singleton.mp hn] at hnics
  obtain ⟨id, s', hr⟩ := exec_answer ((Vnic.mk nic.id compartment i.placement i.name
    nic.address.text true "AVAILABLE" i.createdAt).encode .ofFields) s
  refine ⟨(Http.Response.json 200 _).withHeader "opc-request-id" id, s', ?_, rfl, rfl⟩
  have hmem : nic ∈ i.nics := by simp [hnics]
  have hl := get_locator h ((mem_locators h).mpr ⟨compartment, i, hi, .inr ⟨nic, hmem, rfl⟩⟩)
  have hf : (find nic.id).exec s = (.ok ⟨nic.id, .oracle compartment, some i.identity⟩, s) :=
    congrArg (·, s) hl
  have hg : (Handler.lookup fun s => s.instances.get (.oracle compartment) i.identity).exec s =
      (.ok i, s) := congrArg (·, s) (get_instance h hi)
  unfold getVnic
  rw [Call.param_eq_ok.mpr hx, Handler.exec_bind_liftExcept_ok, Handler.exec_bind_ok _ hf]
  simp only
  rw [Handler.exec_bind_ok _ hg, describeVnic_of_single hnics]
  exact hr

theorem getVnic_of_not_mem (h : s.Sound c) (hx : call.params.get? "vnicId" = some x)
    (hn : ¬ ∃ compartment, ∃ i ∈ s.instances.list (.oracle compartment), ∃ nic ∈ i.nics,
      nic.id = x) : ∃ f, (getVnic call).exec s = (.error f, s) := by
  unfold getVnic
  rw [Call.param_eq_ok.mpr hx, Handler.exec_bind_liftExcept_ok]
  cases hl : s.locators.get tenancy x with
  | error f => exact ⟨f, Handler.exec_bind_error _ (congrArg (·, s) hl)⟩
  | ok l =>
    have hf : (find x).exec s = (.ok l, s) := congrArg (·, s) hl
    rw [Handler.exec_bind_ok _ hf]
    obtain ⟨hm, rfl⟩ := (Store.get_eq_ok_iff h.identified).mp hl
    obtain ⟨compartment, i, hi, rfl | ⟨nic, hnic, rfl⟩⟩ := (mem_locators h).mp hm
    · exact ⟨_, rfl⟩
    · exact absurd ⟨compartment, i, hi, nic, hnic, rfl⟩ hn

end CloudEmulation.Oracle
