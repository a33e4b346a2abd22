import CloudEmulation.Proofs.Cloud.Handling
import CloudEmulation.Proofs.Cloud.State
/-!
What Azure's handlers do to the state of a cloud. A machine is created with one interface.
-/

namespace CloudEmulation.Azure

variable {c : Configuration} {s : CloudState} {call : Call} {d : Draft} {now : Timestamp}
  {subscription group name : String} {body : Json}

/-- What creating a machine can do; it is a conflict exactly where the name is taken. -/
theorem Draft.create_cases (hp : s.pool.Valid)
    (hd : Draft.ofBody c now subscription group name body = .ok d) :
    (∃ id nic a s', d.create s = (.ok (d.record id nic a), s') ∧
      s.Added c d.scope (d.record id nic a) s') ∨
    (∃ f s', d.create s = (.error f, s') ∧ s.Kept s' ∧
      (f.status = 409 ↔ s.instances.has d.scope d.name = true)) := by
  cases hh : s.instances.has d.scope d.name with
  | true =>
    refine .inr ⟨.duplicateIdentity d.name d.scope, s, ?_, .refl hp, by simp [Fault.status]⟩
    simp only [create, CloudState.vacant_of_has hh]
  | false =>
    have hv := CloudState.vacant_of_not_has hh
    rcases CloudState.allocate_cases hp with ⟨a, s₁, h₁, t₁⟩ | ⟨s₁, h₁, k₁⟩
    · have t₂ := t₁.trans (CloudState.kept_draw t₁.pool.valid Generator.uuid)
      generalize hs : s₁.draw Generator.uuid = p at t₂
      have t₃ := t₂.trans (CloudState.kept_draw t₂.pool.valid Generator.uuid)
      generalize hs' : p.2.draw Generator.uuid = q at t₃
      refine .inl ⟨p.1, q.1, a, q.2.addInstance d.scope (d.record p.1 q.1 a),
        by simp only [create, hv, h₁, hs, hs'], ?_⟩
      exact {
        made := .azure hd
        instances := by simp only [CloudState.addInstance, t₃.instances]
        locators := by simp [CloudState.addInstance, t₃.locators, scope, Scope.located]
        pool := t₃.pool
        vacant := hh
        unlocated := by simp [scope, Scope.located]
        distinct := by simp [scope, Scope.located] }
    · refine .inr ⟨.exhausted s.pool.cidr, s₁, by simp only [create, hv, h₁], k₁, ?_⟩
      simp [Fault.exhausted, Fault.status]

/-! Handlers. -/

def draft (c : Configuration) (call : Call) : Except Fault Draft :=
  match call.body with
  | none => .error (.invalidArgument (.required "virtual machine body"))
  | some body => do
    let subscription ← call.param "subscriptionId"
    let group ← call.param "resourceGroupName"
    let name ← call.param "vmName"
    Draft.ofBody c call.now subscription group name body

theorem ofBody_ofArguments (c : Configuration) (now : Timestamp)
    (subscription group name : String) (body : Json) :
    OfArguments (Draft.ofBody c now subscription group name body) := by
  unfold Draft.ofBody
  split
  · exact .invalid _
  · split
    · exact .invalid _
    · split
      · exact .ok _
      · exact .invalid _

theorem describe_record (hd : Draft.ofBody c now subscription group name body = .ok d)
    (subscription' group' : String) {i : Instance} (hi : i.metadata = d.request) :
    ∃ m, VirtualMachine.decode (.object i.metadata) = .ok m ∧
      describe subscription' group' i = .ok (m.assigned subscription' group' i) := by
  unfold Draft.ofBody at hd
  split at hd
  · cases hd
  · rename_i m hm
    split at hd
    · cases hd
    · split at hd
      · cases hd
        refine ⟨m, by rw [hi, hm], ?_⟩
        rw [describe, hi]
        simp only [hm]
      · cases hd

theorem put_cases (hp : s.pool.Valid) (c : Configuration) (now : Timestamp)
    (subscription group name : String) (body : Json) :
    (∃ d id nic a m s', Draft.ofBody c now subscription group name body = .ok d ∧
      (put c now subscription group name body).exec s = (.ok m, s') ∧
      s.Added c d.scope (d.record id nic a) s') ∨
    (∃ f s', (put c now subscription group name body).exec s = (.error f, s') ∧ s.Kept s' ∧
      (f.status = 409 ↔ ∃ d, Draft.ofBody c now subscription group name body = .ok d ∧
        s.instances.has d.scope d.name = true)) := by
  unfold put
  cases hd : Draft.ofBody c now subscription group name body with
  | error f =>
    refine .inr ⟨f, s, Handler.exec_bind_error _ rfl, .refl hp, ?_⟩
    simp [ofBody_ofArguments _ _ _ _ _ _ f hd]
  | ok d =>
    rcases d.create_cases hp hd with ⟨id, nic, a, s', hs, ha⟩ | ⟨f, s', hs, hk, hf⟩
    · have hm : (d.record id nic a).metadata = d.request := rfl
      obtain ⟨m, -, hm⟩ := describe_record hd subscription group hm
      refine .inl ⟨d, id, nic, a, m.assigned subscription group (d.record id nic a), s', rfl, ?_, ha⟩
      rw [Handler.exec_bind_liftExcept_ok, Handler.exec_bind_atomically_ok _ hs, hm]
      rfl
    · refine .inr ⟨f, s', ?_, hk, by simpa using hf⟩
      rw [Handler.exec_bind_liftExcept_ok, Handler.exec_bind_atomically_error _ hs]

theorem create_cases (hp : s.pool.Valid) (c : Configuration) (call : Call) :
    (∃ d id nic a r s', draft c call = .ok d ∧
      (create c call).exec s = (.ok r, s') ∧ r.isSuccess = true ∧
      s.Added c d.scope (d.record id nic a) s') ∨
    (∃ f s', (create c call).exec s = (.error f, s') ∧ s.Kept s' ∧
      (f.status = 409 ↔ ∃ d, draft c call = .ok d ∧ s.instances.has d.scope d.name = true)) := by
  unfold draft create
  cases call.body with
  | none =>
    exact .inr ⟨.invalidArgument (.required "virtual machine body"), s, rfl, .refl hp,
      by simp [Fault.status]⟩
  | some body =>
    cases hsubscription : call.param "subscriptionId" with
    | error f =>
      refine .inr ⟨f, s, rfl, .refl hp, ?_⟩
      simp [bind, Except.bind, OfArguments.param call _ f hsubscription]
    | ok subscription =>
      cases hgroup : call.param "resourceGroupName" with
      | error f =>
        refine .inr ⟨f, s, rfl, .refl hp, ?_⟩
        simp [bind, Except.bind, OfArguments.param call _ f hgroup]
      | ok group =>
        cases hname : call.param "vmName" with
        | error f =>
          refine .inr ⟨f, s, rfl, .refl hp, ?_⟩
          simp [bind, Except.bind, OfArguments.param call _ f hname]
        | ok name =>
          simp only [Handler.exec_bind_liftExcept_ok]
          rcases put_cases hp c call.now subscription group name body with
            ⟨d, id, nic, a, m, s', hd, hs, ha⟩ | ⟨f, s', hs, hk, hf⟩
          · refine .inl ⟨d, id, nic, a, .json 201 (m.encode .ofFields), s', hd, ?_, rfl, ha⟩
            rw [Handler.exec_bind_ok _ hs, Handler.exec_pure]
          · exact .inr ⟨f, s', Handler.exec_bind_error _ hs, hk, hf⟩

theorem list_keeps (c : Configuration) (call : Call) : (list c call).Keeps :=
  .bind (.liftExcept _) fun _ => .bind (.liftExcept _) fun _ => .bind (.look _) fun _ => .liftExcept _

theorem get_keeps (call : Call) : (get call).Keeps :=
  .bind (.liftExcept _) fun _ => .bind (.liftExcept _) fun _ => .bind (.liftExcept _) fun _ =>
    .bind (.lookup _) fun _ => .bind (.liftExcept _) fun _ => .pure _

theorem get_cases (call : Call) (s : CloudState)
    (hsubscription : call.params.get? "subscriptionId" = some subscription)
    (hgroup : call.params.get? "resourceGroupName" = some group)
    (hname : call.params.get? "vmName" = some name) :
    (∃ i ∈ s.instances.list (.azure subscription group),
      s.instances.get (.azure subscription group) name = .ok i ∧
      (get call).exec s = ((describe subscription group i).map fun m =>
        .json 200 (m.encode .ofFields), s)) ∨
    (∃ f, s.instances.has (.azure subscription group) name = false ∧
      (get call).exec s = (.error f, s)) := by
  unfold get
  rw [Call.param_eq_ok.mpr hsubscription, Call.param_eq_ok.mpr hgroup, Call.param_eq_ok.mpr hname]
  simp only [Handler.exec_bind_liftExcept_ok]
  rcases Handler.lookup_cases s (.azure subscription group) name with
    ⟨i, hi, hg, hx⟩ | ⟨f, hf, hx⟩
  · refine .inl ⟨i, hi, hg, ?_⟩
    rw [Handler.exec_bind_ok _ hx]
    cases describe subscription group i <;> rfl
  · exact .inr ⟨f, hf, Handler.exec_bind_error _ hx⟩

theorem handler_of_versionless (c : Configuration) (verb : Verb) (h : hasVersion call = false) :
    handler c verb resource call = pure versionMissing := by
  simp [handler, h]

theorem handler_of_version (c : Configuration) (verb : Verb) (h : hasVersion call = true) :
    handler c verb resource call = match verb with
      | .create => create c call
      | .list => list c call
      | .get => get call := by
  unfold handler
  rw [if_neg (not_not.mpr rfl), h]
  rfl

theorem handler_keeps (c : Configuration) {verb : Verb} (hv : verb ≠ .create) (resource : String)
    (call : Call) : (handler c verb resource call).Keeps := by
  unfold handler
  split
  · exact .throw _
  · split
    · exact .pure _
    · cases verb with
      | create => exact absurd rfl hv
      | list => exact list_keeps c call
      | get => exact get_keeps call

end CloudEmulation.Azure
