import CloudEmulation.Proofs.Cloud.Handling
import CloudEmulation.Proofs.Cloud.State
/-!
What Google's handlers do to the state of a cloud. Where the interfaces of an instance cannot all get
an address, those that got one lose it again.
-/

namespace CloudEmulation.Google

variable {c : Configuration} {s : CloudState} {now : Timestamp} {project zone : String} {body : Json}
  {d : Draft} {call : Call} {f : Fault}

theorem requestedAddresses_ne_nil {request : Json.Members} {as : List (Option Address)}
    (h : requestedAddresses request = .ok as) : as ≠ [] := by
  unfold requestedAddresses at h
  cases hm : (listed request).mapM requestedAddress with
  | error f => simp [hm, bind, Except.bind] at h
  | ok found =>
    simp only [hm, bind, Except.bind, pure, Except.pure, Except.ok.injEq] at h
    rw [← h]
    cases found <;> simp

theorem Connected.ne_nil {index : Nat} {requests : List (Option Address)} {nics : List Nic}
    (h : Connected index requests nics) (hr : requests ≠ []) : nics ≠ [] := by
  cases h with
  | nil => exact absurd rfl hr
  | cons => exact List.cons_ne_nil _ _

theorem connect_of_refused {index : Nat} {request : Option Address} {f : Fault} {s' : CloudState}
    (h : s.assign request = (.error f, s')) (rest : List (Option Address)) :
    connect s index (request :: rest) = (.error f, s') := by
  rw [connect, h]

theorem connect_of_connected {index : Nat} {request : Option Address} {a : Address} {id : String}
    {rest : List (Option Address)} {nics : List Nic} {s₁ s₂ s₃ : CloudState}
    (h₁ : s.assign request = (.ok a, s₁)) (h₂ : s₁.draw (·.digits 19) = (id, s₂))
    (h₃ : connect s₂ (index + 1) rest = (.ok nics, s₃)) :
    connect s index (request :: rest) =
      (.ok (⟨id, none, "nic" ++ toString index, a⟩ :: nics), s₃) := by
  rw [connect, h₁]
  simp only [h₂, h₃]

theorem connect_of_disconnected {index : Nat} {request : Option Address} {a : Address}
    {id : String} {rest : List (Option Address)} {f : Fault} {s₁ s₂ s₃ : CloudState}
    (h₁ : s.assign request = (.ok a, s₁)) (h₂ : s₁.draw (·.digits 19) = (id, s₂))
    (h₃ : connect s₂ (index + 1) rest = (.error f, s₃)) :
    connect s index (request :: rest) = (.error f, s₃.release a) := by
  rw [connect, h₁]
  simp only [h₂, h₃]

theorem connect_cases (hp : s.pool.Valid) (index : Nat) (requests : List (Option Address)) :
    (∃ nics s', connect s index requests = (.ok nics, s') ∧ Connected index requests nics ∧
      s.Takes (nics.map Nic.address) s') ∨
    (∃ f s', connect s index requests = (.error f, s') ∧ s.Kept s' ∧ f.status ≠ 409) := by
  induction requests generalizing s index with
  | nil => exact .inl ⟨[], s, rfl, .nil, .refl hp⟩
  | cons request rest ih =>
    rcases CloudState.assign_cases hp request with ⟨a, s₁, h₁, t₁, ha⟩ | ⟨f, s₁, h₁, k₁, hf⟩
    · obtain ⟨id, s₂, hs, t₂⟩ := t₁.draw (·.digits 19)
      rcases ih t₂.pool.valid (index + 1) with ⟨nics, s₃, h₃, hc, t₃⟩ | ⟨f, s₃, h₃, k₃, hf⟩
      · refine .inl ⟨⟨id, none, "nic" ++ toString index, a⟩ :: nics, s₃, ?_, .cons ha rfl rfl hc,
          t₂.trans t₃⟩
        exact connect_of_connected h₁ hs h₃
      · refine .inr ⟨f, s₃.release a, ?_, ?_, hf⟩
        · exact connect_of_disconnected h₁ hs h₃
        · exact (t₂.trans k₃).release
    · exact .inr ⟨f, s₁, connect_of_refused h₁ rest, k₁, hf⟩

/-- What creating an instance can do; it is a conflict exactly where the name is taken. -/
theorem Draft.create_cases (hp : s.pool.Valid) (hd : Draft.ofBody c now project zone body = .ok d) :
    (∃ id nics s', d.create s = (.ok (d.record id nics), s') ∧
      s.Added c d.scope (d.record id nics) s') ∨
    (∃ f s', d.create s = (.error f, s') ∧ s.Kept s' ∧
      (f.status = 409 ↔ s.instances.has d.scope d.request.name = true)) := by
  cases hh : s.instances.has d.scope d.request.name with
  | true =>
    refine .inr ⟨.duplicateIdentity d.request.name d.scope, s, ?_, .refl hp, by simp [Fault.status]⟩
    simp only [create, CloudState.vacant_of_has hh]
  | false =>
    have hv := CloudState.vacant_of_not_has hh
    rcases connect_cases hp 0 d.addresses with ⟨nics, s₁, h₁, hc, t₁⟩ | ⟨f, s₁, h₁, k₁, hf⟩
    · obtain ⟨id, s₂, h₂, t₂⟩ := t₁.draw (·.digits 19)
      refine .inl ⟨id, nics, s₂.addInstance d.scope (d.record id nics), ?_, ?_⟩
      · simp only [create, hv, h₁, h₂]
      · exact {
          made := .google hd hc
          instances := by simp only [CloudState.addInstance, t₂.instances]
          locators := by simp [CloudState.addInstance, t₂.locators, scope, Scope.located]
          pool := t₂.pool
          vacant := hh
          unlocated := by simp [scope, Scope.located]
          distinct := by simp [scope, Scope.located] }
    · exact .inr ⟨f, s₁, by simp only [create, hv, h₁], k₁, by simpa using hf⟩

/-! Handlers. -/

/-- What a call to create an instance asks for. -/
def draft (c : Configuration) (call : Call) : Except Fault Draft := do
  let project ← call.param "project"
  let zone ← call.param "zone"
  match call.body with
  | none => .error (.invalidArgument (.required "instance body"))
  | some body => Draft.ofBody c call.now project zone body

theorem requestedAddress_ofArguments (entry : Json) : OfArguments (requestedAddress entry) := by
  unfold requestedAddress
  split
  · exact .ok _
  · split
    · exact .ok _
    · exact .invalid _

theorem ofBody_ofArguments (c : Configuration) (now : Timestamp) (project zone : String)
    (body : Json) : OfArguments (Draft.ofBody c now project zone body) := by
  unfold Draft.ofBody
  split
  · exact .invalid _
  · split
    · exact .invalid _
    · refine .bind (.bind (.mapM requestedAddress_ofArguments _) fun as => .ok _) fun as => .ok _

theorem draft_eq_ok : draft c call = .ok d ↔ ∃ project zone body,
    call.params.get? "project" = some project ∧ call.params.get? "zone" = some zone ∧
      call.body = some body ∧ Draft.ofBody c call.now project zone body = .ok d := by
  unfold draft Call.param
  cases call.params.get? "project" with
  | none => simp [Call.refusal, bind, Except.bind]
  | some project =>
    cases call.params.get? "zone" with
    | none => simp [Call.refusal, bind, Except.bind]
    | some zone => cases call.body <;> simp [bind, Except.bind]

theorem insert_cases (hp : s.pool.Valid) (c : Configuration) (now : Timestamp)
    (project zone : String) (body : Json) :
    (∃ d id nics s', Draft.ofBody c now project zone body = .ok d ∧
      (insert c now project zone body).exec s = (.ok (describe project (d.record id nics)), s') ∧
      s.Added c d.scope (d.record id nics) s') ∨
    (∃ f s', (insert c now project zone body).exec s = (.error f, s') ∧ s.Kept s' ∧
      (f.status = 409 ↔ ∃ d, Draft.ofBody c now project zone body = .ok d ∧
        s.instances.has d.scope d.request.name = true)) := by
  unfold insert
  cases hd : Draft.ofBody c now project zone body with
  | error f =>
    refine .inr ⟨f, s, Handler.exec_bind_error _ rfl, .refl hp, ?_⟩
    simp [ofBody_ofArguments _ _ _ _ _ f hd]
  | ok d =>
    rcases d.create_cases hp hd with ⟨id, nics, s', hs, ha⟩ | ⟨f, s', hs, hk, hf⟩
    · refine .inl ⟨d, id, nics, s', rfl, ?_, ha⟩
      rw [Handler.exec_bind_liftExcept_ok, Handler.exec_bind_atomically_ok _ hs]
      rfl
    · refine .inr ⟨f, s', ?_, hk, by simpa using hf⟩
      rw [Handler.exec_bind_liftExcept_ok, Handler.exec_bind_atomically_error _ hs]

theorem kept_operationNames (hp : s.pool.Valid) : s.Kept (operationNames s).2 := by
  obtain ⟨id, s₁, h₁, k₁⟩ := (CloudState.Takes.refl hp).draw (·.digits 19)
  obtain ⟨name, s₂, h₂, k₂⟩ := k₁.draw Generator.uuid
  rw [operationNames, h₁]
  simp only [h₂]
  exact k₂

theorem create_cases (hp : s.pool.Valid) (c : Configuration) (call : Call) :
    (∃ d id nics r s', draft c call = .ok d ∧
      (create c "instances" call).exec s = (.ok r, s') ∧ r.isSuccess = true ∧
      s.Added c d.scope (d.record id nics) s') ∨
    (∃ f s', (create c "instances" call).exec s = (.error f, s') ∧ s.Kept s' ∧
      (f.status = 409 ↔ ∃ d, draft c call = .ok d ∧
        s.instances.has d.scope d.request.name = true)) := by
  unfold draft create
  cases hproject : call.param "project" with
  | error f =>
    refine .inr ⟨f, s, rfl, .refl hp, ?_⟩
    simp [bind, Except.bind, OfArguments.param call _ f hproject]
  | ok project =>
    cases hzone : call.param "zone" with
    | error f =>
      refine .inr ⟨f, s, rfl, .refl hp, ?_⟩
      simp [bind, Except.bind, OfArguments.param call _ f hzone]
    | ok zone =>
      cases call.body with
      | none =>
        exact .inr ⟨.invalidArgument (.required "instance body"), s, rfl, .refl hp,
          by simp [bind, Except.bind, Fault.status]⟩
      | some body =>
        simp only [ne_eq, not_true_eq_false, if_false, Handler.exec_bind_liftExcept_ok]
        rcases insert_cases hp c call.now project zone body with
          ⟨d, id, nics, s₁, hd, h₁, ha⟩ | ⟨f, s', hs, hk, hf⟩
        · have hr := Handler.exec_lift (Program.step operationNames) s₁
          rw [Program.run_step] at hr
          refine .inl ⟨d, id, nics, .json 200 ((operationFor call.now project zone
            (describe project (d.record id nics)) (operationNames s₁).1.1
            (operationNames s₁).1.2).encode .ofFields), (operationNames s₁).2, hd, ?_, rfl,
            ha.before (kept_operationNames ha.pool.valid)⟩
          rw [Handler.exec_bind_ok _ h₁, Handler.exec_bind_ok _ hr, Handler.exec_pure]
        · exact .inr ⟨f, s', Handler.exec_bind_error _ hs, hk, hf⟩

theorem list_keeps (resource : String) (call : Call) : (list resource call).Keeps := by
  refine .bind (.liftExcept _) fun project => .bind (.liftExcept _) fun zone => ?_
  split
  · exact .bind (.look _) fun instances => .liftExcept _
  · exact .liftExcept _
  · exact .throw _

theorem get_keeps (resource : String) (call : Call) : (get resource call).Keeps := by
  refine .bind (.liftExcept _) fun project => .bind (.liftExcept _) fun zone => ?_
  split
  · exact .bind (.liftExcept _) fun name => .bind (.lookup _) fun i => .pure _
  · refine .bind (.liftExcept _) fun name => ?_
    split
    · exact .throw _
    · exact .pure _
  · exact .throw _

theorem get_cases {project zone name : String} (call : Call) (s : CloudState)
    (hproject : call.params.get? "project" = some project)
    (hzone : call.params.get? "zone" = some zone)
    (hname : call.params.get? "instance" = some name) :
    (∃ i ∈ s.instances.list (.google project zone),
      s.instances.get (.google project zone) name = .ok i ∧
      (get "instances" call).exec s = (.ok (.json 200 (view project i)), s)) ∨
    (∃ f, s.instances.has (.google project zone) name = false ∧
      (get "instances" call).exec s = (.error f, s)) := by
  unfold get
  rw [Call.param_eq_ok.mpr hproject, Call.param_eq_ok.mpr hzone, Handler.exec_bind_liftExcept_ok,
    Handler.exec_bind_liftExcept_ok]
  simp only [Call.param_eq_ok.mpr hname, Handler.exec_bind_liftExcept_ok]
  rcases Handler.lookup_cases s (.google project zone) name with ⟨i, hi, hg, hx⟩ | ⟨f, hf, hx⟩
  · refine .inl ⟨i, hi, hg, ?_⟩
    rw [Handler.exec_bind_ok _ hx, Handler.exec_pure]
  · exact .inr ⟨f, hf, Handler.exec_bind_error _ hx⟩

end CloudEmulation.Google
