import CloudEmulation.Proofs.Cloud.Handling
import CloudEmulation.Proofs.Cloud.State
/-!
What Oracle's handlers do to the state of a cloud. Once an address is taken a launch cannot fail: an
identifier without a locator belongs to no instance.
-/

namespace CloudEmulation

theorem CloudState.Sound.has_eq_false {c : Configuration} {s : CloudState} {id : String}
    (h : s.Sound c) (hl : s.locators.has Oracle.tenancy id = false) (compartment : String) :
    s.instances.has (.oracle compartment) id = false := by
  rw [Store.has_eq_false_iff] at hl ⊢
  intro hm
  obtain ⟨i, hi, rfl⟩ := List.mem_map.mp hm
  have he := Store.mem_list.mp hi
  apply hl
  refine List.mem_map.mpr ⟨⟨i.identity, .oracle compartment, none⟩, ?_, rfl⟩
  rw [Store.mem_list, h.located, List.mem_flatMap]
  exact ⟨_, he, by simp [Scope.located]⟩

namespace Oracle

variable {c : Configuration} {s s' : CloudState} {now : Timestamp} {body : Json} {d : Draft}
  {as : List Address}

theorem Draft.ocid_cases (h : s.Takes as s') (d : Draft) (kind : String) :
    ∃ letters s'', d.ocid kind s' =
      ("ocid1." ++ kind ++ ".oc1." ++ d.region ++ "." ++ letters, s'') ∧ s.Takes as s'' := by
  obtain ⟨letters, s'', hs, ht⟩ := h.draw (·.lowercase 10)
  refine ⟨letters, s'', ?_, ht⟩
  rw [ocid, hs]

/-- Identifiers of instances and of interfaces differ. -/
theorem ocid_ne (r r' l l' : String) :
    "ocid1." ++ "instance" ++ ".oc1." ++ r ++ "." ++ l ≠
      "ocid1." ++ "vnic" ++ ".oc1." ++ r' ++ "." ++ l' := by
  intro h
  have hc := congrArg (fun t => t.toList[6]?) h
  simp at hc

theorem Draft.locate_of_unlocated {l : Locator} (h : s.locators.has tenancy l.identity = false) :
    locate s l = (.ok (), { s with locators := s.locators.append tenancy l }) := by
  rw [locate, Store.create_of_vacant h]

theorem Draft.scope_located (d : Draft) (id vnic attachment : String) (a : Address) :
    d.scope.located (d.record id vnic attachment a) =
      [⟨id, d.scope, none⟩, ⟨vnic, d.scope, some id⟩] := rfl

theorem Draft.place_of_allocated (h : s.Sound c) (hd : Draft.ofBody c now body = .ok d)
    {id vnic : String} (hne : id ≠ vnic) (hi : s.locators.has tenancy id = false)
    (hv : s.locators.has tenancy vnic = false) (attachment : String) {a : Address}
    (h₁ : s.allocate = (.ok a, s')) (t₁ : s.Takes [a] s') :
    ∃ s'', d.place id vnic attachment s = (.ok (d.record id vnic attachment a), s'') ∧
      s.Added c d.scope (d.record id vnic attachment a) s'' := by
  have hl : s'.locators.has tenancy id = false := by rw [t₁.locators, hi]
  -- The two identifiers differ, so locating the instance does not take that of its interface.
  have hl' : (s'.locators.append tenancy ⟨id, d.scope, none⟩).has tenancy vnic = false := by
    rw [Store.has_eq_false_iff, Store.list_append, if_pos rfl, List.map_append, List.mem_append,
      t₁.locators]
    rintro (hm | hm)
    · exact Store.has_eq_false_iff.mp hv hm
    · exact hne (List.mem_singleton.mp hm).symm
  have hs : s'.instances.has d.scope id = false := by
    rw [t₁.instances]
    exact h.has_eq_false hi _
  let located := (s'.locators.append tenancy ⟨id, d.scope, none⟩).append tenancy
    ⟨vnic, d.scope, some id⟩
  refine ⟨{ s' with locators := located }.addInstance d.scope (d.record id vnic attachment a), ?_, ?_⟩
  · simp only [place, h₁]
    rw [locate_of_unlocated hl]
    simp only
    rw [locate_of_unlocated hl']
    simp only [CloudState.vacant, hs]
    rfl
  · exact {
      made := .oracle hd
      instances := by simp only [CloudState.addInstance, t₁.instances]
      locators := by
        simp [located, CloudState.addInstance, Store.append, t₁.locators, scope_located]
      pool := t₁.pool
      vacant := t₁.instances ▸ hs
      unlocated := by
        rw [scope_located]
        intro l hl
        rcases List.mem_pair.mp hl with rfl | rfl
        · exact hi
        · exact hv
      distinct := by simpa [scope_located] using hne }

theorem Draft.place_cases (h : s.Sound c) (hd : Draft.ofBody c now body = .ok d)
    {id vnic : String} (hne : id ≠ vnic) (hi : s.locators.has tenancy id = false)
    (hv : s.locators.has tenancy vnic = false) (attachment : String) :
    (∃ a s', d.place id vnic attachment s = (.ok (d.record id vnic attachment a), s') ∧
      s.Added c d.scope (d.record id vnic attachment a) s') ∨
    (∃ s', d.place id vnic attachment s = (.error (.exhausted s.pool.cidr), s') ∧ s.Kept s') := by
  rcases CloudState.allocate_cases h.pool with ⟨a, s₁, h₁, t₁⟩ | ⟨s₁, h₁, k₁⟩
  · obtain ⟨s', hp, ha⟩ := place_of_allocated h hd hne hi hv attachment h₁ t₁
    exact .inl ⟨a, s', hp, ha⟩
  · exact .inr ⟨s₁, by simp only [place, h₁], k₁⟩

theorem Draft.launch_cases (h : s.Sound c) (hd : Draft.ofBody c now body = .ok d) :
    (∃ id vnic attachment a s', d.launch s = (.ok (d.record id vnic attachment a), s') ∧
      s.Added c d.scope (d.record id vnic attachment a) s') ∨
    (∃ f s', d.launch s = (.error f, s') ∧ s.Kept s') := by
  obtain ⟨l₁, s₁, h₁, k₁⟩ := ocid_cases (.refl h.pool) d "instance"
  obtain ⟨l₂, s₂, h₂, k₂⟩ := ocid_cases k₁ d "vnic"
  obtain ⟨l₃, s₃, h₃, k₃⟩ := ocid_cases k₂ d "vnicattachment"
  have hne := ocid_ne d.region d.region l₁ l₂
  generalize "ocid1." ++ "instance" ++ ".oc1." ++ d.region ++ "." ++ l₁ = id at h₁ hne
  generalize "ocid1." ++ "vnic" ++ ".oc1." ++ d.region ++ "." ++ l₂ = vnic at h₂ hne
  generalize "ocid1." ++ "vnicattachment" ++ ".oc1." ++ d.region ++ "." ++ l₃ = attachment at h₃
  simp only [launch, h₁, h₂, h₃]
  cases hi : s₃.locators.has tenancy id with
  | true => exact .inr ⟨.duplicateIdentity id tenancy, s₃, by simp, k₃⟩
  | false =>
    cases hv : s₃.locators.has tenancy vnic with
    | true => exact .inr ⟨.duplicateIdentity vnic tenancy, s₃, by simp, k₃⟩
    | false =>
      simp only [Bool.false_eq_true, if_false]
      rcases place_cases (h.kept k₃) hd hne hi hv attachment with ⟨a, s', hp, ha⟩ | ⟨s', hp, hk⟩
      · exact .inl ⟨id, vnic, attachment, a, s', hp, ha.after k₃⟩
      · exact .inr ⟨_, s', hp, k₃.trans hk⟩

/-- What a draft is made of. -/
theorem Draft.ofBody_eq_ok (h : ofBody c now body = .ok d) : ∃ request details,
    body = .object request ∧ LaunchDetails.decode (.object request) = .ok details ∧
      d = ⟨c.oracleRegion, details, request, c.initialStatus, now⟩ := by
  unfold ofBody at h
  split at h
  · cases h
  · rename_i details hdec
    split at h
    · cases h
    · split at h
      · rename_i request
        cases h
        exact ⟨request, details, rfl, hdec, rfl⟩
      · cases h

theorem Draft.describe_record (hd : Draft.ofBody c now body = .ok d) (i : Instance)
    (hi : i.metadata = d.request) : describe c i = .ok (assigned c i d.details) := by
  obtain ⟨request, details, -, hdec, rfl⟩ := ofBody_eq_ok hd
  simp only [describe, hi, hdec]

end Oracle

end CloudEmulation

/-! Handlers. -/

namespace CloudEmulation.Oracle

variable {c : Configuration} {s : CloudState}

theorem run_reply (status : Nat) (body : Json) (s : CloudState) :
    ∃ id s', (reply status body).run s =
      ((Http.Response.json status body).withHeader "opc-request-id" id, s') ∧
      (s.pool.Valid → s.Kept s') := by
  refine ⟨(s.draw Generator.plainUuid).1, (s.draw Generator.plainUuid).2, ?_, ?_⟩
  · rw [reply, Program.run_step]
  · exact fun hp => CloudState.kept_draw hp _

theorem exec_answer (body : Json) (s : CloudState) : ∃ id s', (answer body).exec s =
    (.ok ((Http.Response.json 200 body).withHeader "opc-request-id" id), s') := by
  obtain ⟨id, s', hr, -⟩ := run_reply 200 body s
  refine ⟨id, s', ?_⟩
  rw [answer, Handler.exec_lift, hr]

theorem answer_keeps (body : Json) : (answer body).Keeps := by
  intro s hp
  obtain ⟨id, s', hr, hk⟩ := run_reply 200 body s
  rw [answer, Handler.exec_lift, hr]
  exact hk hp

theorem launch_cases (h : s.Sound c) (now : Timestamp) (body : Json) :
    (∃ d id vnic attachment a s', Draft.ofBody c now body = .ok d ∧
      (launch c now body).exec s =
        (.ok (assigned c (d.record id vnic attachment a) d.details), s') ∧
      s.Added c d.scope (d.record id vnic attachment a) s') ∨
    (∃ f s', (launch c now body).exec s = (.error f, s') ∧ s.Kept s') := by
  unfold launch
  cases hd : Draft.ofBody c now body with
  | error f => exact .inr ⟨f, s, Handler.exec_bind_error _ rfl, .refl h.pool⟩
  | ok d =>
    rcases d.launch_cases h hd with ⟨id, vnic, attachment, a, s', hs, ha⟩ | ⟨f, s', hs, hk⟩
    · refine .inl ⟨d, id, vnic, attachment, a, s', rfl, ?_, ha⟩
      rw [Handler.exec_bind_liftExcept_ok, Handler.exec_bind_atomically_ok _ hs,
        d.describe_record hd _ rfl]
      rfl
    · refine .inr ⟨f, s', ?_, hk⟩
      rw [Handler.exec_bind_liftExcept_ok, Handler.exec_bind_atomically_error _ hs]

theorem create_cases (h : s.Sound c) (call : Call) :
    (∃ body d id vnic attachment a r s', call.body = some body ∧
      Draft.ofBody c call.now body = .ok d ∧
      (create c "instances" call).exec s = (.ok r, s') ∧ r.isSuccess = true ∧
      r.body = some ((assigned c (d.record id vnic attachment a) d.details).encode .ofFields) ∧
      s.Added c d.scope (d.record id vnic attachment a) s') ∨
    (∃ f s', (create c "instances" call).exec s = (.error f, s') ∧ s.Kept s') := by
  unfold create
  cases call.body with
  | none => exact .inr ⟨.invalidArgument .noLaunchDetails, s, rfl, .refl h.pool⟩
  | some body =>
    simp only [ne_eq, not_true_eq_false, if_false]
    rcases launch_cases h call.now body with
      ⟨d, id, vnic, attachment, a, s₁, hd, h₁, ha⟩ | ⟨f, s', hs, hk⟩
    · obtain ⟨text, s', hr, hk⟩ := run_reply 200
        ((assigned c (d.record id vnic attachment a) d.details).encode .ofFields) s₁
      refine .inl ⟨body, d, id, vnic, attachment, a, (Http.Response.json 200
        ((assigned c (d.record id vnic attachment a) d.details).encode .ofFields)).withHeader
        "opc-request-id" text, s', rfl, hd, ?_, rfl, rfl, ha.before (hk ha.pool.valid)⟩
      rw [Handler.exec_bind_ok _ h₁, answer, Handler.exec_lift, hr]
    · exact .inr ⟨f, s', Handler.exec_bind_error _ hs, hk⟩

theorem replyPage_keeps (call : Call) (items : List Json) : (replyPage call items).Keeps :=
  .bind (.liftExcept _) fun _ => .bind (.liftExcept _) fun _ => .bind (answer_keeps _) fun _ => .pure _

theorem list_keeps (c : Configuration) (resource : String) (call : Call) :
    (list c resource call).Keeps := by
  unfold list
  split
  · exact .bind (.liftExcept _) fun _ => .bind (.look _) fun _ => .bind (.liftExcept _) fun _ =>
      replyPage_keeps _ _
  · exact .bind (.liftExcept _) fun _ => .bind (.look _) fun _ => replyPage_keeps _ _
  · exact .bind (.liftExcept _) fun _ => replyPage_keeps _ _
  · exact .throw _

theorem get_keeps (c : Configuration) (resource : String) (call : Call) :
    (get c resource call).Keeps := by
  unfold get
  split
  · exact .bind (.liftExcept _) fun _ => .bind (.lookup _) fun _ => .bind (.lookup _) fun _ =>
      .bind (.liftExcept _) fun _ => answer_keeps _
  · refine .bind (.liftExcept _) fun id => .bind (.lookup _) fun locator => ?_
    split
    · exact .throw _
    · refine .bind (.lookup _) fun i => ?_
      split
      · exact .throw _
      · exact answer_keeps _
  · exact .throw _

end CloudEmulation.Oracle
