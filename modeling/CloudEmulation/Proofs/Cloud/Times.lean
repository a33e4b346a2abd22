import CloudEmulation.Proofs.Cloud.Renderings
/-!
When instances were created: each at the moment of an operation that was performed.
-/

namespace CloudEmulation

variable {config : Configuration} {s s' : CloudState} {scope : Scope} {i : Instance}
  {now : Timestamp} {body : Json}

theorem Google.Draft.now_of_ofBody {project zone : String} {d : Draft}
    (h : ofBody config now project zone body = .ok d) : d.now = now := by
  unfold ofBody at h
  split at h
  · cases h
  · split at h
    · cases h
    · obtain ⟨addresses, -, h⟩ := Except.bind_eq_ok.mp h
      cases h
      rfl

theorem Azure.Draft.now_of_ofBody {subscription group name : String} {d : Draft}
    (h : ofBody config now subscription group name body = .ok d) : d.now = now := by
  unfold ofBody at h
  split at h
  · cases h
  · split at h
    · cases h
    · split at h
      · cases h
        rfl
      · cases h

theorem Oracle.Draft.now_of_ofBody {d : Draft} (h : ofBody config now body = .ok d) :
    d.now = now := by
  obtain ⟨request, details, -, -, rfl⟩ := ofBody_eq_ok h
  rfl

namespace CloudState

/-- Whether all instances were there before or were created at a moment. -/
def Dates (s : CloudState) (now : Timestamp) (s' : CloudState) : Prop :=
  ∀ scope, ∀ i ∈ s'.instances.list scope, i ∈ s.instances.list scope ∨ i.createdAt = now

theorem Takes.dates {as : List Address} (h : s.Takes as s') : s.Dates now s' := by
  intro scope i hi
  exact .inl (h.instances ▸ hi)

theorem Added.dates (h : s.Added config scope i s') (hi : i.createdAt = now) : s.Dates now s' := by
  intro other j hj
  rw [h.instances, Store.list_append] at hj
  rcases List.mem_append.mp hj with hj | hj
  · exact .inl hj
  · split at hj
    · rw [List.mem_singleton.mp hj]
      exact .inr hi
    · cases hj

end CloudState

theorem Provider.dates (hs : s.Sound config) (p : Provider) (now : Timestamp) (r : Http.Request) :
    s.Dates now (((p.emulator config).respond now r).run s).2 := by
  cases Provider.outcome hs p now r with
  | kept _ _ hk => exact hk.dates
  | @added route params scope i hr hv _ hsucc _ _ ha =>
    have hrouted : p.Routed r .create p.machines params :=
      ⟨route, hr, hv, p.routes_create route (Provider.mem_routes hr).1 hv⟩
    cases p with
    | google =>
      obtain ⟨_, _, _, d, _, s₁, _, _, -, hd, hi, hs', -⟩ :=
        Google.create_eq_ok (hrouted.exec_of_success hsucc)
      rw [hs']
      rcases d.create_cases hs.pool hd with ⟨id, nics, s₂, hc, ha⟩ | ⟨f, s₂, hc, -, -⟩
      · cases hc.symm.trans hi
        have hk := Google.kept_operationNames ha.pool.valid
        exact (ha.before hk).dates (Google.Draft.now_of_ofBody hd)
      · cases hc.symm.trans hi
    | azure =>
      obtain ⟨_, _, _, _, d, _, _, -, hd, hi, -, -⟩ :=
        Azure.create_eq_ok (Azure.exec_of_success hrouted hsucc)
      rcases d.create_cases hs.pool hd with ⟨id, nic, a, s₂, hc, ha⟩ | ⟨f, s₂, hc, -, -⟩
      · cases hc.symm.trans hi
        exact ha.dates (Azure.Draft.now_of_ofBody hd)
      · cases hc.symm.trans hi
    | oracle =>
      obtain ⟨_, d, _, _, s₁, -, hd, hi, hs', -, -⟩ :=
        Oracle.create_eq_ok (hrouted.exec_of_success hsucc)
      intro scope' j hj
      rw [hs'] at hj
      rcases d.launch_cases hs hd with ⟨id, vnic, attachment, a, s₂, hc, ha⟩ | ⟨f, s₂, hc, -⟩
      · cases hc.symm.trans hi
        exact ha.dates (Oracle.Draft.now_of_ofBody hd) scope' j hj
      · cases hc.symm.trans hi

namespace Cloud

variable {c c₀ : Cloud} {ops : List (Timestamp × Operation)}

theorem Consistent.dates (h : Consistent config c) (now : Timestamp) (op : Operation) :
    c.state.Dates now (c.perform now op).2.state := by
  obtain ⟨rfl, hs, -⟩ := h
  cases op with
  | insert project zone body =>
    rcases Google.insert_cases hs.pool c.config now project zone body with
      ⟨d, id, nics, s', hd, hx, ha⟩ | ⟨f, s', hx, hk, -⟩
    · simp only [perform, hx]
      exact ha.dates (Google.Draft.now_of_ofBody hd)
    · simp only [perform, hx]
      exact hk.dates
  | put subscription group name body =>
    rcases Azure.put_cases hs.pool c.config now subscription group name body with
      ⟨d, id, nic, a, m, s', hd, hx, ha⟩ | ⟨f, s', hx, hk, -⟩
    · simp only [perform, hx]
      exact ha.dates (Azure.Draft.now_of_ofBody hd)
    · simp only [perform, hx]
      exact hk.dates
  | launch body =>
    rcases Oracle.launch_cases hs now body with
      ⟨d, id, vnic, attachment, a, s', hd, hx, ha⟩ | ⟨f, s', hx, hk⟩
    · simp only [perform, hx]
      exact ha.dates (Oracle.Draft.now_of_ofBody hd)
    · simp only [perform, hx]
      exact hk.dates
  | request p r => exact Provider.dates hs p now r

theorem Consistent.dated_after (h : Consistent config c)
    (hi : i ∈ (c.after ops).state.instances.list scope) :
    i ∈ c.state.instances.list scope ∨ i.createdAt ∈ ops.map Prod.fst := by
  induction ops generalizing c with
  | nil => exact .inl hi
  | cons step ops ih =>
    obtain ⟨now, op⟩ := step
    rcases ih (h.step (h.step_perform now op)) hi with hmem | hmem
    · rcases h.dates now op scope i hmem with hmem | rfl
      · exact .inl hmem
      · exact .inr List.mem_cons_self
    · exact .inr (List.mem_cons_of_mem _ hmem)

/-- Every instance was created when some operation was performed. -/
theorem dated_of_new (h : new config = .ok c₀) (ops : List (Timestamp × Operation))
    (hi : i ∈ (c₀.after ops).state.instances.list scope) : i.createdAt ∈ ops.map Prod.fst := by
  rcases (consistent_of_new h).dated_after hi with hmem | hmem
  · have hempty := identitiesIn_after h [] scope
    have hmem : i.identity ∈ (c₀.after []).identitiesIn scope := List.mem_map_of_mem hmem
    rw [hempty] at hmem
    cases hmem
  · exact hmem

end Cloud

end CloudEmulation
