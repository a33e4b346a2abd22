import CloudEmulation.Proofs.Emulation.Acceptance
/-!
What answering one request can do: it keeps the state or adds one record, and the response tells
which.
-/

namespace CloudEmulation

/-- The scope and the identity of the instance that a call creates. -/
def Provider.created? (p : Provider) (params : Params) (body answer : Option Json) :
    Option (Scope × String) :=
  match p with
  | .google => Google.created? params body
  | .azure => Azure.created? params
  | .oracle => Oracle.created? body answer

/-- The scope and the identity of the instance that a request created. -/
def Provider.accepted? (p : Provider) (r : Http.Request) (answer : Http.Response) :
    Option (Scope × String) :=
  if answer.isSuccess then
    match p.route? r with
    | some (⟨_, _, _, .create⟩, params) => p.created? params r.body answer.body
    | _ => none
  else none

/-- What a request did: it failed or created nothing and the state is kept, or it created one
instance. -/
inductive Provider.Outcome (c : Configuration) (p : Provider) (r : Http.Request) (s : CloudState)
    (answer : Http.Response) (s' : CloudState) : Prop
  | kept : answer.isSuccess = false ∨ r.method = "GET" → p.accepted? r answer = none →
    s.Kept s' → Outcome c p r s answer s'
  | added {route params scope i} : p.route? r = some (route, params) → route.verb = .create →
    r.method ≠ "GET" → answer.isSuccess = true → scope.provider = p →
    p.accepted? r answer = some (scope, i.identity) → s.Added c scope i s' →
    Outcome c p r s answer s'

namespace Provider

variable {p : Provider} {r : Http.Request} {route : Route} {params : Params} {c : Configuration}
  {now : Timestamp} {s s' : CloudState} {answer : Http.Response}

theorem accepted?_of_create (hr : p.route? r = some (route, params)) (hv : route.verb = .create)
    (hs : answer.isSuccess = true) :
    p.accepted? r answer = p.created? params r.body answer.body := by
  obtain ⟨method, template, resource, verb⟩ := route
  subst hv
  simp only [accepted?, hs, if_true, hr]

theorem accepted?_of_failed (hs : answer.isSuccess = false) : p.accepted? r answer = none := by
  simp [accepted?, hs]

theorem accepted?_of_get (hg : r.method = "GET") : p.accepted? r answer = none := by
  unfold accepted?
  split
  · split
    · rename_i hr
      exact absurd rfl ((get_iff hr).mp hg)
    · rfl
  · rfl

theorem outcome_of_keeps (hg : r.method = "GET") (h : ((p.emulator c).handle now r).Keeps)
    (hp : s.pool.Valid) :
    Outcome c p r s (((p.emulator c).respond now r).run s).1
      (((p.emulator c).respond now r).run s).2 := by
  have k := h s hp
  cases hx : ((p.emulator c).handle now r).exec s with
  | mk result s' =>
    rw [hx] at k
    cases result with
    | ok answer =>
      rw [respond_of_answered hx]
      exact .kept (.inr hg) (accepted?_of_get hg) k
    | error f =>
      obtain ⟨answer, s'', hr, -, hk⟩ := respond_of_refused hx k.pool.valid
      rw [hr]
      exact .kept (.inr hg) (accepted?_of_get hg) (k.trans hk)

theorem outcome_of_refused {f : Fault}
    (h : ((p.emulator c).handle now r).exec s = (.error f, s')) (k : s.Kept s') :
    Outcome c p r s (((p.emulator c).respond now r).run s).1
      (((p.emulator c).respond now r).run s).2 := by
  obtain ⟨answer, s'', hr, hs, hk⟩ := respond_of_refused h k.pool.valid
  have hf := Fault.not_isSuccess hs
  rw [hr]
  exact .kept (.inl hf) (accepted?_of_failed hf) (k.trans hk)

theorem handler_keeps (hv : route.verb ≠ .create) (call : Call) :
    ((p.emulator c).handler route.verb route.resource call).Keeps := by
  obtain ⟨method, template, resource, verb⟩ := route
  cases verb with
  | create => exact absurd rfl hv
  | list =>
    cases p with
    | google => exact Google.list_keeps resource call
    | azure => exact Azure.handler_keeps c hv resource call
    | oracle => exact Oracle.list_keeps c resource call
  | get =>
    cases p with
    | google => exact Google.get_keeps resource call
    | azure => exact Azure.handler_keeps c hv resource call
    | oracle => exact Oracle.get_keeps c resource call

theorem outcome_of_added {scope : Scope} {i : Instance} (hr : p.route? r = some (route, params))
    (hv : route.verb = .create) (hx : ((p.emulator c).handle now r).exec s = (.ok answer, s'))
    (hs : answer.isSuccess = true) (ha : s.Added c scope i s') (hp : scope.provider = p)
    (hc : p.created? params r.body answer.body = some (scope, i.identity)) :
    Outcome c p r s (((p.emulator c).respond now r).run s).1
      (((p.emulator c).respond now r).run s).2 := by
  rw [respond_of_answered hx]
  refine .added hr hv (mt (get_iff hr).mp (not_not.mpr hv)) hs hp ?_ ha
  rw [accepted?_of_create hr hv hs]
  exact hc

theorem google_outcome (hp : s.pool.Valid) (hr : google.route? r = some (route, params))
    (hv : route.verb = .create)
    (hh : (google.emulator c).handle now r = Google.create c "instances" (r.call params now)) :
    Outcome c google r s (((google.emulator c).respond now r).run s).1
      (((google.emulator c).respond now r).run s).2 := by
  rcases Google.create_cases hp c (r.call params now) with
    ⟨d, id, nics, answer, s', hd, hx, hs, ha⟩ | ⟨f, s', hx, hk, -⟩
  · exact outcome_of_added hr hv (hh ▸ hx) hs ha rfl (Google.created?_of_draft hd)
  · exact outcome_of_refused (hh ▸ hx) hk

theorem azure_outcome (hp : s.pool.Valid) (hr : azure.route? r = some (route, params))
    (hv : route.verb = .create)
    (hh : (azure.emulator c).handle now r =
      Azure.handler c .create Azure.resource (r.call params now)) :
    Outcome c azure r s (((azure.emulator c).respond now r).run s).1
      (((azure.emulator c).respond now r).run s).2 := by
  cases hversion : Azure.hasVersion (r.call params now) with
  | false =>
    have hx : ((azure.emulator c).handle now r).exec s = (.ok Azure.versionMissing, s) := by
      rw [hh]
      exact congrArg (·.exec s) (Azure.handler_of_versionless c .create hversion)
    rw [respond_of_answered hx]
    exact .kept (.inl rfl) (accepted?_of_failed rfl) (.refl hp)
  | true =>
    have hc : (azure.emulator c).handle now r = Azure.create c (r.call params now) :=
      hh.trans (Azure.handler_of_version c .create hversion)
    rcases Azure.create_cases hp c (r.call params now) with
      ⟨d, id, nic, a, answer, s', hd, hx, hs, ha⟩ | ⟨f, s', hx, hk, -⟩
    · exact outcome_of_added hr hv (hc ▸ hx) hs ha rfl (Azure.created?_of_draft hd)
    · exact outcome_of_refused (hc ▸ hx) hk

theorem oracle_outcome (h : s.Sound c) (hr : oracle.route? r = some (route, params))
    (hv : route.verb = .create)
    (hh : (oracle.emulator c).handle now r = Oracle.create c "instances" (r.call params now)) :
    Outcome c oracle r s (((oracle.emulator c).respond now r).run s).1
      (((oracle.emulator c).respond now r).run s).2 := by
  rcases Oracle.create_cases h (r.call params now) with
    ⟨body, d, id, vnic, attachment, a, answer, s', hb, hd, hx, hs, hbody, ha⟩ | ⟨f, s', hx, hk⟩
  · refine outcome_of_added hr hv (hh ▸ hx) hs ha rfl ?_
    rw [created?, show r.body = some body from hb, hbody]
    exact Oracle.created?_of_draft hd _
  · exact outcome_of_refused (hh ▸ hx) hk

theorem outcome (h : s.Sound c) (p : Provider) (now : Timestamp) (r : Http.Request) :
    Outcome c p r s (((p.emulator c).respond now r).run s).1
      (((p.emulator c).respond now r).run s).2 := by
  cases hr : p.route? r with
  | none =>
    have hh : ((p.emulator c).handle now r).exec s = (.error ((p.emulator c).unrouted r), s) := by
      rw [handle_of_unrouted hr]
      rfl
    exact outcome_of_refused hh (.refl h.pool)
  | some routed =>
    obtain ⟨route, params⟩ := routed
    have hh : (p.emulator c).handle now r = _ := handle_of_routed hr
    by_cases hv : route.verb = .create
    · rw [hv, p.routes_create route (mem_routes hr).1 hv] at hh
      cases p with
      | google => exact google_outcome h.pool hr hv hh
      | azure => exact azure_outcome h.pool hr hv hh
      | oracle => exact oracle_outcome h hr hv hh
    · exact outcome_of_keeps ((get_iff hr).mpr hv) (hh ▸ handler_keeps hv _) h.pool

/-! Creating is a conflict where the name is taken, and nowhere else. -/

theorem google_conflict_iff (hs : s.Sound c) (hr : google.Routed r .create "instances" params) :
    (((google.emulator c).respond now r).run s).1.status = 409 ↔
      ∃ d, Google.draft c (r.call params now) = .ok d ∧
        s.instances.has d.scope d.request.name = true := by
  refine conflict_iff ?_
  rw [show (google.emulator c).handle now r = Google.create c "instances" (r.call params now) from
    hr.handle c now]
  rcases Google.create_cases hs.pool c (r.call params now) with
    ⟨d, id, nics, answer, s', hd, hx, hsuccess, ha⟩ | ⟨f, s', hx, -, hf⟩
  · exact .inl ⟨d, answer, s', hd, hx, hsuccess, Bool.eq_false_iff.mp ha.vacant⟩
  · exact .inr ⟨f, s', hx, hf⟩

theorem azure_conflict_iff (hs : s.Sound c) (hr : azure.Routed r .create Azure.resource params)
    (hv : Azure.hasVersion (r.call params now) = true) :
    (((azure.emulator c).respond now r).run s).1.status = 409 ↔
      ∃ d, Azure.draft c (r.call params now) = .ok d ∧
        s.instances.has d.scope d.name = true := by
  refine conflict_iff ?_
  rw [show (azure.emulator c).handle now r = Azure.create c (r.call params now) from
    (hr.handle c now).trans (Azure.handler_of_version c .create hv)]
  rcases Azure.create_cases hs.pool c (r.call params now) with
    ⟨d, id, nic, a, answer, s', hd, hx, hsuccess, ha⟩ | ⟨f, s', hx, -, hf⟩
  · exact .inl ⟨d, answer, s', hd, hx, hsuccess, Bool.eq_false_iff.mp ha.vacant⟩
  · exact .inr ⟨f, s', hx, hf⟩

end Provider

end CloudEmulation
