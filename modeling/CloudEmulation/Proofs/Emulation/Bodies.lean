import CloudEmulation.Proofs.Azure.Listing
import CloudEmulation.Proofs.Google.Listing
import CloudEmulation.Proofs.Oracle.Lookup
/-!
What the answers of handlers that succeed consist of.
-/

namespace CloudEmulation

variable {c : Configuration} {s s' : CloudState} {call : Call} {r : Http.Response}

theorem Call.query?_of_requireQuery {name value : String}
    (h : call.requireQuery name = .ok value) : call.query? name = some value := by
  unfold requireQuery at h
  cases hq : call.query? name with
  | none =>
    rw [hq] at h
    cases h
  | some v =>
    rw [hq] at h
    by_cases hv : v = ""
    · simp only [hv, if_true] at h
      cases h
    · simp only [hv, if_false] at h
      cases h
      rfl

/-- A successful response is what the handler of the request answered. -/
theorem Provider.Routed.exec_of_success {p : Provider} {r : Http.Request} {verb : Verb}
    {resource : String} {params : Params} {now : Timestamp}
    (h : p.Routed r verb resource params)
    (hs : (((p.emulator c).respond now r).run s).1.isSuccess = true) :
    ((p.emulator c).handler verb resource (r.call params now)).exec s =
      (.ok (((p.emulator c).respond now r).run s).1, (((p.emulator c).respond now r).run s).2) := by
  rw [← h.handle c now]
  exact respond_of_success hs

/-- Only what is routed succeeds. -/
theorem Provider.exists_route_of_success {p : Provider} {r : Http.Request} {now : Timestamp}
    (hs : (((p.emulator c).respond now r).run s).1.isSuccess = true) :
    ∃ route params, p.route? r = some (route, params) := by
  cases hr : p.route? r with
  | some found => exact ⟨found.1, found.2, rfl⟩
  | none =>
    have he := respond_of_success hs
    rw [handle_of_unrouted hr] at he
    cases he

theorem CloudState.exists_drawn (s : CloudState) (f : Generator → String × Generator) :
    ∃ text s', s.draw f = (text, s') ∧ s'.instances = s.instances := ⟨_, _, draw_eq s f, rfl⟩

/-- What is drafted from the arguments, recorded at once and then described. -/
theorem Handler.exec_recorded_eq_ok {α β γ : Type} {x : Except Fault α}
    {f : α → CloudState → Except Fault β × CloudState} {g : β → Except Fault γ} {b : γ} :
    (liftExcept x >>= fun a => atomically (f a) >>= fun i => liftExcept (g i)).exec s =
        (.ok b, s') ↔
      ∃ a i, x = .ok a ∧ f a s = (.ok i, s') ∧ g i = .ok b := by
  rw [exec_liftExcept_bind_eq_ok]
  refine exists_congr fun a => ?_
  rw [exec_bind_eq_ok]
  constructor
  · rintro ⟨ha, i, s₁, hi, hb⟩
    rw [exec_atomically] at hi
    rw [exec_liftExcept] at hb
    obtain ⟨hb, rfl⟩ := Prod.ext_iff.mp hb
    exact ⟨i, ha, hi, hb⟩
  · rintro ⟨i, ha, hi, hb⟩
    refine ⟨ha, i, s', ?_, ?_⟩
    · rw [exec_atomically, hi]
    · rw [exec_liftExcept, hb]

namespace Google

theorem insert_eq_ok {now : Timestamp} {project zone : String} {body : Json} {m : ComputeInstance} :
    (insert c now project zone body).exec s = (.ok m, s') ↔
      ∃ d i, Draft.ofBody c now project zone body = .ok d ∧ d.create s = (.ok i, s') ∧
        m = describe project i := by
  have hrecorded : (insert c now project zone body).exec s = (.ok m, s') ↔ _ :=
    Handler.exec_recorded_eq_ok (x := Draft.ofBody c now project zone body) (f := Draft.create)
      (g := fun i => .ok (describe project i))
  simpa only [Except.ok.injEq, eq_comm] using hrecorded

theorem create_eq_ok (h : (create c "instances" call).exec s = (.ok r, s')) :
    ∃ project zone body d i s₁ id name, draft c call = .ok d ∧
      Draft.ofBody c call.now project zone body = .ok d ∧
      d.create s = (.ok i, s₁) ∧ s' = (operationNames s₁).2 ∧
      r = .json 200 ((operationFor call.now project zone (describe project i) id name).encode
        .ofFields) := by
  unfold create at h
  simp only [ne_eq, not_true_eq_false, if_false] at h
  obtain ⟨project, hproject, h⟩ := Handler.exec_liftExcept_bind_eq_ok.mp h
  obtain ⟨zone, hzone, h⟩ := Handler.exec_liftExcept_bind_eq_ok.mp h
  cases hb : call.body with
  | none =>
    rw [hb] at h
    cases h
  | some body =>
    rw [hb] at h
    obtain ⟨target, s₁, hinsert, h⟩ := Handler.exec_bind_eq_ok.mp h
    obtain ⟨d, i, hd, hi, rfl⟩ := insert_eq_ok.mp hinsert
    obtain ⟨names, s₃, hn, h⟩ := Handler.exec_bind_eq_ok.mp h
    rw [Handler.exec_lift, Program.run_step] at hn
    cases hn
    cases h
    have hdraft : draft c call = .ok d := draft_eq_ok.mpr ⟨project, zone, body,
      Call.param_eq_ok.mp hproject, Call.param_eq_ok.mp hzone, hb, hd⟩
    exact ⟨project, zone, body, d, i, s₁, _, _, hdraft, hd, hi, rfl, rfl⟩

theorem page_eq_ok {items : List Json} (h : page call items = .ok r) :
    ∃ (p : Page Json) (f : Option Filter), (∀ j ∈ p.items, j ∈ select f items) ∧
      r = .json 200 ((Listing.mk p.items p.next).encode .ofFields id) := by
  obtain ⟨f, -, h⟩ := Except.bind_eq_ok.mp h
  obtain ⟨limit, -, h⟩ := Except.bind_eq_ok.mp h
  obtain ⟨p, hp, h⟩ := Except.bind_eq_ok.mp h
  cases h
  exact ⟨p, f, fun j hj => Page.mem_of hp hj, rfl⟩

theorem list_eq_ok (h : (list "instances" call).exec s = (.ok r, s')) :
    ∃ project zone, call.params.get? "project" = some project ∧
      call.params.get? "zone" = some zone ∧
      ∀ j ∈ Provider.google.shown r, ∃ i ∈ s.instances.list (.google project zone),
        j = view project i := by
  unfold list at h
  obtain ⟨project, hproject, h⟩ := Handler.exec_liftExcept_bind_eq_ok.mp h
  obtain ⟨zone, hzone, h⟩ := Handler.exec_liftExcept_bind_eq_ok.mp h
  simp only at h
  rw [Handler.exec_bind_ok _ (Handler.exec_look _ _), Handler.exec_liftExcept] at h
  obtain ⟨p, f, hmem, rfl⟩ := page_eq_ok (Prod.ext_iff.mp h).1
  refine ⟨project, zone, Call.param_eq_ok.mp hproject, Call.param_eq_ok.mp hzone, ?_⟩
  intro j hj
  rw [(shown_of_listing p).1] at hj
  have hj : j ∈ (s.instances.list (.google project zone)).map (view project) := by
    cases f with
    | none => exact hmem j hj
    | some f => exact (List.mem_filter.mp (hmem j hj)).1
  obtain ⟨i, hi, rfl⟩ := List.mem_map.mp hj
  exact ⟨i, hi, rfl⟩

/-- What is listed is a listing, of whichever resource. -/
theorem body_of_list {resource : String} (h : (list resource call).exec s = (.ok r, s')) :
    ∃ p : Page Json, r.body = some ((Listing.mk p.items p.next).encode .ofFields id) := by
  unfold list at h
  obtain ⟨project, -, h⟩ := Handler.exec_liftExcept_bind_eq_ok.mp h
  obtain ⟨zone, -, h⟩ := Handler.exec_liftExcept_bind_eq_ok.mp h
  split at h
  · rw [Handler.exec_bind_ok _ (Handler.exec_look _ _), Handler.exec_liftExcept] at h
    obtain ⟨p, f, -, rfl⟩ := page_eq_ok (Prod.ext_iff.mp h).1
    exact ⟨p, rfl⟩
  · rw [Handler.exec_liftExcept] at h
    obtain ⟨p, f, -, rfl⟩ := page_eq_ok (Prod.ext_iff.mp h).1
    exact ⟨p, rfl⟩
  · cases h

theorem get_eq_ok (h : (get "instances" call).exec s = (.ok r, s')) :
    ∃ project zone name i, call.params.get? "project" = some project ∧
      call.params.get? "zone" = some zone ∧ call.params.get? "instance" = some name ∧
      s.instances.get (.google project zone) name = .ok i ∧ r = .json 200 (view project i) := by
  unfold get at h
  obtain ⟨project, hproject, h⟩ := Handler.exec_liftExcept_bind_eq_ok.mp h
  obtain ⟨zone, hzone, h⟩ := Handler.exec_liftExcept_bind_eq_ok.mp h
  simp only at h
  obtain ⟨name, hname, h⟩ := Handler.exec_liftExcept_bind_eq_ok.mp h
  obtain ⟨i, hi, h⟩ := Handler.exec_lookup_bind_eq_ok.mp h
  cases h
  exact ⟨project, zone, name, i, Call.param_eq_ok.mp hproject, Call.param_eq_ok.mp hzone,
    Call.param_eq_ok.mp hname, hi, rfl⟩

end Google

namespace Azure

/-- Only calls that name a version succeed: the answer is that of the verb's own handler. -/
theorem exec_of_success {r : Http.Request} {verb : Verb} {params : Params} {now : Timestamp}
    (h : Provider.azure.Routed r verb resource params)
    (hs : (((Provider.azure.emulator c).respond now r).run s).1.isSuccess = true) :
    (match verb with
      | .create => create c (r.call params now)
      | .list => list c (r.call params now)
      | .get => get (r.call params now)).exec s =
      (.ok (((Provider.azure.emulator c).respond now r).run s).1,
        (((Provider.azure.emulator c).respond now r).run s).2) := by
  have he : (handler c verb resource (r.call params now)).exec s = _ := h.exec_of_success hs
  cases hv : hasVersion (r.call params now) with
  | true => rwa [handler_of_version c verb hv] at he
  | false =>
    rw [handler_of_versionless c verb hv] at he
    obtain ⟨ha, -⟩ := Prod.ext_iff.mp he
    rw [← Except.ok.inj ha] at hs
    cases hs

theorem put_eq_ok {now : Timestamp} {subscription group name : String} {body : Json}
    {m : VirtualMachine} :
    (put c now subscription group name body).exec s = (.ok m, s') ↔
      ∃ d i, Draft.ofBody c now subscription group name body = .ok d ∧
        d.create s = (.ok i, s') ∧ describe subscription group i = .ok m :=
  Handler.exec_recorded_eq_ok

theorem create_eq_ok (h : (create c call).exec s = (.ok r, s')) :
    ∃ subscription group name body d i m, draft c call = .ok d ∧
      Draft.ofBody c call.now subscription group name body = .ok d ∧
      d.create s = (.ok i, s') ∧ describe subscription group i = .ok m ∧
      r = .json 201 (m.encode .ofFields) := by
  unfold create at h
  cases hb : call.body with
  | none =>
    rw [hb] at h
    cases h
  | some body =>
    rw [hb] at h
    obtain ⟨subscription, hsubscription, h⟩ := Handler.exec_liftExcept_bind_eq_ok.mp h
    obtain ⟨group, hgroup, h⟩ := Handler.exec_liftExcept_bind_eq_ok.mp h
    obtain ⟨name, hname, h⟩ := Handler.exec_liftExcept_bind_eq_ok.mp h
    obtain ⟨m, s₁, hput, h⟩ := Handler.exec_bind_eq_ok.mp h
    obtain ⟨d, i, hd, hi, hm⟩ := put_eq_ok.mp hput
    cases h
    have hdraft : draft c call = .ok d := draft_eq_ok.mpr ⟨subscription, group, name, body,
      Call.param_eq_ok.mp hsubscription, Call.param_eq_ok.mp hgroup, Call.param_eq_ok.mp hname, hb,
      hd⟩
    exact ⟨subscription, group, name, body, d, i, m, hdraft, hd, hi, hm, rfl⟩

/-- The page of a group that an answer to a list tells of. -/
theorem listing_eq_ok (h : (list c call).exec s = (.ok r, s')) :
    ∃ subscription group p machines, call.params.get? "subscriptionId" = some subscription ∧
      call.params.get? "resourceGroupName" = some group ∧
      Page.of (s.instances.list (.azure subscription group)) (some c.azurePageSize)
        (call.query? tokenName) = .ok p ∧
      p.items.mapM (describe subscription group) = .ok machines ∧
      r = .json 200 ((MachineList.mk machines
        (p.next.map fun token => (nextLink call token).text)).encode .ofFields) := by
  unfold list at h
  obtain ⟨subscription, hsubscription, h⟩ := Handler.exec_liftExcept_bind_eq_ok.mp h
  obtain ⟨group, hgroup, h⟩ := Handler.exec_liftExcept_bind_eq_ok.mp h
  rw [Handler.exec_bind_ok _ (Handler.exec_look _ _), Handler.exec_liftExcept] at h
  obtain ⟨hpage, -⟩ := Prod.ext_iff.mp h
  obtain ⟨p, hp, hpage⟩ := Except.bind_eq_ok.mp hpage
  obtain ⟨machines, hm, hpage⟩ := Except.bind_eq_ok.mp hpage
  cases hpage
  exact ⟨subscription, group, p, machines, Call.param_eq_ok.mp hsubscription,
    Call.param_eq_ok.mp hgroup, hp, hm, rfl⟩

theorem list_eq_ok (h : (list c call).exec s = (.ok r, s')) :
    ∃ subscription group machines link, call.params.get? "subscriptionId" = some subscription ∧
      call.params.get? "resourceGroupName" = some group ∧
      r = .json 200 ((MachineList.mk machines link).encode .ofFields) ∧
      ∀ m ∈ machines, ∃ i ∈ s.instances.list (.azure subscription group),
        describe subscription group i = .ok m := by
  obtain ⟨subscription, group, p, machines, hsubscription, hgroup, hp, hm, hr⟩ := listing_eq_ok h
  refine ⟨subscription, group, machines, _, hsubscription, hgroup, hr, fun m hmem => ?_⟩
  obtain ⟨i, hi, hd⟩ := exists_of_mem_mapM hm hmem
  exact ⟨i, Page.mem_of hp hi, hd⟩

theorem get_eq_ok (h : (get call).exec s = (.ok r, s')) :
    ∃ subscription group name i m, call.params.get? "subscriptionId" = some subscription ∧
      call.params.get? "resourceGroupName" = some group ∧
      call.params.get? "vmName" = some name ∧
      s.instances.get (.azure subscription group) name = .ok i ∧
      describe subscription group i = .ok m ∧ r = .json 200 (m.encode .ofFields) := by
  unfold get at h
  obtain ⟨subscription, hsubscription, h⟩ := Handler.exec_liftExcept_bind_eq_ok.mp h
  obtain ⟨group, hgroup, h⟩ := Handler.exec_liftExcept_bind_eq_ok.mp h
  obtain ⟨name, hname, h⟩ := Handler.exec_liftExcept_bind_eq_ok.mp h
  obtain ⟨i, hi, h⟩ := Handler.exec_lookup_bind_eq_ok.mp h
  obtain ⟨m, hm, h⟩ := Handler.exec_liftExcept_bind_eq_ok.mp h
  cases h
  exact ⟨subscription, group, name, i, m, Call.param_eq_ok.mp hsubscription,
    Call.param_eq_ok.mp hgroup, Call.param_eq_ok.mp hname, hi, hm, rfl⟩

end Azure

namespace Oracle

theorem mem_arranged {key : Option SortKey} {order : Option SortOrder} {instances : List Instance}
    {i : Instance} : i ∈ arranged key order instances ↔ i ∈ instances := by
  unfold arranged
  cases key with
  | none => rfl
  | some k => exact List.mem_mergeSort

theorem body_of_answer {body : Json} (h : (answer body).exec s = (.ok r, s')) :
    r.body = some body ∧ s'.instances = s.instances := by
  obtain ⟨id, s₁, hd, hs⟩ := s.exists_drawn Generator.plainUuid
  rw [answer, Handler.exec_lift, reply, Program.run_step] at h
  simp only [hd] at h
  cases h
  exact ⟨rfl, hs⟩

theorem launch_eq_ok {now : Timestamp} {body : Json} {m : ComputeInstance} :
    (launch c now body).exec s = (.ok m, s') ↔
      ∃ d i, Draft.ofBody c now body = .ok d ∧ d.launch s = (.ok i, s') ∧
        describe c i = .ok m := Handler.exec_recorded_eq_ok

theorem create_eq_ok (h : (create c "instances" call).exec s = (.ok r, s')) :
    ∃ body d i m s₁, call.body = some body ∧ Draft.ofBody c call.now body = .ok d ∧
      d.launch s = (.ok i, s₁) ∧ s'.instances = s₁.instances ∧ describe c i = .ok m ∧
      r.body = some (m.encode .ofFields) := by
  unfold create at h
  simp only [ne_eq, not_true_eq_false, if_false] at h
  cases hb : call.body with
  | none =>
    rw [hb] at h
    cases h
  | some body =>
    rw [hb] at h
    obtain ⟨m, s₁, hlaunch, h⟩ := Handler.exec_bind_eq_ok.mp h
    obtain ⟨d, i, hd, hi, hm⟩ := launch_eq_ok.mp hlaunch
    obtain ⟨hr, hs⟩ := body_of_answer h
    exact ⟨body, d, i, m, s₁, rfl, hd, hi, hs, hm, hr⟩

theorem list_eq_ok (h : (list c "instances" call).exec s = (.ok r, s')) :
    ∃ compartment, call.query? "compartmentId" = some compartment ∧
      ∀ j ∈ Provider.oracle.shown r, ∃ i ∈ s.instances.list (.oracle compartment), ∃ m,
        describe c i = .ok m ∧ j = m.encode .ofFields := by
  unfold list listInstances at h
  simp only at h
  obtain ⟨compartment, hc, h⟩ := Handler.exec_liftExcept_bind_eq_ok.mp h
  rw [Handler.exec_bind_ok _ (Handler.exec_look _ _)] at h
  obtain ⟨selected, hs, h⟩ := Handler.exec_liftExcept_bind_eq_ok.mp h
  obtain ⟨key, -, hs⟩ := Except.bind_eq_ok.mp hs
  obtain ⟨order, -, hs⟩ := Except.bind_eq_ok.mp hs
  obtain ⟨described, hm, hs⟩ := Except.bind_eq_ok.mp hs
  cases hs
  obtain ⟨shown, hb, hshown⟩ := replyPage_of_ok h
  refine ⟨compartment, Call.query?_of_requireQuery hc, ?_⟩
  intro j hj
  have hj : j ∈ shown := by
    rw [Provider.shown, hb] at hj
    exact hj
  obtain ⟨m, hmem, rfl⟩ := List.mem_map.mp (hshown j hj)
  obtain ⟨i, hi, hd⟩ := exists_of_mem_mapM hm (List.mem_filter.mp hmem).1
  exact ⟨i, mem_arranged.mp hi, m, hd, rfl⟩

theorem get_eq_ok (h : (get c "instances" call).exec s = (.ok r, s')) :
    ∃ x l i m, call.params.get? "instanceId" = some x ∧ s.locators.get tenancy x = .ok l ∧
      s.instances.get l.home x = .ok i ∧ describe c i = .ok m ∧
      r.body = some (m.encode .ofFields) := by
  unfold get getInstance at h
  simp only at h
  obtain ⟨x, hx, h⟩ := Handler.exec_liftExcept_bind_eq_ok.mp h
  obtain ⟨l, hl, h⟩ := Handler.exec_lookup_bind_eq_ok.mp h
  obtain ⟨i, hi, h⟩ := Handler.exec_lookup_bind_eq_ok.mp h
  obtain ⟨m, hm, h⟩ := Handler.exec_liftExcept_bind_eq_ok.mp h
  exact ⟨x, l, i, m, Call.param_eq_ok.mp hx, hl, hi, hm, (body_of_answer h).1⟩

end Oracle

end CloudEmulation
