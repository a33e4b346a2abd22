import CloudEmulation.Proofs.Emulation.Bodies
import CloudEmulation.Proofs.Cloud.Runs
/-!
What an operation that creates an instance makes of its body, whether an adapter is called or a
request is sent: a draft, and the record of the draft.
-/

namespace CloudEmulation

variable {config : Configuration} {c : Cloud} {s s' : CloudState} {now : Timestamp}
  {op : Operation} {id : String} {body other : Json} {call : Call} {answer : Http.Response}

namespace Operation

/-- The body that an operation sends. -/
def body? : Operation → Option Json
  | .insert _ _ body => some body
  | .put _ _ _ body => some body
  | .launch body => some body
  | .request _ r => r.body

/-- The operation with another body. -/
def withBody (op : Operation) (body : Json) : Operation :=
  match op with
  | .insert project zone _ => .insert project zone body
  | .put subscription group name _ => .put subscription group name body
  | .launch _ => .launch body
  | .request p r => .request p { r with body := some body }

theorem body?_withBody (op : Operation) (body : Json) : (op.withBody body).body? = some body := by
  cases op <;> rfl

end Operation

/-- Whether the answer to a launch shows a value. -/
def Answer.Shows (a : Answer) (v : Json) : Prop :=
  match a with
  | .launched (.ok m) => m.encode .ofFields = v
  | .responded r => r.isSuccess = true ∧ r.body = some v
  | _ => False

theorem CloudState.instances_draw {f : Generator → String × Generator} {t : String}
    (h : s.draw f = (t, s')) : s'.instances = s.instances := by
  rw [draw_eq] at h
  cases h
  rfl

theorem Provider.accepted?_eq_some {p : Provider} {r : Http.Request} {created : Scope × String}
    (h : p.accepted? r answer = some created) : answer.isSuccess = true ∧
      ∃ params, p.Routed r .create p.machines params ∧
        p.created? params r.body answer.body = some created := by
  unfold accepted? at h
  split at h
  · rename_i hs
    split at h
    · rename_i method template resource params hr
      have hresource : resource = p.machines := p.routes_create _ (mem_routes hr).1 rfl
      exact ⟨hs, params, ⟨_, hr, rfl, hresource⟩, h⟩
    · cases h
  · cases h

theorem Provider.Routed.withBody {p : Provider} {r : Http.Request} {verb : Verb}
    {resource : String} {params : Params} (h : p.Routed r verb resource params)
    (body : Json) : p.Routed { r with body := some body } verb resource params := h

theorem Provider.Routed.accepted? {p : Provider} {r : Http.Request} {params : Params}
    (h : p.Routed r .create p.machines params) (hs : answer.isSuccess = true) :
    p.accepted? r answer = p.created? params r.body answer.body := by
  obtain ⟨route, hr, hv, -⟩ := h
  exact accepted?_of_create hr hv hs

theorem Provider.provider_of_created {p : Provider} {params : Params} {sent told : Option Json}
    {scope : Scope} (h : p.created? params sent told = some (scope, id)) : scope.provider = p := by
  cases p with
  | google =>
    simp only [created?, Google.created?, Option.bind_eq_bind, Option.bind_eq_some_iff] at h
    obtain ⟨_, _, _, _, _, _, _, _, ⟨⟩⟩ := h
    rfl
  | azure =>
    simp only [created?, Azure.created?, Option.bind_eq_bind, Option.bind_eq_some_iff] at h
    obtain ⟨_, _, _, _, _, _, ⟨⟩⟩ := h
    rfl
  | oracle =>
    simp only [created?, Oracle.created?, Option.bind_eq_bind, Option.bind_eq_some_iff] at h
    obtain ⟨_, _, _, _, _, _, _, _, ⟨⟩⟩ := h
    rfl

/-- What an operation and its answer are where they created an instance. -/
inductive Operation.Created (id : String) : Scope → Operation → Answer → Prop
  | inserted {project zone body m} : m.name = id →
    Created id (.google project zone) (.insert project zone body) (.inserted (.ok m))
  | replaced {subscription group body m} :
    Created id (.azure subscription group) (.put subscription group id body) (.replaced (.ok m))
  | launched {compartment body m} : m.compartmentId = compartment → m.id = id →
    Created id (.oracle compartment) (.launch body) (.launched (.ok m))
  | responded {p scope r answer params} : scope.provider = p → answer.isSuccess = true →
    p.Routed r .create p.machines params →
    p.created? params r.body answer.body = some (scope, id) →
    Created id scope (.request p r) (.responded answer)

theorem Operation.created_of_accepted {scope : Scope} {a : Answer}
    (h : op.accepted? a = some (scope, id)) : op.Created id scope a := by
  unfold accepted? at h
  split at h
  · cases h
    exact .inserted rfl
  · cases h
    exact .replaced
  · cases h
    exact .launched rfl rfl
  · obtain ⟨hs, params, hr, hcreated⟩ := Provider.accepted?_eq_some h
    exact .responded (Provider.provider_of_created hcreated) hs hr hcreated
  · cases h

theorem Provider.Routed.run_respond {p : Provider} {r : Http.Request} {verb : Verb}
    {resource : String} {params : Params} (h : p.Routed r verb resource params)
    (hx : ((p.emulator config).handler verb resource (r.call params now)).exec s =
      (.ok answer, s')) : ((p.emulator config).respond now r).run s = (answer, s') := by
  rw [← h.handle config now] at hx
  exact respond_of_answered hx

/-! Google. -/

namespace Google

variable {project zone : String} {d : Draft} {i : Instance}

theorem create_of_draft (hd : draft config call = .ok d) (hi : d.create s = (.ok i, s')) :
    ∃ r s₁, (create config "instances" call).exec s = (.ok r, s₁) ∧ r.isSuccess = true := by
  obtain ⟨project, zone, body, hproject, hzone, hbody, hd⟩ := draft_eq_ok.mp hd
  have hm := insert_eq_ok.mpr ⟨d, i, hd, hi, rfl⟩
  refine ⟨.json 200 ((operationFor call.now project zone (describe project i)
    (operationNames s').1.1 (operationNames s').1.2).encode .ofFields), (operationNames s').2, ?_,
    rfl⟩
  unfold create
  rw [if_neg (not_not.mpr rfl), Call.param_eq_ok.mpr hproject, Call.param_eq_ok.mpr hzone]
  simp only [Handler.exec_bind_liftExcept_ok, hbody]
  rw [Handler.exec_bind_ok _ hm, Handler.exec_bind_ok _ (Handler.exec_lift _ _), Handler.exec_pure,
    Program.run_step]

theorem instances_operationNames (s : CloudState) :
    (operationNames s).2.instances = s.instances := by
  rcases hid : s.draw (·.digits 19) with ⟨id, s₁⟩
  rcases hname : s₁.draw Generator.uuid with ⟨name, s₂⟩
  rw [operationNames, hid]
  simp only [hname]
  rw [CloudState.instances_draw hname, CloudState.instances_draw hid]

theorem Draft.mem_of_create (hp : s.pool.Valid)
    (hd : Draft.ofBody config now project zone body = .ok d) (hi : d.create s = (.ok i, s')) :
    i.identity = d.request.name ∧ i.name = d.request.name ∧
      i ∈ s'.instances.list (.google project zone) := by
  rcases d.create_cases hp hd with ⟨id, nics, s₁, hx, ha⟩ | ⟨f, s₁, hx, -, -⟩
  · cases hx.symm.trans hi
    refine ⟨rfl, rfl, ?_⟩
    rw [ha.instances, (Draft.ofBody_eq_ok hd).1, Store.list_append, if_pos rfl]
    exact List.mem_append_right _ List.mem_cons_self
  · cases hx.symm.trans hi

end Google

/-! Azure. -/

namespace Azure

variable {subscription group name : String} {d : Draft} {i : Instance}

theorem Draft.mem_of_create (hp : s.pool.Valid)
    (hd : Draft.ofBody config now subscription group name body = .ok d)
    (hi : d.create s = (.ok i, s')) :
    i.identity = name ∧ i.metadata = d.request ∧ i.placement = d.location ∧
      i ∈ s'.instances.list (.azure subscription group) := by
  obtain ⟨hscope, rfl⟩ := Draft.ofBody_eq_ok hd
  rcases d.create_cases hp hd with ⟨id, nic, a, s₁, hx, ha⟩ | ⟨f, s₁, hx, -, -⟩
  · cases hx.symm.trans hi
    refine ⟨rfl, rfl, rfl, ?_⟩
    rw [ha.instances, hscope, Store.list_append, if_pos rfl]
    exact List.mem_append_right _ List.mem_cons_self
  · cases hx.symm.trans hi

end Azure

/-! Oracle. -/

namespace Oracle

variable {d : Draft} {i : Instance}

theorem create_of_draft {m : ComputeInstance} (hbody : call.body = some body)
    (hd : Draft.ofBody config call.now body = .ok d) (hi : d.launch s = (.ok i, s'))
    (hm : describe config i = .ok m) :
    ∃ r s₁, (create config "instances" call).exec s = (.ok r, s₁) ∧ r.isSuccess = true ∧
      r.body = some (m.encode .ofFields) := by
  have hlaunch := launch_eq_ok.mpr ⟨d, i, hd, hi, hm⟩
  obtain ⟨text, s₁, hr⟩ := exec_answer (m.encode .ofFields) s'
  refine ⟨(Http.Response.json 200 (m.encode .ofFields)).withHeader "opc-request-id" text, s₁, ?_,
    rfl, rfl⟩
  unfold create
  rw [if_neg (not_not.mpr rfl), hbody]
  simp only
  rw [Handler.exec_bind_ok _ hlaunch, hr]

/-- The record of a draft, and what describes it. -/
theorem Draft.mem_of_launch (hs : s.Sound config) (hd : Draft.ofBody config now body = .ok d)
    (hi : d.launch s = (.ok i, s')) :
    i.identity = i.id ∧ describe config i = .ok (assigned config i d.details) ∧
      i ∈ s'.instances.list (.oracle d.details.compartmentId) := by
  rcases d.launch_cases hs hd with ⟨id, vnic, attachment, a, s₁, hx, ha⟩ | ⟨f, s₁, hx, -⟩
  · cases hx.symm.trans hi
    refine ⟨rfl, d.describe_record hd _ rfl, ?_⟩
    rw [ha.instances, Draft.scope, Store.list_append, if_pos rfl]
    exact List.mem_append_right _ List.mem_cons_self
  · cases hx.symm.trans hi

end Oracle

namespace Cloud

variable {project zone subscription group compartment : String}

/-- An operation that creates an instance adds the record of the draft that its body makes. -/
theorem Consistent.google_of_accepted (hc : Consistent config c) (hbody : op.body? = some body)
    (ha : op.accepted? (c.perform now op).1 = some (.google project zone, id)) :
    ∃ d i s', Google.Draft.ofBody config now project zone body = .ok d ∧
      d.create c.state = (.ok i, s') ∧ i.identity = id ∧
      i ∈ (c.perform now op).2.state.instances.list (.google project zone) := by
  obtain ⟨rfl, hs, -⟩ := hc
  have hcreated := Operation.created_of_accepted ha
  generalize hx : c.perform now op = out at hcreated
  obtain ⟨a, c'⟩ := out
  cases hcreated with
  | @inserted _ _ _ m hm =>
    cases hbody
    simp only [perform, Prod.mk.injEq, Answer.inserted.injEq] at hx
    obtain ⟨hresult, rfl⟩ := hx
    obtain ⟨d, i, hd, hi, rfl⟩ := Google.insert_eq_ok.mp (Prod.ext hresult rfl)
    obtain ⟨hid, hname, hmem⟩ := Google.Draft.mem_of_create hs.pool hd hi
    exact ⟨d, i, _, hd, hi, (hid.trans hname.symm).trans hm, hmem⟩
  | @responded p _ r _ params hp hsucc hr hcreated =>
    obtain rfl : p = .google := hp.symm
    cases hx
    obtain ⟨_, _, _, d, i, s₁, _, _, hdraft, -, hi, hs', -⟩ :=
      Google.create_eq_ok (hr.exec_of_success hsucc)
    have hid := (Google.created?_of_draft hdraft).symm.trans hcreated
    obtain ⟨project', zone', body', hproject, hzone, hbody', hd⟩ := Google.draft_eq_ok.mp hdraft
    obtain rfl : body' = body := Option.some.inj (hbody'.symm.trans hbody)
    rw [(Google.Draft.ofBody_eq_ok hd).1] at hid
    cases hid
    obtain ⟨hid, -, hmem⟩ := Google.Draft.mem_of_create hs.pool hd hi
    refine ⟨d, i, s₁, hd, hi, hid, ?_⟩
    show i ∈ (((Provider.google.emulator c.config).respond now r).run c.state).2.instances.list _
    rw [hs', Google.instances_operationNames]
    exact hmem

/-- Where one body is accepted, so is another one of whose draft a record can be made. -/
theorem google_accepted_withBody {d : Google.Draft} {i : Instance} (hc : Consistent config c)
    (ha : op.accepted? (c.perform now op).1 = some (.google project zone, id))
    (hd : Google.Draft.ofBody config now project zone other = .ok d)
    (hi : d.create c.state = (.ok i, s')) :
    (op.withBody other).accepted? (c.perform now (op.withBody other)).1 =
      some (.google project zone, i.identity) := by
  obtain ⟨rfl, hs, -⟩ := hc
  obtain ⟨hid, hname, -⟩ := Google.Draft.mem_of_create hs.pool hd hi
  have hcreated := Operation.created_of_accepted ha
  generalize c.perform now op = out at hcreated
  obtain ⟨a, c'⟩ := out
  cases hcreated with
  | inserted _ =>
    have hm := Google.insert_eq_ok.mpr ⟨d, i, hd, hi, rfl⟩
    simp only [Operation.withBody, perform, hm, Operation.accepted?]
    rw [hid, ← hname]
    rfl
  | @responded p _ r _ params hp _ hr hcreated =>
    obtain rfl : p = .google := hp.symm
    have hdraft : Google.draft c.config ((⟨r.method, r.url, r.headers, some other⟩ :
        Http.Request).call params now) = .ok d := by
      obtain ⟨project', hproject, zone', hzone, _, _, _, _, ⟨⟩⟩ : _ := by
        simpa only [Provider.created?, Google.created?, Option.bind_eq_bind,
          Option.bind_eq_some_iff] using hcreated
      exact Google.draft_eq_ok.mpr ⟨_, _, _, hproject, hzone, rfl, hd⟩
    obtain ⟨answer, s₁, hx, hsucc⟩ := Google.create_of_draft hdraft hi
    have hanswer := (hr.withBody other).run_respond hx
    have hanswered : (c.respond .google now { r with body := some other }).1 = answer :=
      congrArg Prod.fst hanswer
    rw [Operation.withBody, perform, Operation.accepted?, hanswered,
      (hr.withBody other).accepted? hsucc]
    have hname' := Google.created?_of_draft hdraft
    rw [(Google.Draft.ofBody_eq_ok hd).1, ← hid] at hname'
    exact hname'

theorem Consistent.azure_of_accepted (hc : Consistent config c) (hbody : op.body? = some body)
    (ha : op.accepted? (c.perform now op).1 = some (.azure subscription group, id)) :
    ∃ d i, Azure.Draft.ofBody config now subscription group id body = .ok d ∧
      i.metadata = d.request ∧ i.placement = d.location ∧ i.identity = id ∧
      i ∈ (c.perform now op).2.state.instances.list (.azure subscription group) := by
  obtain ⟨rfl, hs, -⟩ := hc
  have hcreated := Operation.created_of_accepted ha
  generalize hx : c.perform now op = out at hcreated
  obtain ⟨a, c'⟩ := out
  cases hcreated with
  | replaced =>
    cases hbody
    simp only [perform, Prod.mk.injEq, Answer.replaced.injEq] at hx
    obtain ⟨hresult, rfl⟩ := hx
    obtain ⟨d, i, hd, hi, -⟩ := Azure.put_eq_ok.mp (Prod.ext hresult rfl)
    obtain ⟨hid, hrequest, hplacement, hmem⟩ := Azure.Draft.mem_of_create hs.pool hd hi
    exact ⟨d, i, hd, hrequest, hplacement, hid, hmem⟩
  | @responded p _ r _ params hp hsucc hr hcreated =>
    obtain rfl : p = .azure := hp.symm
    cases hx
    obtain ⟨_, _, _, _, d, i, m, hdraft, -, hi, -, -⟩ :=
      Azure.create_eq_ok (Azure.exec_of_success hr hsucc)
    have hid := (Azure.created?_of_draft hdraft).symm.trans hcreated
    obtain ⟨_, _, _, body', -, -, -, hbody', hd⟩ := Azure.draft_eq_ok.mp hdraft
    obtain rfl : body' = body := Option.some.inj (hbody'.symm.trans hbody)
    obtain ⟨hscope, rfl⟩ := Azure.Draft.ofBody_eq_ok hd
    rw [hscope] at hid
    cases hid
    obtain ⟨hid, hrequest, hplacement, hmem⟩ := Azure.Draft.mem_of_create hs.pool hd hi
    exact ⟨d, i, hd, hrequest, hplacement, hid, hmem⟩

theorem Consistent.oracle_of_accepted (hc : Consistent config c) (hbody : op.body? = some body)
    (ha : op.accepted? (c.perform now op).1 = some (.oracle compartment, id)) :
    ∃ d i s', Oracle.Draft.ofBody config now body = .ok d ∧ d.launch c.state = (.ok i, s') ∧
      d.details.compartmentId = compartment ∧ i.id = id ∧ i.identity = id ∧
      i ∈ (c.perform now op).2.state.instances.list (.oracle compartment) ∧
      (c.perform now op).1.Shows ((Oracle.assigned config i d.details).encode .ofFields) := by
  obtain ⟨rfl, hs, -⟩ := hc
  have hcreated := Operation.created_of_accepted ha
  generalize hx : c.perform now op = out at hcreated
  obtain ⟨a, c'⟩ := out
  cases hcreated with
  | launched hcompartment hid =>
    cases hbody
    simp only [perform, Prod.mk.injEq, Answer.launched.injEq] at hx
    obtain ⟨hresult, rfl⟩ := hx
    obtain ⟨d, i, hd, hi, hm⟩ := Oracle.launch_eq_ok.mp (Prod.ext hresult rfl)
    obtain ⟨hidentity, hdescribe, hmem⟩ := Oracle.Draft.mem_of_launch hs hd hi
    cases hdescribe.symm.trans hm
    cases hcompartment
    exact ⟨d, i, _, hd, hi, rfl, hid, hidentity.trans hid, hmem, rfl⟩
  | @responded p _ r answer params hp hsucc hr hcreated =>
    obtain rfl : p = .oracle := hp.symm
    cases hx
    obtain ⟨body', d, i, m, s₁, hbody', hd, hi, hs', hm, hanswer⟩ :=
      Oracle.create_eq_ok (hr.exec_of_success hsucc)
    obtain rfl : body' = body := Option.some.inj (hbody'.symm.trans hbody)
    obtain ⟨hidentity, hdescribe, hmem⟩ := Oracle.Draft.mem_of_launch hs hd hi
    cases hdescribe.symm.trans hm
    have hanswer : (c.respond .oracle now r).1.body = _ := hanswer
    rw [Provider.created?, hanswer, show r.body = some body' from hbody,
      Oracle.created?_of_draft hd i] at hcreated
    cases hcreated
    refine ⟨d, i, s₁, hd, hi, rfl, rfl, hidentity, ?_, hsucc, hanswer⟩
    show i ∈ (((Provider.oracle.emulator c.config).respond now r).run c.state).2.instances.list _
    rw [hs']
    exact hmem

theorem oracle_accepted_withBody {d : Oracle.Draft} {i : Instance} (hc : Consistent config c)
    (ha : op.accepted? (c.perform now op).1 = some (.oracle compartment, id))
    (hd : Oracle.Draft.ofBody config now other = .ok d) (hi : d.launch c.state = (.ok i, s')) :
    (op.withBody other).accepted? (c.perform now (op.withBody other)).1 =
      some (.oracle d.details.compartmentId, i.id) := by
  obtain ⟨rfl, hs, -⟩ := hc
  obtain ⟨-, hm, -⟩ := Oracle.Draft.mem_of_launch hs hd hi
  have hcreated := Operation.created_of_accepted ha
  generalize c.perform now op = out at hcreated
  obtain ⟨a, c'⟩ := out
  cases hcreated with
  | launched _ _ =>
    have hlaunch := Oracle.launch_eq_ok.mpr ⟨d, i, hd, hi, hm⟩
    simp only [Operation.withBody, perform, hlaunch, Operation.accepted?]
    rfl
  | @responded p _ r _ params hp _ hr _ =>
    obtain rfl : p = .oracle := hp.symm
    have hr' := hr.withBody other
    have hsent : ((⟨r.method, r.url, r.headers, some other⟩ : Http.Request).call params now).body =
        some other := rfl
    obtain ⟨answer, s₁, hx, hsucc, hbody⟩ := Oracle.create_of_draft hsent hd hi hm
    have hanswer := hr'.run_respond hx
    have hanswered : (c.respond .oracle now { r with body := some other }).1 = answer :=
      congrArg Prod.fst hanswer
    rw [Operation.withBody, perform, Operation.accepted?, hanswered, hr'.accepted? hsucc,
      Provider.created?, hbody]
    exact Oracle.created?_of_draft hd i

end Cloud

end CloudEmulation
