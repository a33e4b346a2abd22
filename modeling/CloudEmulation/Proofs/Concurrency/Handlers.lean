import CloudEmulation.Proofs.Concurrency.Crews
import CloudEmulation.Proofs.Oracle.Locators
/-!
Every handler settles what it will answer in its first section. The identifiers of operations and of
requests are drawn later.
-/

namespace CloudEmulation

namespace Program

variable {σ α β γ : Type}

theorem bind_assoc (p : Program σ α) (f : α → Program σ β) (g : β → Program σ γ) :
    (p.bind f).bind g = p.bind fun a => (f a).bind g := by
  induction p with
  | done a => rfl
  | atomic act next ih => simp only [bind, ih]

theorem bind_done (p : Program σ α) : p.bind .done = p := by
  induction p with
  | done a => rfl
  | atomic act next ih => simp only [bind, ih]

instance : LawfulMonad (Program σ) := .mk' (Program σ) bind_done (fun _ _ => rfl) bind_assoc

end Program

/-- What is settled of a response while identifiers are still drawn for it: all of it, all but the
identifiers of an operation, or all but that of the request. -/
inductive Verdict where
  | plain (answer : Http.Response)
  | operation (now : Timestamp) (project zone : String) (target : Google.ComputeInstance)
  | numbered (status : Nat) (body : Json) (further : Http.Headers)

namespace Verdict

def Admits : Verdict → Http.Response → Prop
  | .plain answer, r => r = answer
  | .operation now project zone target, r => ∃ id name,
    r = .json 200 ((Google.operationFor now project zone target id name).encode .ofFields)
  | .numbered status body further, r => ∃ id,
    r = ⟨status, [("content-type", "application/json"), ("opc-request-id", id)] ++ further,
      some body⟩

/-- What is settled of a handler's result. -/
def Concludes : Except Fault Verdict → Except Fault Http.Response → Prop
  | .ok v, .ok r => v.Admits r
  | .error f, .error f' => f' = f
  | _, _ => False

end Verdict

namespace Handler

variable {α β : Type} {c : Configuration} {s : CloudState} {f : Fault}

/-- Whatever comes between, a handler's result is settled. -/
def Settled (c : Configuration) (v : Except Fault Verdict) (h : Handler Http.Response)
    (s : CloudState) : Prop :=
  (ExceptT.run h).Settled c (Verdict.Concludes v) s

def Settles (c : Configuration) (h : Handler Http.Response) (s : CloudState) : Prop :=
  ∃ v, Settled c v h s

def Serves (c : Configuration) (h : Handler Http.Response) : Prop :=
  (ExceptT.run h).Serves c Verdict.Concludes

variable {k : α → Handler Http.Response}

theorem Settled.lookup_bind {f : CloudState → Except Fault α} {a : α} {v : Except Fault Verdict}
    (h : Settled c v (k a) s) (hf : ∀ s', s.Grows c s' → f s' = .ok a) :
    Settled c v (lookup f >>= k) s := by
  refine fun s' hg => ⟨.refl s', ?_⟩
  show (Program.bind (.done (f s')) _).Settled c _ s'
  rw [hf s' hg]
  exact h.mono hg

namespace Settles

theorem pure (r : Http.Response) : Settles c (pure r) s := ⟨.ok (.plain r), rfl⟩

theorem throw (f : Fault) : Settles c (throw f) s := ⟨.error f, rfl⟩

theorem liftExcept_bind {r : Except Fault α} (h : ∀ a, r = .ok a → Settles c (k a) s) :
    Settles c (liftExcept r >>= k) s := by
  cases r with
  | ok a => exact h a rfl
  | error f => exact .throw f

theorem liftExcept (r : Except Fault Http.Response) : Settles c (liftExcept r) s := by
  cases r with
  | ok a => exact .pure a
  | error f => exact .throw f

/-- What is read is the same whatever comes before. -/
theorem lookup_bind {f : CloudState → Except Fault α} {r : Except Fault α}
    (hf : ∀ s', s.Grows c s' → f s' = r) (h : ∀ a, r = .ok a → Settles c (k a) s) :
    Settles c (lookup f >>= k) s := by
  cases r with
  | ok a => exact (h a rfl).imp fun v hv => hv.lookup_bind hf
  | error e =>
    refine ⟨.error e, fun s' hg => ⟨.refl s', ?_⟩⟩
    show (Program.bind (.done (f s')) _).Settled c _ s'
    rw [hf s' hg]
    rfl

end Settles

namespace Serves

theorem of_settles {h : Handler Http.Response} (hh : ∀ s, s.Sound c → Settles c h s) :
    Serves c h := by
  intro act next he s hs
  obtain ⟨v, hv⟩ := hh s hs
  rw [Settled, he] at hv
  obtain ⟨hr, hn⟩ := hv.next hs
  exact ⟨v, .redrawn hs hr, hn⟩

theorem pure (r : Http.Response) : Serves c (pure r) := of_settles fun _ _ => .pure r

theorem throw (f : Fault) : Serves c (throw f) := of_settles fun _ _ => .throw f

theorem liftExcept (r : Except Fault Http.Response) : Serves c (liftExcept r) :=
  of_settles fun _ _ => .liftExcept r

theorem liftExcept_bind {r : Except Fault α} (h : ∀ a, r = .ok a → Serves c (k a)) :
    Serves c (Handler.liftExcept r >>= k) := by
  cases r with
  | ok a => exact h a rfl
  | error f => exact .throw f

theorem atomically_bind {f : CloudState → Except Fault α × CloudState}
    (h : ∀ s, s.Sound c → s.Grows c (f s).2 ∧
      ∀ a, (f s).1 = .ok a → Settles c (k a) (f s).2) : Serves c (atomically f >>= k) := by
  rintro act next ⟨⟩ s hs
  obtain ⟨hg, hk⟩ := h s hs
  show ∃ v, _ ∧ (Program.bind (.done (f s).1) _).Settled c _ _
  cases hf : (f s).1 with
  | ok a =>
    obtain ⟨v, hv⟩ := hk a hf
    exact ⟨v, hg, hv⟩
  | error e => exact ⟨.error e, hg, rfl⟩

theorem lookup_bind {f : CloudState → Except Fault α}
    (h : ∀ s, s.Sound c → ∀ a, f s = .ok a → Settles c (k a) s) :
    Serves c (lookup f >>= k) :=
  atomically_bind (f := fun s => (f s, s)) fun s hs => ⟨.refl hs, h s hs⟩

theorem look_bind {f : CloudState → α} (h : ∀ s, s.Sound c → Settles c (k (f s)) s) :
    Serves c (look f >>= k) := by
  refine lookup_bind (f := fun s => .ok (f s)) ?_
  rintro s hs _ ⟨⟩
  exact h s hs

end Serves

end Handler

variable {c : Configuration} {s : CloudState}

namespace Google

open Handler (Serves Settles)

theorem settles_operation (now : Timestamp) (project zone : String) (target : ComputeInstance) :
    Settles c (do
      let names ← ExceptT.lift (Program.step operationNames)
      return .json 200
        ((operationFor now project zone target names.1 names.2).encode .ofFields)) s := by
  refine ⟨.ok (.operation now project zone target), fun s' _ => ⟨?_, ?_⟩⟩
  · exact (s'.redrawn_draw (·.digits 19)).trans (CloudState.redrawn_draw _ Generator.uuid)
  · exact ⟨(operationNames s').1.1, (operationNames s').1.2, rfl⟩

theorem create_serves (c : Configuration) (resource : String) (call : Call) :
    Serves c (create c resource call) := by
  unfold create
  by_cases hr : resource = "instances"
  · simp only [hr, ne_eq, not_true_eq_false, if_false]
    refine .liftExcept_bind fun project _ => .liftExcept_bind fun zone _ => ?_
    cases call.body with
    | none => exact .throw _
    | some body =>
      simp only [insert, bind_assoc]
      refine .liftExcept_bind fun d hd => .atomically_bind fun s hs => ?_
      rcases d.create_cases hs.pool hd with ⟨id, nics, s', hx, ha⟩ | ⟨f, s', hx, hk, -⟩
      · rw [hx]
        refine ⟨.added hs ha, ?_⟩
        intro i _
        exact settles_operation call.now project zone (describe project i)
      · rw [hx]
        exact ⟨.kept hs hk, nofun⟩
  · simp only [hr, ne_eq, not_false_eq_true, if_true]
    exact .throw _

theorem list_serves (c : Configuration) (resource : String) (call : Call) :
    Serves c (list resource call) := by
  refine .liftExcept_bind fun project _ => .liftExcept_bind fun zone _ => ?_
  split
  · exact .look_bind fun _ _ => .liftExcept _
  · exact .liftExcept _
  · exact .throw _

theorem get_serves (c : Configuration) (resource : String) (call : Call) :
    Serves c (get resource call) := by
  refine .liftExcept_bind fun project _ => .liftExcept_bind fun zone _ => ?_
  split
  · exact .liftExcept_bind fun name _ => .lookup_bind fun _ _ i _ => .pure _
  · refine .liftExcept_bind fun name _ => ?_
    split
    · exact .throw _
    · exact .pure _
  · exact .throw _

end Google

namespace Azure

open Handler (Serves Settles)

theorem create_serves (c : Configuration) (call : Call) : Serves c (create c call) := by
  unfold create
  cases call.body with
  | none => exact .throw _
  | some body =>
    refine .liftExcept_bind fun subscription _ => .liftExcept_bind fun group _ =>
      .liftExcept_bind fun name _ => ?_
    simp only [put, bind_assoc]
    refine .liftExcept_bind fun d hd => .atomically_bind fun s hs => ?_
    rcases d.create_cases hs.pool hd with ⟨id, nic, a, s', hx, ha⟩ | ⟨f, s', hx, hk, -⟩
    · rw [hx]
      exact ⟨.added hs ha, fun i _ => .liftExcept_bind fun m _ => .pure _⟩
    · rw [hx]
      exact ⟨.kept hs hk, nofun⟩

theorem list_serves (c : Configuration) (call : Call) : Serves c (list c call) :=
  .liftExcept_bind fun _ _ => .liftExcept_bind fun _ _ => .look_bind fun _ _ => .liftExcept _

theorem get_serves (c : Configuration) (call : Call) : Serves c (get call) :=
  .liftExcept_bind fun _ _ => .liftExcept_bind fun _ _ => .liftExcept_bind fun _ _ =>
    .lookup_bind fun _ _ _ _ => .liftExcept_bind fun _ _ => .pure _

theorem handler_serves (c : Configuration) (verb : Verb) (name : String) (call : Call) :
    Serves c (handler c verb name call) := by
  unfold handler
  split
  · exact .throw _
  · split
    · exact .pure _
    · cases verb with
      | create => exact create_serves c call
      | list => exact list_serves c call
      | get => exact get_serves c call

end Azure

namespace Oracle

open Handler (Serves Settled Settles)

theorem settles_reply (status : Nat) (body : Json) (s : CloudState) :
    (reply status body).Settled c (Verdict.numbered status body []).Admits s :=
  fun s' _ => ⟨s'.redrawn_draw Generator.plainUuid, (s'.draw Generator.plainUuid).1, rfl⟩

theorem settled_answer (body : Json) (s : CloudState) :
    Settled c (.ok (.numbered 200 body [])) (answer body) s :=
  fun s' _ => ⟨s'.redrawn_draw Generator.plainUuid, (s'.draw Generator.plainUuid).1, rfl⟩

theorem settles_replyPage (call : Call) (items : List Json) (s : CloudState) :
    Settles c (replyPage call items) s := by
  refine .liftExcept_bind fun limit _ => .liftExcept_bind fun p _ => ?_
  cases hn : p.next with
  | none =>
    exact ⟨.ok (.numbered 200 (.array p.items) []), fun s' _ =>
      ⟨s'.redrawn_draw Generator.plainUuid, (s'.draw Generator.plainUuid).1, rfl⟩⟩
  | some token =>
    exact ⟨.ok (.numbered 200 (.array p.items) [("opc-next-page", token)]),
      fun s' _ => ⟨s'.redrawn_draw Generator.plainUuid, (s'.draw Generator.plainUuid).1, rfl⟩⟩

theorem create_serves (c : Configuration) (resource : String) (call : Call) :
    Serves c (create c resource call) := by
  unfold create
  by_cases hr : resource = "instances"
  · simp only [hr, ne_eq, not_true_eq_false, if_false]
    cases call.body with
    | none => exact .throw _
    | some body =>
      simp only [launch, bind_assoc]
      refine .liftExcept_bind fun d hd => .atomically_bind fun s hs => ?_
      rcases d.launch_cases hs hd with ⟨id, vnic, attachment, a, s', hx, ha⟩ | ⟨f, s', hx, hk⟩
      · rw [hx]
        exact ⟨.added hs ha, fun i _ => .liftExcept_bind fun m _ => ⟨_, settled_answer _ _⟩⟩
      · rw [hx]
        exact ⟨.kept hs hk, nofun⟩
  · simp only [hr, ne_eq, not_false_eq_true, if_true]
    exact .throw _

theorem list_serves (c : Configuration) (resource : String) (call : Call) :
    Serves c (list c resource call) := by
  unfold list
  split
  · exact .liftExcept_bind fun _ _ => .look_bind fun _ _ => .liftExcept_bind fun _ _ =>
      settles_replyPage _ _ _
  · exact .liftExcept_bind fun _ _ => .look_bind fun _ _ => settles_replyPage _ _ _
  · exact .liftExcept_bind fun _ _ => .of_settles fun _ _ => settles_replyPage _ _ _
  · exact .throw _

/-- The instance that a locator leads to is there from when the locator is, or never. -/
theorem get_of_located {l : Locator} (hs : s.Sound c) (hl : l ∈ s.locators.list tenancy)
    {id : String} (hid : id = l.identity ∨ l.owner = some id) :
    ∃ r, ∀ s', s.Grows c s' → s'.instances.get l.home id = r := by
  obtain ⟨compartment, i, hi, rfl | ⟨nic, hn, rfl⟩⟩ := (mem_locators hs).mp hl
  · have he : id = i.identity := hid.resolve_right nofun
    subst he
    exact ⟨.ok i, fun s' hg => get_instance hg.sound (hg.mem_list hi)⟩
  · rcases hid with rfl | hid
    · refine ⟨.error (.notFound nic.id (.oracle compartment)), fun s' hg => ?_⟩
      refine Store.get_eq_notFound (Store.has_eq_false_iff.mpr ?_)
      intro hm
      obtain ⟨j, hj, he⟩ := List.mem_map.mp hm
      -- An instance of that identity would have a locator beside that of the interface.
      have h₁ := (mem_locators hg.sound).mpr
        ⟨compartment, i, hg.mem_list hi, .inr ⟨nic, hn, rfl⟩⟩
      have h₂ := (mem_locators hg.sound).mpr ⟨compartment, j, hj, .inl rfl⟩
      have hsame := List.inj_on_of_nodup_map hg.sound.identified h₁ h₂ he.symm
      cases congrArg Locator.owner hsame
    · cases hid
      exact ⟨.ok i, fun s' hg => get_instance hg.sound (hg.mem_list hi)⟩

theorem getInstance_serves (c : Configuration) (call : Call) : Serves c (getInstance c call) := by
  refine .liftExcept_bind fun id _ => .lookup_bind fun s hs l hl => ?_
  obtain ⟨hm, he⟩ := (Store.get_eq_ok_iff hs.identified).mp hl
  obtain ⟨r, hr⟩ := get_of_located hs hm (.inl he.symm)
  exact .lookup_bind hr fun i _ => .liftExcept_bind fun _ _ => ⟨_, settled_answer _ _⟩

theorem getVnic_serves (c : Configuration) (call : Call) : Serves c (getVnic call) := by
  refine .liftExcept_bind fun id _ => .lookup_bind fun s hs l hl => ?_
  obtain ⟨hm, -⟩ := (Store.get_eq_ok_iff hs.identified).mp hl
  cases ho : l.owner with
  | none => exact .throw _
  | some owner =>
    obtain ⟨r, hr⟩ := get_of_located hs hm (.inr ho)
    refine .lookup_bind hr fun i _ => ?_
    cases describeVnic l.home i id with
    | none => exact .throw _
    | some vnic => exact ⟨_, settled_answer _ _⟩

variable {compartment : String} {i : Instance} {nic : Nic} {call : Call}

/-- What looks an instance up that is recorded. -/
theorem getInstance_settled (hs : s.Sound c) (hx : call.params.get? "instanceId" = some i.identity)
    (hi : i ∈ s.instances.list (.oracle compartment)) :
    ∃ body, Settled c (.ok (.numbered 200 body [])) (getInstance c call) s := by
  obtain ⟨details, hd⟩ := described (hs.made _ i hi)
  refine ⟨(assigned c i details).encode .ofFields, ?_⟩
  unfold getInstance
  rw [Call.param_eq_ok.mpr hx]
  refine Settled.lookup_bind (a := ⟨i.identity, .oracle compartment, none⟩) ?_ fun s' hg =>
    get_locator hg.sound ((mem_locators hg.sound).mpr ⟨compartment, i, hg.mem_list hi, .inl rfl⟩)
  refine Settled.lookup_bind (a := i) ?_ fun s' hg => get_instance hg.sound (hg.mem_list hi)
  rw [hd]
  exact settled_answer _ _

theorem getVnic_settled (hs : s.Sound c) (hx : call.params.get? "vnicId" = some nic.id)
    (hi : i ∈ s.instances.list (.oracle compartment)) (hn : nic ∈ i.nics) :
    ∃ body, Settled c (.ok (.numbered 200 body [])) (getVnic call) s := by
  obtain ⟨-, nic', -, hnics, -⟩ := made_shape (hs.made _ i hi)
  have hsingle : i.nics = [nic] := by
    rw [hnics] at hn ⊢
    rw [List.mem_singleton.mp hn]
  refine ⟨(Vnic.mk nic.id compartment i.placement i.name nic.address.text true "AVAILABLE"
    i.createdAt).encode .ofFields, ?_⟩
  unfold getVnic
  rw [Call.param_eq_ok.mpr hx]
  refine Settled.lookup_bind (a := ⟨nic.id, .oracle compartment, some i.identity⟩) ?_
    fun s' hg => get_locator hg.sound ((mem_locators hg.sound).mpr
      ⟨compartment, i, hg.mem_list hi, .inr ⟨nic, hn, rfl⟩⟩)
  refine Settled.lookup_bind (a := i) ?_ fun s' hg => get_instance hg.sound (hg.mem_list hi)
  rw [describeVnic_of_single hsingle]
  exact settled_answer _ _

theorem get_serves (c : Configuration) (resource : String) (call : Call) :
    Serves c (get c resource call) := by
  unfold get
  split
  · exact getInstance_serves c call
  · exact getVnic_serves c call
  · exact .throw _

end Oracle

namespace Provider

theorem handle_serves (p : Provider) (c : Configuration) (now : Timestamp) (r : Http.Request) :
    Handler.Serves c ((p.emulator c).handle now r) := by
  cases hr : p.route? r with
  | none =>
    rw [handle_of_unrouted hr]
    exact .throw _
  | some routed =>
    obtain ⟨⟨method, template, resource, verb⟩, params⟩ := routed
    rw [handle_of_routed hr]
    cases p with
    | google =>
      cases verb with
      | create => exact Google.create_serves c resource _
      | list => exact Google.list_serves c resource _
      | get => exact Google.get_serves c resource _
    | azure => exact Azure.handler_serves c verb resource _
    | oracle =>
      cases verb with
      | create => exact Oracle.create_serves c resource _
      | list => exact Oracle.list_serves c resource _
      | get => exact Oracle.get_serves c resource _

theorem refusal_settled (p : Provider) (c : Configuration) (f : Fault) :
    ∃ v : Verdict, ∀ s, ((p.emulator c).refusal f).Settled c v.Admits s := by
  cases p with
  | google => exact ⟨.plain (Google.refusal f), fun _ => rfl⟩
  | azure => exact ⟨.plain (Azure.refusal f), fun _ => rfl⟩
  | oracle => exact ⟨_, Oracle.settles_reply f.status _⟩

/-- The answer that a handler's result leads to. -/
def answered (p : Provider) (c : Configuration) :
    Except Fault Http.Response → Program CloudState Http.Response
  | .ok response => .done response
  | .error f => (p.emulator c).refusal f

theorem respond_eq_bind (p : Provider) (c : Configuration) (now : Timestamp) (r : Http.Request) :
    (p.emulator c).respond now r =
      (ExceptT.run ((p.emulator c).handle now r)).bind (p.answered c) := rfl

theorem answered_settled (p : Provider) (o : Except Fault Verdict) :
    ∃ v : Verdict, ∀ result s, Verdict.Concludes o result →
      (p.answered c result).Settled c v.Admits s := by
  cases o with
  | ok v =>
    refine ⟨v, fun result s h => ?_⟩
    cases result with
    | ok response => exact h
    | error f => cases h
  | error f =>
    obtain ⟨v, hv⟩ := p.refusal_settled c f
    refine ⟨v, fun result s h => ?_⟩
    cases result with
    | ok response => cases h
    | error f' =>
      cases h
      exact hv s

theorem respond_serves (p : Provider) (c : Configuration) (now : Timestamp) (r : Http.Request) :
    ((p.emulator c).respond now r).Serves c Verdict.Admits := by
  rw [respond_eq_bind]
  have hserves : (ExceptT.run ((p.emulator c).handle now r)).Serves c Verdict.Concludes :=
    p.handle_serves c now r
  cases hh : ExceptT.run ((p.emulator c).handle now r) with
  | done result =>
    -- Without a section of the handler the first section is that of the refusal.
    cases result with
    | ok response => rintro act next ⟨⟩
    | error f =>
      intro act next he s hs
      obtain ⟨v, hv⟩ := p.refusal_settled c f
      have hset := hv s
      rw [show (p.emulator c).refusal f = .atomic act next from he] at hset
      obtain ⟨hr, hn⟩ := hset.next hs
      exact ⟨v, .redrawn hs hr, hn⟩
  | atomic act next =>
    rintro act' next' ⟨⟩ s hs
    obtain ⟨o, hg, hn⟩ := hserves act next hh s hs
    obtain ⟨v, hv⟩ := p.answered_settled (c := c) o
    exact ⟨v, hg, hn.bind hg.sound fun result t ho _ => hv result t ho⟩

/-- A handler's settled response is what the request is answered with. -/
theorem respond_settled {p : Provider} {now : Timestamp} {r : Http.Request} {v : Verdict}
    (hs : s.Sound c) (h : Handler.Settled c (.ok v) ((p.emulator c).handle now r) s) :
    ((p.emulator c).respond now r).Settled c v.Admits s := by
  rw [respond_eq_bind]
  refine Program.Settled.bind h hs fun result t ho _ => ?_
  cases result with
  | ok response => exact ho
  | error f => cases ho

end Provider

end CloudEmulation
