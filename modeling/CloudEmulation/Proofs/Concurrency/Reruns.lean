import CloudEmulation.Proofs.Cloud.Times
import CloudEmulation.Proofs.Concurrency.Reads
/-!
The same requests one after another, at other times and with other identifiers. Answers and
instances are the same up to those, where no request asks for anything by what is generated.
-/

namespace CloudEmulation

variable {c : Configuration} {s s' base : CloudState} {p : Provider} {r : Http.Request}
  {now now' : Timestamp} {ids ids' : List String} {g : Generator}

open Http.Response (Comparable)

/-- What is done at once takes a section. -/
theorem Handler.exists_section {α β : Type} (f : CloudState → Except Fault α × CloudState)
    (k : α → Handler β) :
    ∃ act next, ExceptT.run (Handler.atomically f >>= k) = .atomic act next := ⟨_, _, rfl⟩

namespace Oracle

theorem Draft.identity_of_launch {body : Json} {d : Draft} {i : Instance} {l : Locator}
    (hs : s.Sound c) (hd : ofBody c now body = .ok d) (h : d.launch s = (.ok i, s'))
    (hl : l ∈ d.scope.located i) : l.identity ∈ generated d.region s.generator := by
  obtain ⟨id, vnic, attachment, t, hg, hne, ht, he⟩ := d.launch_eq s
  rw [h] at he
  split at he
  · cases he
  · rename_i hi
    split at he
    · cases he
    · rename_i hv
      rcases d.place_cases (hs.redrawn ht) hd hne (Bool.not_eq_true _ ▸ hi)
        (Bool.not_eq_true _ ▸ hv) attachment with ⟨a, t', hp, -⟩ | ⟨t', hp, -⟩
      · cases he.trans hp
        rw [Draft.scope_located] at hl
        rw [hg]
        rcases List.mem_pair.mp hl with rfl | rfl
        · exact List.mem_cons_self
        · exact List.mem_cons_of_mem _ List.mem_cons_self
      · cases he.trans hp

/-- Whether a request asks for a launch, and nothing in it is wrong. -/
def launches (c : Configuration) (now : Timestamp) (r : Http.Request) : Bool :=
  (Provider.oracle.route? r).any (·.1.verb = .create) &&
    r.body.any fun body => (Draft.ofBody c now body).isOk

theorem exists_section (call : Call) {body : Json} {d : Draft} (hb : call.body = some body)
    (hd : Draft.ofBody c call.now body = .ok d) :
    ∃ act next, ExceptT.run (create c "instances" call) = .atomic act next := by
  unfold create
  simp only [ne_eq, not_true_eq_false, if_false, hb, launch, hd, bind_assoc,
    Handler.liftExcept_ok_bind]
  exact Handler.exists_section _ _

end Oracle

namespace Provider

/-- The identifiers that are generated for an Oracle instance and its interface. -/
def ocids (p : Provider) (c : Configuration) (now : Timestamp) (r : Http.Request)
    (g : Generator) : List String :=
  if p = .oracle ∧ Oracle.launches c now r then Oracle.generated c.oracleRegion g else []

theorem ocids_of_ne (h : p ≠ .oracle) (c : Configuration) (now : Timestamp) (r : Http.Request)
    (g : Generator) : p.ocids c now r g = [] := if_neg fun k => h k.1

theorem ocids_of_draft {route : Route} {params : Params} {body : Json} {d : Oracle.Draft}
    (hr : oracle.route? r = some (route, params)) (hv : route.verb = .create)
    (hb : r.body = some body) (hd : Oracle.Draft.ofBody c now body = .ok d) (g : Generator) :
    oracle.ocids c now r g = Oracle.generated d.region g := by
  have hl : Oracle.launches c now r = true := by
    simp [Oracle.launches, hr, hv, hb, hd, Except.isOk, Except.toBool]
  obtain ⟨request, details, -, -, rfl⟩ := Oracle.Draft.ofBody_eq_ok hd
  rw [ocids, if_pos ⟨rfl, hl⟩]

/-- Generating identifiers takes a section. -/
theorem ocids_of_done {answer : Http.Response} (h : (p.emulator c).respond now r = .done answer)
    (g : Generator) : p.ocids c now r g = [] := by
  unfold ocids
  split
  · rename_i hl
    obtain ⟨rfl, hl⟩ := hl
    simp only [Oracle.launches, Bool.and_eq_true, Option.any_eq_true, decide_eq_true_eq] at hl
    obtain ⟨⟨⟨route, params⟩, hr, hv⟩, body, hb, hd⟩ := hl
    cases hdraft : Oracle.Draft.ofBody c now body with
    | error f =>
      rw [hdraft] at hd
      cases hd
    | ok d =>
      have hresource := oracle.routes_create route (mem_routes hr).1 hv
      have hc : (oracle.emulator c).handle now r =
          Oracle.create c "instances" (r.call params now) := by
        rw [handle_of_routed hr, hv, hresource]
        rfl
      obtain ⟨act, next, ha⟩ := Oracle.exists_section (r.call params now) hb hdraft
      rw [respond_eq_bind, hc, ha] at h
      cases h
  · rfl

/-- What identifiers lead to was there before, or the request generated them. -/
theorem drawn (hs : s.Sound c) (p : Provider) (now : Timestamp) (r : Http.Request) :
    ∀ l ∈ (((p.emulator c).respond now r).run s).2.locators.list Oracle.tenancy,
      l ∈ s.locators.list Oracle.tenancy ∨ l.identity ∈ p.ocids c now r s.generator := by
  intro l hl
  cases outcome hs p now r with
  | kept _ _ hk => exact .inl (hk.locators ▸ hl)
  | @added route params scope i hr hv _ hsucc hp _ ha =>
    rw [ha.list_locators, if_pos rfl] at hl
    refine (List.mem_append.mp hl).imp_right fun hl => ?_
    cases scope with
    | oracle compartment =>
      obtain rfl : p = .oracle := hp.symm
      have hrouted : oracle.Routed r .create oracle.machines params :=
        ⟨route, hr, hv, oracle.routes_create route (mem_routes hr).1 hv⟩
      obtain ⟨body, d, j, m, t, hb, hd, hj, hinstances, -, -⟩ :=
        Oracle.create_eq_ok (hrouted.exec_of_success hsucc)
      have hgenerated : oracle.ocids c now r s.generator = _ := ocids_of_draft hr hv hb hd _
      rw [hgenerated]
      rcases d.launch_cases hs hd with ⟨id, vnic, attachment, a, t', hx, ha'⟩ | ⟨f, t', hx, -⟩
      · -- The record that the response tells of is the one that was launched.
        cases hj.symm.trans hx
        obtain ⟨hscope, rfl⟩ :=
          Store.append_inj (ha.instances.symm.trans (hinstances.trans ha'.instances))
        exact Oracle.Draft.identity_of_launch hs hd hj (hscope ▸ hl)
      · cases hj.symm.trans hx
    | _ => cases hl

/-- The texts in which a request can name an identifier. -/
def named (p : Provider) (r : Http.Request) : List String :=
  if p = .oracle then
    (r.query? "instanceId").toList ++ ((p.route? r).map (·.2.map Prod.snd)).getD []
  else []

/-- Whether a request's filter tells no instances apart that differ in what is generated. -/
def Impartial (p : Provider) (c : Configuration) (r : Http.Request) : Prop :=
  ∀ scope i j, scope.provider = p → c.Makes scope i → c.Makes scope j →
    scope.bare i = scope.bare j →
    scope.condition r (scope.view c i) = scope.condition r (scope.view c j)

theorem mem_named_query {x : String} (h : r.query? "instanceId" = some x) : x ∈ oracle.named r := by
  rw [named, if_pos rfl, h]
  exact List.mem_append_left _ List.mem_cons_self

theorem mem_named_param {route : Route} {params : Params} {name x : String}
    (hr : oracle.route? r = some (route, params)) (h : params.get? name = some x) :
    x ∈ oracle.named r := by
  rw [named, if_pos rfl, hr]
  obtain ⟨entry, hentry, rfl⟩ := Option.map_eq_some_iff.mp h
  exact List.mem_append_right _
    (List.mem_map_of_mem (List.mem_reverse.mp (List.mem_of_find?_eq_some hentry)))

theorem azure_inStep (h : s.Twins c s') (verb : Verb) (resource : String) (call : Call)
    (now' : Timestamp) :
    Handler.InStep c Comparable s s' (Azure.handler c verb resource call)
      (Azure.handler c verb resource { call with now := now' }) := by
  have hsame : Azure.hasVersion { call with now := now' } = Azure.hasVersion call := rfl
  unfold Azure.handler
  rw [hsame]
  split
  · exact .throw h _
  · split
    · exact .pure h (.refl _)
    · cases verb with
      | create => exact Azure.create_inStep h call now'
      | list => exact Azure.list_inStep h call
      | get => exact Azure.get_inStep h call

/-- A launch is handled alike where the identifiers generated for it lead nowhere yet. -/
theorem launch_inStep {route : Route} {params : Params} (h : s.Twins c s')
    (hr : oracle.route? r = some (route, params)) (hv : route.verb = .create)
    (hf : ∀ x ∈ oracle.ocids c now r s.generator, s.locators.has Oracle.tenancy x = false)
    (hf' : ∀ x ∈ oracle.ocids c now' r s'.generator, s'.locators.has Oracle.tenancy x = false) :
    Handler.InStep c Comparable s s' (Oracle.create c route.resource (r.call params now))
      (Oracle.create c route.resource (r.call params now')) := by
  refine Oracle.create_inStep h route.resource (r.call params now) now' ?_ ?_
  · intro body d hb hd x hx
    exact hf x (ocids_of_draft hr hv hb hd _ ▸ hx)
  · intro body d hb hd x hx
    have hd' : Oracle.Draft.ofBody c now' body = .ok (d.at now') := by
      rw [Oracle.Draft.ofBody_at c now now', show Oracle.Draft.ofBody c now body = _ from hd]
      rfl
    exact hf' x (ocids_of_draft hr hv hb hd' _ ▸ hx)

theorem handle_inStep (h : s.Twins c s') (k : base.Since c ids s) (k' : base.Since c ids' s')
    (hi : p.Impartial c r) (hn : ∀ x ∈ p.named r, x ∉ ids ∧ x ∉ ids')
    (hf : ∀ x ∈ p.ocids c now r s.generator, s.locators.has Oracle.tenancy x = false)
    (hf' : ∀ x ∈ p.ocids c now' r s'.generator, s'.locators.has Oracle.tenancy x = false) :
    Handler.InStep c Comparable s s' ((p.emulator c).handle now r)
      ((p.emulator c).handle now' r) := by
  cases hr : p.route? r with
  | none =>
    rw [handle_of_unrouted hr, handle_of_unrouted hr]
    exact .throw h _
  | some routed =>
    obtain ⟨⟨method, template, resource, verb⟩, params⟩ := routed
    rw [handle_of_routed hr, handle_of_routed hr]
    cases p with
    | google =>
      cases verb with
      | create => exact Google.create_inStep h resource (r.call params now) now'
      | list => exact Google.list_inStep h (fun project zone i j => hi _ i j rfl) resource
      | get => exact Google.get_inStep h resource (r.call params now)
    | azure => exact azure_inStep h verb resource (r.call params now) now'
    | oracle =>
      cases verb with
      | create => exact launch_inStep h hr rfl hf hf'
      | list =>
        exact Oracle.list_inStep h k k' (fun compartment i j => hi _ i j rfl)
          (fun x hx => hn x (mem_named_query hx)) resource
      | get => exact Oracle.get_inStep h k k' (fun _ x hx => hn x (mem_named_param hr hx)) resource

theorem refusal_inStep (h : s.Twins c s') (p : Provider) (f : Fault) :
    (((p.emulator c).refusal f).run s).1.Comparable (((p.emulator c).refusal f).run s').1 ∧
      (((p.emulator c).refusal f).run s).2.Twins c (((p.emulator c).refusal f).run s').2 := by
  cases p with
  | google => exact ⟨.refl _, h⟩
  | azure => exact ⟨.refl _, h⟩
  | oracle => exact Oracle.reply_inStep h f.status _

/-- A request is answered alike in states that differ in what was generated. -/
theorem respond_inStep (h : s.Twins c s') (k : base.Since c ids s) (k' : base.Since c ids' s')
    (hi : p.Impartial c r) (hn : ∀ x ∈ p.named r, x ∉ ids ∧ x ∉ ids')
    (hf : ∀ x ∈ p.ocids c now r s.generator, s.locators.has Oracle.tenancy x = false)
    (hf' : ∀ x ∈ p.ocids c now' r s'.generator, s'.locators.has Oracle.tenancy x = false) :
    (((p.emulator c).respond now r).run s).1.Comparable
        (((p.emulator c).respond now' r).run s').1 ∧
      (((p.emulator c).respond now r).run s).2.Twins c
        (((p.emulator c).respond now' r).run s').2 := by
  obtain ⟨hresult, hstate⟩ := handle_inStep h k k' hi hn hf hf'
  rw [Emulator.run_respond, Emulator.run_respond]
  cases hx : ((p.emulator c).handle now r).exec s with
  | mk result t =>
    cases hx' : ((p.emulator c).handle now' r).exec s' with
    | mk result' t' =>
      rw [hx, hx'] at hresult hstate
      cases hresult with
      | ok hab => exact ⟨hab, hstate⟩
      | error f => exact p.refusal_inStep hstate f

end Provider

namespace CloudState

/-- Whether no two identifiers coincide of those that lead somewhere and further ones. -/
def Apart (s : CloudState) (ids : List String) : Prop :=
  ((s.locators.list Oracle.tenancy).map Locator.identity ++ ids).Nodup

theorem Apart.left {more : List String} (h : s.Apart (ids ++ more)) : s.Apart ids :=
  h.sublist ((List.sublist_append_left ids more).append_left _)

namespace Since

theorem redrawn (h : base.Since c ids s) (k : s.Redrawn s') : base.Since c ids s' where
  start := h.start
  grows := h.grows.trans (.redrawn h.grows.sound k)
  drawn := k.locators ▸ h.drawn

theorem respond (h : base.Since c ids s) (p : Provider) (now : Timestamp) (r : Http.Request) :
    base.Since c (ids ++ p.ocids c now r s.generator) (((p.emulator c).respond now r).run s).2 where
  start := h.start
  grows := h.grows.trans ((p.respond_serves c now r).grows_run h.grows.sound)
  drawn := by
    intro l hl
    rcases p.drawn h.grows.sound now r l hl with hl | hl
    · exact (h.drawn l hl).imp_right (List.mem_append_left _)
    · exact .inr (List.mem_append_right _ hl)

theorem unlocated (h : base.Since c ids s) {more : List String} (ha : base.Apart (ids ++ more)) :
    ∀ x ∈ more, s.locators.has Oracle.tenancy x = false := by
  intro x hx
  obtain ⟨-, hids, hbase⟩ := List.nodup_append.mp ha
  rw [Store.has_eq_false_iff]
  intro hm
  obtain ⟨l, hl, rfl⟩ := List.mem_map.mp hm
  rcases h.drawn l hl with hl | hl
  · exact hbase _ (List.mem_map_of_mem hl) _ (List.mem_append_right _ hx) rfl
  · exact (List.nodup_append.mp hids).2.2 _ hl _ hx rfl

end Since

end CloudState

/-- Requests to emulators of one cloud. -/
structure Batch (ι : Type) where
  provider : ι → Provider
  request : ι → Http.Request

namespace Batch

variable {ι : Type} {b : Batch ι} {times times' : ι → Timestamp}
  {seed seed' : ι → Generator → Generator} {order : List ι}

/-- What emulators do about the requests, each at its time. -/
def programs (b : Batch ι) (c : Configuration) (times : ι → Timestamp) (i : ι) :
    Program CloudState Http.Response :=
  ((b.provider i).emulator c).respond (times i) (b.request i)

def ocids (b : Batch ι) (c : Configuration) (times : ι → Timestamp) (i : ι) (g : Generator) :
    List String :=
  (b.provider i).ocids c (times i) (b.request i) g

/-- The identifiers that were generated while requests were handled one after another. -/
def generated (b : Batch ι) (c : Configuration) (times : ι → Timestamp)
    (entries : List (ι × Generator × Http.Response)) : List String :=
  entries.flatMap fun e => b.ocids c times e.1 e.2.1

/-- The texts in which requests can name identifiers. -/
def named (b : Batch ι) (i : ι) : List String := (b.provider i).named (b.request i)

/-- Requests one after another are answered alike, whatever is generated for them. -/
theorem rerun (h : s.Twins c s') (k : base.Since c ids s) (k' : base.Since c ids' s')
    (hi : ∀ i ∈ order, (b.provider i).Impartial c (b.request i))
    (ha : base.Apart (ids ++ b.generated c times (serve (b.programs c times) seed order s).1))
    (ha' : base.Apart
      (ids' ++ b.generated c times' (serve (b.programs c times') seed' order s').1))
    (hn : ∀ i ∈ order, ∀ x ∈ b.named i,
      x ∉ ids ++ b.generated c times (serve (b.programs c times) seed order s).1 ∧
      x ∉ ids' ++ b.generated c times' (serve (b.programs c times') seed' order s').1) :
    List.Forall₂ (fun e e' => e.1 = e'.1 ∧ e.2.2.Comparable e'.2.2)
        (serve (b.programs c times) seed order s).1
        (serve (b.programs c times') seed' order s').1 ∧
      (serve (b.programs c times) seed order s).2.Twins c
        (serve (b.programs c times') seed' order s').2 := by
  -- Before each request both states get generators of their own, and what was generated so far is
  -- kept apart from what both clouds began with.
  induction order generalizing s s' ids ids' with
  | nil => exact ⟨.nil, h⟩
  | cons i rest ih =>
    have hr := s.redrawn_with (seed i s.generator)
    have hr' := s'.redrawn_with (seed' i s'.generator)
    have h₀ := h.kept (hr.kept h.left.pool) (hr'.kept h.right.pool)
    have k₀ := k.redrawn hr
    have k₀' := k'.redrawn hr'
    simp only [serve, generated, List.flatMap_cons, ← List.append_assoc] at ha ha' hn ⊢
    have hfirst := List.forall_mem_cons.mp hn
    have hnamed : ∀ x ∈ b.named i, x ∉ ids ∧ x ∉ ids' := fun x hx =>
      ⟨fun hm => (hfirst.1 x hx).1 (by simp [hm]), fun hm => (hfirst.1 x hx).2 (by simp [hm])⟩
    obtain ⟨hanswer, hstate⟩ := Provider.respond_inStep h₀ k₀ k₀' (hi i List.mem_cons_self) hnamed
      (k₀.unlocated ha.left) (k₀'.unlocated ha'.left)
    obtain ⟨hrest, hend⟩ := ih hstate (k₀.respond _ _ _) (k₀'.respond _ _ _)
      (fun j hj => hi j (List.mem_cons_of_mem _ hj)) ha ha' hfirst.2
    exact ⟨.cons ⟨rfl, hanswer⟩ hrest, hend⟩

end Batch

end CloudEmulation
