import CloudEmulation.Proofs.Concurrency.Erasure
import CloudEmulation.Proofs.Emulation.Responses
/-!
One request handled in two states that differ in what was generated. Creating comes to the same
there, up to what it generates itself.
-/

namespace CloudEmulation

/-- The same fault, or results that are related. -/
inductive Except.Matches {ε α β : Type} (rel : α → β → Prop) : Except ε α → Except ε β → Prop
  | ok {a b} : rel a b → Matches rel (.ok a) (.ok b)
  | error (e : ε) : Matches rel (.error e) (.error e)

theorem Except.Matches.imp {ε α β : Type} {rel rel' : α → β → Prop} {r : Except ε α}
    {r' : Except ε β} (h : Matches rel r r') (hrel : ∀ a b, rel a b → rel' a b) :
    Matches rel' r r' := by
  cases h with
  | ok h => exact .ok (hrel _ _ h)
  | error e => exact .error e

namespace Handler

variable {α β γ δ : Type} {c : Configuration} {s s' : CloudState} {rel : α → β → Prop}
  {rel' : γ → δ → Prop}

theorem liftExcept_ok_bind (a : α) (k : α → Handler γ) : (liftExcept (.ok a) >>= k) = k a := rfl

/-- Whether handlers come to related results, and their states differ as before. -/
structure InStep (c : Configuration) (rel : α → β → Prop) (s s' : CloudState) (h : Handler α)
    (h' : Handler β) : Prop where
  result : Except.Matches rel (h.exec s).1 (h'.exec s').1
  state : (h.exec s).2.Twins c (h'.exec s').2

namespace InStep

theorem of_exec {h : Handler α} {h' : Handler β} {r : Except Fault α} {r' : Except Fault β}
    {t t' : CloudState} (hx : h.exec s = (r, t)) (hx' : h'.exec s' = (r', t'))
    (hr : Except.Matches rel r r') (ht : t.Twins c t') : InStep c rel s s' h h' := by
  constructor
  · rwa [hx, hx']
  · rwa [hx, hx']

theorem bind {h : Handler α} {h' : Handler β} {k : α → Handler γ} {k' : β → Handler δ}
    (hh : InStep c rel s s' h h')
    (hk : ∀ a b t t', rel a b → t.Twins c t' → InStep c rel' t t' (k a) (k' b)) :
    InStep c rel' s s' (h >>= k) (h' >>= k') := by
  obtain ⟨hr, ht⟩ := hh
  cases hx : h.exec s with
  | mk r t =>
    cases hx' : h'.exec s' with
    | mk r' t' =>
      rw [hx, hx'] at hr ht
      cases hr with
      | @ok a b hab =>
        have hab' := hk a b t t' hab ht
        constructor
        · rw [exec_bind_ok _ hx, exec_bind_ok _ hx']
          exact hab'.result
        · rw [exec_bind_ok _ hx, exec_bind_ok _ hx']
          exact hab'.state
      | error f =>
        exact .of_exec (exec_bind_error _ hx) (exec_bind_error _ hx') (.error f) ht

theorem liftExcept (ht : s.Twins c s') {r : Except Fault α} {r' : Except Fault β}
    (h : Except.Matches rel r r') : InStep c rel s s' (liftExcept r) (liftExcept r') := ⟨h, ht⟩

theorem pure (ht : s.Twins c s') {a : α} {b : β} (h : rel a b) :
    InStep c rel s s' (pure a) (pure b) := ⟨.ok h, ht⟩

theorem throw (ht : s.Twins c s') (f : Fault) :
    InStep c rel s s' (throw f) (throw f) := ⟨.error f, ht⟩

theorem atomically {f : CloudState → Except Fault α × CloudState}
    {f' : CloudState → Except Fault β × CloudState} (h : Except.Matches rel (f s).1 (f' s').1)
    (ht : (f s).2.Twins c (f' s').2) : InStep c rel s s' (atomically f) (atomically f') := ⟨h, ht⟩

/-- Drawing identifiers. -/
theorem lift (ht : s.Twins c s') {p : Program CloudState α} {p' : Program CloudState β}
    (hk : s.Kept (p.run s).2) (hk' : s'.Kept (p'.run s').2)
    (h : rel (p.run s).1 (p'.run s').1) :
    InStep c rel s s' (ExceptT.lift p) (ExceptT.lift p') :=
  .of_exec (exec_lift p s) (exec_lift p' s') (.ok h) (ht.kept hk hk')

/-- What depends on the arguments only. -/
theorem liftExcept_bind (ht : s.Twins c s') (r : Except Fault α) {k : α → Handler γ}
    {k' : α → Handler δ} (hk : ∀ a, r = .ok a → InStep c rel' s s' (k a) (k' a)) :
    InStep c rel' s s' (Handler.liftExcept r >>= k) (Handler.liftExcept r >>= k') := by
  cases r with
  | ok a => exact hk a rfl
  | error f => exact .throw ht f

end InStep

end Handler

/-- The same status, and unless that tells of success also the same body. -/
structure Http.Response.Comparable (a b : Http.Response) : Prop where
  status : a.status = b.status
  body : a.isSuccess = false → a.body = b.body

namespace Http.Response.Comparable

theorem refl (a : Http.Response) : a.Comparable a := ⟨rfl, fun _ => rfl⟩

theorem of_success {a b : Http.Response} (hs : a.status = b.status) (ha : a.isSuccess = true) :
    a.Comparable b := by
  refine ⟨hs, fun h => ?_⟩
  rw [ha] at h
  cases h

theorem json {status : Nat} (hs : Http.isSuccess status = true) (a b : Json) :
    (Http.Response.json status a).Comparable (.json status b) := of_success rfl hs

end Http.Response.Comparable

namespace CloudState

variable {c : Configuration} {s s' : CloudState} {scope : Scope}
  {out out' : Except Fault Instance × CloudState}

/-- What creating an instance can do. -/
inductive Creates (c : Configuration) (s : CloudState) (scope : Scope) :
    Except Fault Instance × CloudState → Prop
  | added {i t} : s.Added c scope i t → Creates c s scope (.ok i, t)
  | kept {f t} : s.Kept t → Creates c s scope (.error f, t)

theorem Twins.created (h : s.Twins c s') (k : s.Creates c scope out) (k' : s'.Creates c scope out')
    (hm : Except.Matches (fun i j => scope.bare i = scope.bare j) out.1 out'.1) :
    out.2.Twins c out'.2 := by
  cases k with
  | added ha =>
    cases k' with
    | added ha' =>
      cases hm with
      | ok hb => exact h.added ha ha' hb
    | kept => cases hm
  | kept hk =>
    cases k' with
    | added => cases hm
    | kept hk' => exact h.kept hk hk'

end CloudState

namespace Google

open CloudState (Creates)

variable {c : Configuration} {s s' : CloudState} {d : Draft} {now : Timestamp}
  {project zone : String} {body : Json}

theorem connect_matches (h : s.pool.Same s'.pool) (hp : s.pool.Valid) (hp' : s'.pool.Valid)
    (index : Nat) (requests : List (Option Address)) :
    Except.Matches (fun nics nics' => nics.map Nic.bare = nics'.map Nic.bare)
      (connect s index requests).1 (connect s' index requests).1 := by
  induction requests generalizing s s' index with
  | nil => exact .ok rfl
  | cons request rest ih =>
    obtain ⟨ha, hs⟩ := CloudState.assign_same h hp hp' request
    rcases CloudState.assign_cases hp request with ⟨a, s₁, h₁, t₁, -⟩ | ⟨f, s₁, h₁, -⟩ <;>
      rcases CloudState.assign_cases hp' request with ⟨a', s₁', h₁', t₁', -⟩ | ⟨f', s₁', h₁', -⟩ <;>
      rw [h₁, h₁'] at ha hs <;> cases ha
    · obtain ⟨id, s₂, h₂, t₂⟩ := t₁.draw (·.digits 19)
      obtain ⟨id', s₂', h₂', t₂'⟩ := t₁'.draw (·.digits 19)
      have hrest := ih (CloudState.pool_draw h₂ ▸ CloudState.pool_draw h₂' ▸ hs) t₂.pool.valid
        t₂'.pool.valid (index + 1)
      cases hx : connect s₂ (index + 1) rest with
      | mk r t =>
        cases hx' : connect s₂' (index + 1) rest with
        | mk r' t' =>
          rw [hx, hx'] at hrest
          cases hrest with
          | ok hn =>
            rw [connect_of_connected h₁ h₂ hx, connect_of_connected h₁' h₂' hx']
            refine .ok ?_
            rw [List.map_cons, List.map_cons, hn]
            rfl
          | error f =>
            rw [connect_of_disconnected h₁ h₂ hx, connect_of_disconnected h₁' h₂' hx']
            exact .error f
    · rw [connect_of_refused h₁, connect_of_refused h₁']
      exact .error _

theorem Draft.creates (hp : s.pool.Valid) (hd : Draft.ofBody c now project zone body = .ok d) :
    s.Creates c d.scope (d.create s) := by
  rcases d.create_cases hp hd with ⟨id, nics, t, hx, ha⟩ | ⟨f, t, hx, hk, -⟩
  · exact hx ▸ .added ha
  · exact hx ▸ .kept hk

/-- The same request at another time. -/
def Draft.at (d : Draft) (now : Timestamp) : Draft := { d with now }

theorem Draft.ofBody_at (c : Configuration) (now now' : Timestamp) (project zone : String)
    (body : Json) : Draft.ofBody c now' project zone body =
      (Draft.ofBody c now project zone body).map (·.at now') := by
  unfold Draft.ofBody
  split
  · rfl
  · rename_i request hr
    split
    · rfl
    · cases requestedAddresses request.extra <;> rfl

theorem Draft.create_matches (h : s.Twins c s') (d : Draft) (now' : Timestamp) :
    Except.Matches (fun i j => d.scope.bare i = d.scope.bare j) (d.create s).1
      ((d.at now').create s').1 := by
  have hv : (s'.vacant (d.at now').scope (d.at now').request.name) =
      s.vacant d.scope d.request.name := by
    have hh : s.instances.has d.scope d.request.name = s'.instances.has d.scope d.request.name :=
      h.has (show d.scope.provider ≠ .oracle from nofun) _
    rw [CloudState.vacant, CloudState.vacant, hh]
    rfl
  unfold create
  rw [hv]
  cases s.vacant d.scope d.request.name with
  | error f => exact .error f
  | ok u =>
    have hm := connect_matches h.pool h.left.pool h.right.pool 0 d.addresses
    rw [show (d.at now').addresses = d.addresses from rfl]
    generalize connect s 0 d.addresses = out at hm
    generalize connect s' 0 d.addresses = out' at hm
    obtain ⟨r, t⟩ := out
    obtain ⟨r', t'⟩ := out'
    cases hm with
    | ok hn =>
      refine .ok ?_
      simp [Draft.record, Scope.bare, Draft.scope, hn, Draft.at]
    | error f => exact .error f

theorem insert_inStep (h : s.Twins c s') (now now' : Timestamp) (project zone : String)
    (body : Json) : Handler.InStep c (fun _ _ => True) s s' (insert c now project zone body)
      (insert c now' project zone body) := by
  have hat := Draft.ofBody_at c now now' project zone body
  unfold insert
  rw [hat]
  cases hd : Draft.ofBody c now project zone body with
  | error f => exact .throw h f
  | ok d =>
    rw [hd] at hat
    have hm := d.create_matches h now'
    have hstate := h.created (d.creates h.left.pool hd) ((d.at now').creates h.right.pool hat) hm
    rw [Handler.liftExcept_ok_bind, Except.map, Handler.liftExcept_ok_bind]
    exact Handler.InStep.bind (.atomically hm hstate)
      fun i j t t' _ ht => .pure ht trivial

theorem operationNames_inStep (h : s.Twins c s') : Handler.InStep c (fun _ _ => True) s s'
    (ExceptT.lift (Program.step operationNames)) (ExceptT.lift (Program.step operationNames)) := by
  have hk := kept_operationNames h.left.pool
  have hk' := kept_operationNames h.right.pool
  rw [← Program.run_step operationNames] at hk hk'
  exact .lift h hk hk' trivial

theorem create_inStep (h : s.Twins c s') (resource : String) (call : Call) (now' : Timestamp) :
    Handler.InStep c Http.Response.Comparable s s' (create c resource call)
      (create c resource { call with now := now' }) := by
  unfold create
  by_cases hr : resource = "instances"
  · simp only [hr, ne_eq, not_true_eq_false, if_false]
    refine .liftExcept_bind h (call.param "project") fun project _ =>
      .liftExcept_bind h (call.param "zone") fun zone _ => ?_
    cases call.body with
    | none => exact .throw h _
    | some body =>
      refine .bind (insert_inStep h call.now now' project zone body) fun i j t t' _ ht => ?_
      refine .bind (operationNames_inStep ht) fun names names' u u' _ hu => ?_
      exact .pure hu (.json rfl _ _)
  · simp only [hr, ne_eq, not_false_eq_true, if_true]
    exact .throw h _

end Google

namespace Azure

variable {c : Configuration} {s s' : CloudState} {d : Draft} {now : Timestamp}
  {subscription group name : String} {body : Json}

theorem Draft.creates (hp : s.pool.Valid)
    (hd : Draft.ofBody c now subscription group name body = .ok d) :
    s.Creates c d.scope (d.create s) := by
  rcases d.create_cases hp hd with ⟨id, nic, a, t, hx, ha⟩ | ⟨f, t, hx, hk, -⟩
  · exact hx ▸ .added ha
  · exact hx ▸ .kept hk

/-- The same request at another time. -/
def Draft.at (d : Draft) (now : Timestamp) : Draft := { d with now }

theorem Draft.ofBody_at (c : Configuration) (now now' : Timestamp)
    (subscription group name : String) (body : Json) :
    Draft.ofBody c now' subscription group name body =
      (Draft.ofBody c now subscription group name body).map (·.at now') := by
  unfold Draft.ofBody
  split
  · rfl
  · split
    · rfl
    · split <;> rfl

theorem Draft.create_matches (h : s.Twins c s') (d : Draft) (now' : Timestamp) :
    Except.Matches (fun i j => d.scope.bare i = d.scope.bare j ∧ i.metadata = d.request ∧
      j.metadata = d.request) (d.create s).1 ((d.at now').create s').1 := by
  have hv : (s'.vacant (d.at now').scope (d.at now').name) = s.vacant d.scope d.name := by
    have hh : s.instances.has d.scope d.name = s'.instances.has d.scope d.name :=
      h.has (show d.scope.provider ≠ .oracle from nofun) _
    rw [CloudState.vacant, CloudState.vacant, hh]
    rfl
  obtain ⟨ha, -⟩ := CloudState.allocate_same h.pool h.left.pool h.right.pool
  cases hvacant : s.vacant d.scope d.name with
  | error f =>
    simp only [create, hv, hvacant]
    exact .error f
  | ok u =>
    cases hx : s.allocate with
    | mk r t =>
      cases hx' : s'.allocate with
      | mk r' t' =>
        rw [hx, hx'] at ha
        cases ha
        cases r with
        | error f =>
          simp only [create, hv, hvacant, hx, hx']
          exact .error f
        | ok a =>
          rcases h₁ : t.draw Generator.uuid with ⟨id, t₁⟩
          rcases h₂ : t₁.draw Generator.uuid with ⟨nic, t₂⟩
          rcases h₁' : t'.draw Generator.uuid with ⟨id', t₁'⟩
          rcases h₂' : t₁'.draw Generator.uuid with ⟨nic', t₂'⟩
          simp only [create, hv, hvacant, hx, hx', h₁, h₂, h₁', h₂']
          exact .ok ⟨rfl, rfl, rfl⟩

theorem put_inStep (h : s.Twins c s') (now now' : Timestamp) (subscription group name : String)
    (body : Json) : Handler.InStep c (fun _ _ => True) s s' (put c now subscription group name body)
      (put c now' subscription group name body) := by
  have hat := Draft.ofBody_at c now now' subscription group name body
  unfold put
  rw [hat]
  cases hd : Draft.ofBody c now subscription group name body with
  | error f => exact .throw h f
  | ok d =>
    rw [hd] at hat
    have hm := d.create_matches h now'
    have hstate := h.created (d.creates h.left.pool hd) ((d.at now').creates h.right.pool hat)
      (hm.imp fun _ _ hij => hij.1)
    rw [Handler.liftExcept_ok_bind, Except.map, Handler.liftExcept_ok_bind]
    refine Handler.InStep.bind (.atomically hm hstate) ?_
    intro i j t t' hij ht
    obtain ⟨m, -, hi⟩ := describe_record hd subscription group hij.2.1
    obtain ⟨m', -, hj⟩ := describe_record hd subscription group hij.2.2
    rw [hi, hj]
    exact .liftExcept ht (.ok trivial)

theorem create_inStep (h : s.Twins c s') (call : Call) (now' : Timestamp) :
    Handler.InStep c Http.Response.Comparable s s' (create c call)
      (create c { call with now := now' }) := by
  unfold create
  cases call.body with
  | none => exact .throw h _
  | some body =>
    refine .liftExcept_bind h (call.param "subscriptionId") fun subscription _ =>
      .liftExcept_bind h (call.param "resourceGroupName") fun group _ =>
      .liftExcept_bind h (call.param "vmName") fun name _ => ?_
    exact .bind (put_inStep h call.now now' subscription group name body)
      fun m m' t t' _ ht => .pure ht (.json rfl _ _)

end Azure

namespace Oracle

variable {c : Configuration} {s s' : CloudState} {d : Draft} {now : Timestamp} {body : Json}

/-- An identifier of a kind of resource, drawn for a region. -/
def drawOcid (region kind : String) (g : Generator) : String × Generator :=
  let letters := g.lowercase 10
  ("ocid1." ++ kind ++ ".oc1." ++ region ++ "." ++ letters.1, letters.2)

theorem drawOcid_eq {g g' : Generator} {letters : String} (h : g.lowercase 10 = (letters, g'))
    (region kind : String) : drawOcid region kind g =
      ("ocid1." ++ kind ++ ".oc1." ++ region ++ "." ++ letters, g') := by
  rw [drawOcid, h]

theorem drawOcid_ne (region : String) (g g' : Generator) :
    (drawOcid region "instance" g).1 ≠ (drawOcid region "vnic" g').1 := by
  rcases h : g.lowercase 10 with ⟨letters, next⟩
  rcases h' : g'.lowercase 10 with ⟨letters', next'⟩
  rw [drawOcid_eq h, drawOcid_eq h']
  exact ocid_ne region region letters letters'

/-- The identifiers that lead to an instance, as its launch draws them. -/
def generated (region : String) (g : Generator) : List String :=
  let id := drawOcid region "instance" g
  [id.1, (drawOcid region "vnic" id.2).1]

theorem Draft.ocid_of {d : Draft} {kind id : String} {g : Generator}
    (h : drawOcid d.region kind s.generator = (id, g)) :
    d.ocid kind s = (id, { s with generator := g }) := by
  rcases hl : s.generator.lowercase 10 with ⟨letters, next⟩
  have hdraw := CloudState.draw_of (f := fun g => g.lowercase 10) hl
  rw [drawOcid_eq hl] at h
  cases h
  rw [ocid, hdraw]

/-- A launch fails where an identifier it draws is taken, and places the instance elsewhere. -/
theorem Draft.launch_eq (d : Draft) (s : CloudState) : ∃ id vnic attachment t,
    generated d.region s.generator = [id, vnic] ∧ id ≠ vnic ∧ s.Redrawn t ∧
      d.launch s = if t.locators.has tenancy id then (.error (.duplicateIdentity id tenancy), t)
        else if t.locators.has tenancy vnic then (.error (.duplicateIdentity vnic tenancy), t)
        else d.place id vnic attachment t := by
  rcases h₁ : drawOcid d.region "instance" s.generator with ⟨id, g₁⟩
  rcases h₂ : drawOcid d.region "vnic" g₁ with ⟨vnic, g₂⟩
  rcases h₃ : drawOcid d.region "vnicattachment" g₂ with ⟨attachment, g₃⟩
  have hne := drawOcid_ne d.region s.generator g₁
  rw [h₁, h₂] at hne
  have e₁ := Draft.ocid_of (s := s) h₁
  have e₂ := Draft.ocid_of (s := { s with generator := g₁ }) h₂
  have e₃ := Draft.ocid_of (s := { s with generator := g₂ }) h₃
  refine ⟨id, vnic, attachment, { s with generator := g₃ }, ?_, hne, s.redrawn_with g₃, ?_⟩
  · simp only [generated, h₁, h₂]
  · simp only [launch, e₁, e₂, e₃]

theorem Draft.creates (h : s.Sound c) (hd : Draft.ofBody c now body = .ok d) :
    s.Creates c d.scope (d.launch s) := by
  rcases d.launch_cases h hd with ⟨id, vnic, attachment, a, t, hx, ha⟩ | ⟨f, t, hx, hk⟩
  · exact hx ▸ .added ha
  · exact hx ▸ .kept hk

/-- The same request at another time. -/
def Draft.at (d : Draft) (now : Timestamp) : Draft := { d with now }

theorem Draft.ofBody_at (c : Configuration) (now now' : Timestamp) (body : Json) :
    Draft.ofBody c now' body = (Draft.ofBody c now body).map (·.at now') := by
  unfold Draft.ofBody
  split
  · rfl
  · split
    · rfl
    · split <;> rfl

theorem Draft.asked?_record (hd : Draft.ofBody c now body = .ok d) {i : Instance}
    (hi : i.metadata = d.request) : i.asked? = d.details.displayName := by
  obtain ⟨request, details, -, hdec, rfl⟩ := ofBody_eq_ok hd
  simp only [Instance.asked?, hi, hdec]

theorem Draft.bare_record (hd : Draft.ofBody c now body = .ok d) (now' : Timestamp)
    (id id' vnic vnic' attachment attachment' : String) (a : Address) :
    d.scope.bare (d.record id vnic attachment a) =
      d.scope.bare ((d.at now').record id' vnic' attachment' a) := by
  have h₁ := asked?_record hd (i := d.record id vnic attachment a) rfl
  have h₂ := asked?_record hd (i := (d.at now').record id' vnic' attachment' a) rfl
  simp only [Draft.scope, Scope.bare, h₁, h₂]
  cases hn : d.details.displayName <;> simp [Draft.record, Draft.at, Draft.name, Nic.bare, hn]

/-- Launching where no identifier that is drawn is taken. -/
theorem Draft.launch_of_fresh (h : s.Sound c) (hd : Draft.ofBody c now body = .ok d)
    (hf : ∀ x ∈ generated d.region s.generator, s.locators.has tenancy x = false) :
    ∃ id vnic attachment t, s.Redrawn t ∧ d.launch s = d.place id vnic attachment t ∧
      ∀ a t', t.allocate = (.ok a, t') → ∃ t'',
        d.place id vnic attachment t = (.ok (d.record id vnic attachment a), t'') := by
  obtain ⟨id, vnic, attachment, t, hg, hne, ht, hl⟩ := d.launch_eq s
  rw [hg] at hf
  have hi : t.locators.has tenancy id = false := by
    rw [ht.locators]
    exact hf id (by simp)
  have hv : t.locators.has tenancy vnic = false := by
    rw [ht.locators]
    exact hf vnic (by simp)
  rw [hi, hv] at hl
  refine ⟨id, vnic, attachment, t, ht, hl, ?_⟩
  intro a t' ha
  have hs := h.redrawn ht
  rcases CloudState.allocate_cases hs.pool with ⟨b, t₁, h₁, k₁⟩ | ⟨t₁, h₁, -⟩
  · rw [h₁] at ha
    cases ha
    obtain ⟨t'', hx, -⟩ := d.place_of_allocated hs hd hne hi hv attachment h₁ k₁
    exact ⟨t'', hx⟩
  · rw [h₁] at ha
    cases ha

theorem Draft.launch_matches (h : s.Twins c s') (hd : Draft.ofBody c now body = .ok d)
    (hf : ∀ x ∈ generated d.region s.generator, s.locators.has tenancy x = false)
    (hf' : ∀ x ∈ generated d.region s'.generator, s'.locators.has tenancy x = false)
    (now' : Timestamp) :
    Except.Matches (fun i j => d.scope.bare i = d.scope.bare j ∧ i.metadata = d.request ∧
      j.metadata = d.request) (d.launch s).1 ((d.at now').launch s').1 := by
  have hd' : Draft.ofBody c now' body = .ok (d.at now') := by rw [ofBody_at c now now', hd]; rfl
  obtain ⟨id, vnic, attachment, t, ht, hl, hp⟩ := launch_of_fresh h.left hd hf
  obtain ⟨id', vnic', attachment', t', ht', hl', hp'⟩ := launch_of_fresh h.right hd' hf'
  rw [hl, hl']
  have hpool : t.pool.Same t'.pool := by
    rw [ht.pool, ht'.pool]
    exact h.pool
  obtain ⟨ha, -⟩ := CloudState.allocate_same hpool (h.left.redrawn ht).pool
    (h.right.redrawn ht').pool
  cases hx : t.allocate with
  | mk r u =>
    cases hx' : t'.allocate with
    | mk r' u' =>
      rw [hx, hx'] at ha
      cases ha
      cases r with
      | error f =>
        simp only [place, hx, hx']
        exact .error f
      | ok a =>
        obtain ⟨v, hv⟩ := hp a u hx
        obtain ⟨v', hv'⟩ := hp' a u' hx'
        rw [hv, hv']
        exact .ok ⟨bare_record hd now' _ _ _ _ _ _ a, rfl, rfl⟩

theorem reply_inStep (h : s.Twins c s') (status : Nat) (body : Json) :
    (((reply status body).run s).1.Comparable ((reply status body).run s').1) ∧
      ((reply status body).run s).2.Twins c ((reply status body).run s').2 := by
  obtain ⟨id, t, hx, hk⟩ := run_reply status body s
  obtain ⟨id', t', hx', hk'⟩ := run_reply status body s'
  rw [hx, hx']
  exact ⟨⟨rfl, fun _ => rfl⟩, h.kept (hk h.left.pool) (hk' h.right.pool)⟩

theorem answer_inStep (h : s.Twins c s') (body body' : Json) :
    Handler.InStep c Http.Response.Comparable s s' (answer body) (answer body') := by
  obtain ⟨id, t, hx, hk⟩ := run_reply 200 body s
  obtain ⟨id', t', hx', hk'⟩ := run_reply 200 body' s'
  refine .lift h ?_ ?_ ?_
  · rw [hx]
    exact hk h.left.pool
  · rw [hx']
    exact hk' h.right.pool
  · rw [hx, hx']
    exact .of_success rfl rfl

theorem launch_inStep (h : s.Twins c s') (now now' : Timestamp) (body : Json)
    (hf : ∀ d, Draft.ofBody c now body = .ok d →
      ∀ x ∈ generated d.region s.generator, s.locators.has tenancy x = false)
    (hf' : ∀ d, Draft.ofBody c now body = .ok d →
      ∀ x ∈ generated d.region s'.generator, s'.locators.has tenancy x = false) :
    Handler.InStep c (fun _ _ => True) s s' (launch c now body) (launch c now' body) := by
  have hat := Draft.ofBody_at c now now' body
  unfold launch
  rw [hat]
  cases hd : Draft.ofBody c now body with
  | error f => exact .throw h f
  | ok d =>
    rw [hd] at hat
    have hm := d.launch_matches h hd (hf d hd) (hf' d hd) now'
    have hstate := h.created (d.creates h.left hd) ((d.at now').creates h.right hat)
      (hm.imp fun _ _ hij => hij.1)
    rw [Handler.liftExcept_ok_bind, Except.map, Handler.liftExcept_ok_bind]
    refine Handler.InStep.bind (.atomically hm hstate) ?_
    intro i j t t' hij ht
    rw [d.describe_record hd i hij.2.1, d.describe_record hd j hij.2.2]
    exact .liftExcept ht (.ok trivial)

theorem create_inStep (h : s.Twins c s') (resource : String) (call : Call) (now' : Timestamp)
    (hf : ∀ body d, call.body = some body → Draft.ofBody c call.now body = .ok d →
      ∀ x ∈ generated d.region s.generator, s.locators.has tenancy x = false)
    (hf' : ∀ body d, call.body = some body → Draft.ofBody c call.now body = .ok d →
      ∀ x ∈ generated d.region s'.generator, s'.locators.has tenancy x = false) :
    Handler.InStep c Http.Response.Comparable s s' (create c resource call)
      (create c resource { call with now := now' }) := by
  unfold create
  by_cases hr : resource = "instances"
  · simp only [hr, ne_eq, not_true_eq_false, if_false]
    cases hb : call.body with
    | none => exact .throw h _
    | some body =>
      exact .bind (launch_inStep h call.now now' body (fun d => hf body d hb)
        fun d => hf' body d hb) fun i j t t' _ ht => answer_inStep ht _ _
  · simp only [hr, ne_eq, not_false_eq_true, if_true]
    exact .throw h _

end Oracle

end CloudEmulation
