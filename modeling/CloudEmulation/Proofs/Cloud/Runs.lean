import CloudEmulation.Proofs.Cloud.Steps
/-!
Runs of a cloud: adapters called with any arguments and requests sent to every provider, one after
another.
-/

namespace CloudEmulation

inductive Operation where
  | insert (project zone : String) (body : Json)
  | put (subscription group name : String) (body : Json)
  | launch (body : Json)
  | request (p : Provider) (r : Http.Request)

inductive Answer where
  | inserted (result : Except Fault Google.ComputeInstance)
  | replaced (result : Except Fault Azure.VirtualMachine)
  | launched (result : Except Fault Oracle.ComputeInstance)
  | responded (response : Http.Response)

namespace Operation

/-- The scope and the identity of the instance that an operation created. -/
def accepted? : Operation → Answer → Option (Scope × String)
  | .insert project zone _, .inserted (.ok i) => some (.google project zone, i.name)
  | .put subscription group name _, .replaced (.ok _) => some (.azure subscription group, name)
  | .launch _, .launched (.ok i) => some (.oracle i.compartmentId, i.id)
  | .request p r, .responded response => p.accepted? r response
  | _, _ => none

def ofSeed : SeedInstance → Operation
  | .google project zone body => .insert project zone body
  | .azure subscription group name body => .put subscription group name body
  | .oracle body => .launch body

end Operation

namespace Cloud

def perform (c : Cloud) (now : Timestamp) : Operation → Answer × Cloud
  | .insert project zone body =>
    let out := (Google.insert c.config now project zone body).exec c.state
    (.inserted out.1, ⟨c.config, out.2⟩)
  | .put subscription group name body =>
    let out := (Azure.put c.config now subscription group name body).exec c.state
    (.replaced out.1, ⟨c.config, out.2⟩)
  | .launch body =>
    let out := (Oracle.launch c.config now body).exec c.state
    (.launched out.1, ⟨c.config, out.2⟩)
  | .request p r => (.responded (c.respond p now r).1, (c.respond p now r).2)

/-- The cloud that some operations lead to. -/
def after (c : Cloud) : List (Timestamp × Operation) → Cloud
  | [] => c
  | (now, op) :: rest => after (c.perform now op).2 rest

/-- The scopes and the identities of the instances that some operations create, in order. -/
def accepted (c : Cloud) : List (Timestamp × Operation) → List (Scope × String)
  | [] => []
  | (now, op) :: rest =>
    (op.accepted? (c.perform now op).1).toList ++ accepted (c.perform now op).2 rest

inductive Step (c : Cloud) (created : Option (Scope × String)) (c' : Cloud) : Prop
  | kept : c'.config = c.config → created = none → c.state.Kept c'.state → Step c created c'
  | added {scope i} : c'.config = c.config → created = some (scope, i.identity) →
    c.state.Added c.config scope i c'.state → Step c created c'

variable {c c' : Cloud} {config : Configuration} {now : Timestamp} {op : Operation}
  {ops : List (Timestamp × Operation)} {created : Option (Scope × String)}

theorem step_perform (h : c.state.Sound c.config) (now : Timestamp) (op : Operation) :
    c.Step (op.accepted? (c.perform now op).1) (c.perform now op).2 := by
  cases op with
  | insert project zone body =>
    rcases Google.insert_cases h.pool c.config now project zone body with
      ⟨d, id, nics, s', hd, hx, ha⟩ | ⟨f, s', hx, hk, -⟩
    · have hs := (Google.Draft.ofBody_eq_ok hd).1
      simp only [perform, hx]
      refine .added rfl ?_ ha
      rw [hs]
      rfl
    · simp only [perform, hx]
      exact .kept rfl rfl hk
  | put subscription group name body =>
    rcases Azure.put_cases h.pool c.config now subscription group name body with
      ⟨d, id, nic, a, m, s', hd, hx, ha⟩ | ⟨f, s', hx, hk, -⟩
    · obtain ⟨hs, hn⟩ := Azure.Draft.ofBody_eq_ok hd
      simp only [perform, hx]
      refine .added rfl ?_ ha
      rw [hs, ← hn]
      rfl
    · simp only [perform, hx]
      exact .kept rfl rfl hk
  | launch body =>
    rcases Oracle.launch_cases h now body with
      ⟨d, id, vnic, attachment, a, s', -, hx, ha⟩ | ⟨f, s', hx, hk⟩
    · simp only [perform, hx]
      exact .added rfl rfl ha
    · simp only [perform, hx]
      exact .kept rfl rfl hk
  | request p r =>
    cases Provider.outcome h p now r with
    | kept _ hn hk => exact .kept rfl hn hk
    | added _ _ _ _ _ hn ha => exact .added rfl hn ha

/-- Everything a cloud remembers belongs together and comes from its configuration. -/
structure Consistent (config : Configuration) (c : Cloud) : Prop where
  configured : c.config = config
  sound : c.state.Sound config
  network : ∃ pool, AddressPool.parse config.networkCidr = .ok pool ∧
    c.state.pool.network = pool.network ∧ c.state.pool.broadcast = pool.broadcast

theorem Consistent.step (h : Consistent config c) (k : c.Step created c') :
    Consistent config c' := by
  obtain ⟨rfl, hs, pool, hp, hn, hb⟩ := h
  cases k with
  | kept hc _ hk =>
    exact ⟨hc, hs.kept hk, pool, hp, hk.pool.network.trans hn, hk.pool.broadcast.trans hb⟩
  | added hc _ ha =>
    exact ⟨hc, hs.added ha, pool, hp, ha.pool.network.trans hn, ha.pool.broadcast.trans hb⟩

theorem Consistent.step_perform (h : Consistent config c) (now : Timestamp) (op : Operation) :
    c.Step (op.accepted? (c.perform now op).1) (c.perform now op).2 :=
  Cloud.step_perform (h.configured.symm ▸ h.sound) now op

theorem Consistent.after (h : Consistent config c) (ops : List (Timestamp × Operation)) :
    Consistent config (c.after ops) := by
  induction ops generalizing c with
  | nil => exact h
  | cons step ops ih => exact ih (h.step (h.step_perform step.1 step.2))

theorem consistent_of_new (h : new config = .ok c) : Consistent config c := by
  unfold new at h
  split at h
  · cases h
  · rename_i pool hp
    cases h
    have hv := AddressPool.valid_of_parse hp
    exact ⟨rfl, .empty hv (AddressPool.held_of_parse hp) _, pool, hp, rfl, rfl⟩

theorem after_append (c : Cloud) (ops more : List (Timestamp × Operation)) :
    c.after (ops ++ more) = (c.after ops).after more := by
  induction ops generalizing c with
  | nil => rfl
  | cons step ops ih => exact ih _

/-! Clouds with instances from the start are reached from clouds without. -/

theorem perform_ofSeed {i : SeedInstance} {s : CloudState}
    (h : (i.create c.config now).exec c.state = (.ok (), s)) :
    (c.perform now (.ofSeed i)).2 = ⟨c.config, s⟩ := by
  cases i with
  | google project zone body =>
    rw [SeedInstance.create, Handler.exec_bind] at h
    simp only [Operation.ofSeed, perform]
    cases hx : (Google.insert c.config now project zone body).exec c.state with
    | mk result s' => cases result <;> simp_all
  | azure subscription group name body =>
    rw [SeedInstance.create, Handler.exec_bind] at h
    simp only [Operation.ofSeed, perform]
    cases hx : (Azure.put c.config now subscription group name body).exec c.state with
    | mk result s' => cases result <;> simp_all
  | oracle body =>
    rw [SeedInstance.create, Handler.exec_bind] at h
    simp only [Operation.ofSeed, perform]
    cases hx : (Oracle.launch c.config now body).exec c.state with
    | mk result s' => cases result <;> simp_all

theorem exec_of_seed {instances : List SeedInstance} (h : c.seed now instances = (.ok (), c')) :
    (instances.forM (SeedInstance.create c.config now)).exec c.state = (.ok (), c'.state) ∧
      c'.config = c.config := by
  simp only [seed, run, Prod.mk.injEq] at h
  obtain ⟨hr, rfl⟩ := h
  exact ⟨Prod.ext hr rfl, rfl⟩

theorem seed_eq_ok {instances : List SeedInstance} (h : c.seed now instances = (.ok (), c')) :
    c' = c.after (instances.map fun i => (now, .ofSeed i)) := by
  obtain ⟨hs, hc⟩ := exec_of_seed h
  clear h
  induction instances generalizing c with
  | nil =>
    obtain ⟨config, state⟩ := c
    obtain ⟨config', state'⟩ := c'
    cases hs
    cases hc
    rfl
  | cons i instances ih =>
    have hf : (i :: instances).forM (SeedInstance.create c.config now) =
      (SeedInstance.create c.config now i >>= fun _ =>
        instances.forM (SeedInstance.create c.config now)) := rfl
    rw [hf, Handler.exec_bind] at hs
    cases hx : (i.create c.config now).exec c.state with
    | mk result s =>
      rw [hx] at hs
      cases result with
      | error f => cases hs
      | ok u =>
        have hp := perform_ofSeed hx
        rw [List.map_cons, after, hp]
        exact ih hs hc

theorem fresh_eq_ok (h : fresh config now = .ok c) : ∃ c₀, new config = .ok c₀ ∧
    c = c₀.after (config.seed.map fun i => (now, .ofSeed i)) := by
  unfold fresh at h
  cases hn : new config with
  | error f => simp [hn, bind, Except.bind] at h
  | ok c₀ =>
    simp only [hn, bind, Except.bind] at h
    cases hs : c₀.seed now config.seed with
    | mk result c₁ =>
      cases result with
      | error f => simp [hs, throw, throwThe, MonadExceptOf.throw] at h
      | ok u =>
        simp only [hs, pure, Except.pure, Except.ok.injEq] at h
        exact ⟨c₀, rfl, h ▸ seed_eq_ok hs⟩

/-- The clouds that a configuration can start with. -/
inductive Built (config : Configuration) : Cloud → Prop
  | new {c : Cloud} : new config = .ok c → Built config c
  | fresh {c : Cloud} {now : Timestamp} : fresh config now = .ok c → Built config c

theorem Built.consistent (h : Built config c) : Consistent config c := by
  cases h with
  | new h => exact consistent_of_new h
  | fresh h =>
    obtain ⟨c₀, h₀, rfl⟩ := fresh_eq_ok h
    exact (consistent_of_new h₀).after _

/-- The clouds that a configuration can lead to. -/
def Reachable (config : Configuration) (c : Cloud) : Prop :=
  ∃ c₀ ops, Built config c₀ ∧ c = c₀.after ops

theorem Reachable.consistent (h : Reachable config c) : Consistent config c := by
  obtain ⟨c₀, ops, hb, rfl⟩ := h
  exact hb.consistent.after ops

end Cloud

end CloudEmulation
