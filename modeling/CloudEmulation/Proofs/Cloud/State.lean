import CloudEmulation.Proofs.Execution
import CloudEmulation.Proofs.Network.Pool
import CloudEmulation.Proofs.Store
/-!
What a call can do to the state of a cloud: hold addresses, or add one record together with all that
leads to it. A state that grew this way from an empty one is sound.
-/

namespace CloudEmulation

/-- Interfaces from an index on, one for each request, that have the requested addresses. -/
inductive Google.Connected : Nat → List (Option Address) → List Nic → Prop
  | nil {index} : Connected index [] []
  | cons {index request requests nic nics} :
    (∀ a, request = some a → nic.address = a) → nic.name = "nic" ++ toString index →
    nic.attachment = none → Connected (index + 1) requests nics →
    Connected index (request :: requests) (nic :: nics)

/-- The records that a cloud can make of an acceptable request, and the scope of each. -/
inductive Configuration.Makes (c : Configuration) : Scope → Instance → Prop
  | google {now project zone body d id nics} :
    Google.Draft.ofBody c now project zone body = .ok d →
    Google.Connected 0 d.addresses nics → Makes c d.scope (d.record id nics)
  | azure {now subscription group name body d id nic a} :
    Azure.Draft.ofBody c now subscription group name body = .ok d →
    Makes c d.scope (d.record id nic a)
  | oracle {now body d id vnic attachment a} :
    Oracle.Draft.ofBody c now body = .ok d → Makes c d.scope (d.record id vnic attachment a)

namespace Configuration.Makes

variable {c : Configuration} {i : Instance}

theorem google_draft {project zone : String} (h : c.Makes (.google project zone) i) :
    ∃ now project' zone' body d id nics,
      Google.Draft.ofBody c now project' zone' body = .ok d ∧
      Google.Connected 0 d.addresses nics ∧ i = d.record id nics := by
  generalize hs : Scope.google project zone = scope at h
  cases h with
  | google hd hc => exact ⟨_, _, _, _, _, _, _, hd, hc, rfl⟩
  | azure => cases hs
  | oracle => cases hs

theorem azure_draft {subscription group : String} (h : c.Makes (.azure subscription group) i) :
    ∃ now subscription' group' name body d id nic a,
      Azure.Draft.ofBody c now subscription' group' name body = .ok d ∧
      i = d.record id nic a := by
  generalize hs : Scope.azure subscription group = scope at h
  cases h with
  | google => cases hs
  | azure hd => exact ⟨_, _, _, _, _, _, _, _, _, hd, rfl⟩
  | oracle => cases hs

theorem oracle_draft {compartment : String} (h : c.Makes (.oracle compartment) i) :
    ∃ now body d id vnic attachment a, Oracle.Draft.ofBody c now body = .ok d ∧
      d.details.compartmentId = compartment ∧ i = d.record id vnic attachment a := by
  generalize hs : Scope.oracle compartment = scope at h
  cases h with
  | google => cases hs
  | azure => cases hs
  | oracle hd =>
    cases hs
    exact ⟨_, _, _, _, _, _, _, hd, rfl, rfl⟩

theorem not_tenancy {p : Provider} (h : c.Makes (.tenancy p) i) : False := by
  generalize hs : Scope.tenancy p = scope at h
  cases h <;> cases hs

end Configuration.Makes

/-- The locators that lead to a record. -/
def Scope.located (scope : Scope) (i : Instance) : List Locator :=
  match scope with
  | .oracle _ => ⟨i.identity, scope, none⟩ :: i.nics.map fun n => ⟨n.id, scope, some i.identity⟩
  | _ => []

namespace CloudState

variable {c : Configuration} {s s' s'' : CloudState} {as bs : List Address} {a : Address}
  {scope : Scope} {i : Instance} {id : String}

/-- The addresses of all interfaces of all instances. -/
def addresses (s : CloudState) : List Address := s.instances.entries.flatMap (·.2.addresses)

/-- Nothing but some free addresses is taken, and identifiers are drawn. -/
structure Takes (s : CloudState) (as : List Address) (s' : CloudState) : Prop where
  instances : s'.instances = s.instances
  locators : s'.locators = s.locators
  pool : s.pool.Grown as s'.pool

abbrev Kept (s s' : CloudState) : Prop := s.Takes [] s'

namespace Takes

theorem refl (hp : s.pool.Valid) : s.Kept s := ⟨rfl, rfl, .refl hp⟩

theorem trans (h : s.Takes as s') (k : s'.Takes bs s'') : s.Takes (as ++ bs) s'' :=
  ⟨k.instances.trans h.instances, k.locators.trans h.locators, h.pool.trans k.pool⟩

theorem release (h : s.Takes [a] s') : s.Kept (s'.release a) :=
  ⟨h.instances, h.locators, h.pool.release⟩

end Takes

theorem draw_eq (s : CloudState) (f : Generator → String × Generator) :
    s.draw f = ((f s.generator).1, { s with generator := (f s.generator).2 }) := rfl

theorem draw_of {f : Generator → String × Generator} {t : String} {g : Generator}
    (h : f s.generator = (t, g)) : s.draw f = (t, { s with generator := g }) := by
  rw [draw_eq, h]

theorem pool_draw {f : Generator → String × Generator} {t : String} (h : s.draw f = (t, s')) :
    s'.pool = s.pool := by
  rw [draw_eq] at h
  cases h
  rfl

theorem kept_draw (hp : s.pool.Valid) (f : Generator → String × Generator) : s.Kept (s.draw f).2 :=
  ⟨rfl, rfl, .refl hp⟩

theorem Takes.draw (h : s.Takes as s') (f : Generator → String × Generator) :
    ∃ id s'', s'.draw f = (id, s'') ∧ s.Takes as s'' := by
  refine ⟨_, _, draw_eq s' f, ?_⟩
  have k := h.trans (kept_draw h.pool.valid f)
  rw [List.append_nil] at k
  exact k

theorem allocate_cases (hp : s.pool.Valid) :
    (∃ a s', s.allocate = (.ok a, s') ∧ s.Takes [a] s') ∨
    (∃ s', s.allocate = (.error (.exhausted s.pool.cidr), s') ∧ s.Kept s') := by
  rcases AddressPool.allocate_cases hp with ⟨a, q, hq, -, -, hg⟩ | ⟨q, hq, -, hg⟩
  · exact .inl ⟨a, { s with pool := q }, by simp only [allocate, hq], rfl, rfl, hg⟩
  · exact .inr ⟨{ s with pool := q }, by simp only [allocate, hq], rfl, rfl, hg⟩

theorem assign_cases (hp : s.pool.Valid) (request : Option Address) :
    (∃ a s', s.assign request = (.ok a, s') ∧ s.Takes [a] s' ∧ ∀ b, request = some b → a = b) ∨
    (∃ f s', s.assign request = (.error f, s') ∧ s.Kept s' ∧ f.status ≠ 409) := by
  cases request with
  | none =>
    rcases allocate_cases hp with ⟨a, s', hs, ht⟩ | ⟨s', hs, hk⟩
    · exact .inl ⟨a, s', hs, ht, by simp⟩
    · exact .inr ⟨_, s', hs, hk, by simp [Fault.exhausted, Fault.status]⟩
  | some b =>
    rcases AddressPool.reserve_cases hp b with ⟨q, hq, -, hg⟩ | ⟨reason, hq, -⟩
    · exact .inl ⟨b, { s with pool := q }, by simp only [assign, reserve, hq, Except.map],
        ⟨rfl, rfl, hg⟩, by simp⟩
    · exact .inr ⟨.invalidArgument reason, s, by simp only [assign, reserve, hq, Except.map],
        .refl hp, by simp [Fault.status]⟩

theorem vacant_of_has (h : s.instances.has scope id = true) :
    s.vacant scope id = .error (.duplicateIdentity id scope) := by
  simp [vacant, h]

theorem vacant_of_not_has (h : s.instances.has scope id = false) : s.vacant scope id = .ok () := by
  simp [vacant, h]

/-- One record is added, and with it its addresses and locators. -/
structure Added (c : Configuration) (s : CloudState) (scope : Scope) (i : Instance)
    (s' : CloudState) : Prop where
  made : c.Makes scope i
  instances : s'.instances = s.instances.append scope i
  locators : s'.locators.entries =
    s.locators.entries ++ (scope.located i).map (Oracle.tenancy, ·)
  pool : s.pool.Grown i.addresses s'.pool
  vacant : s.instances.has scope i.identity = false
  unlocated : ∀ l ∈ scope.located i, s.locators.has Oracle.tenancy l.identity = false
  distinct : ((scope.located i).map Locator.identity).Nodup

/-- Addresses, records and locators belong together. -/
structure Sound (c : Configuration) (s : CloudState) : Prop where
  pool : s.pool.Valid
  held : ∀ a, a ∈ s.pool.held ↔ a ∈ s.addresses
  apart : s.addresses.Nodup
  made : ∀ scope i, i ∈ s.instances.list scope → c.Makes scope i
  named : ∀ scope, ((s.instances.list scope).map Instance.identity).Nodup
  located : s.locators.entries =
    s.instances.entries.flatMap fun e => (e.1.located e.2).map (Oracle.tenancy, ·)
  identified : ((s.locators.list Oracle.tenancy).map Locator.identity).Nodup

theorem addresses_of_append (h : s'.instances = s.instances.append scope i) :
    s'.addresses = s.addresses ++ i.addresses := by
  simp [addresses, h, Store.append]

theorem Added.list_locators (h : Added c s scope i s') (other : Scope) :
    s'.locators.list other =
      s.locators.list other ++ (if other = Oracle.tenancy then scope.located i else []) := by
  rw [Store.list, h.locators, List.filterMap_append]
  congr 1
  by_cases ho : other = Oracle.tenancy
  · simp [ho, List.filterMap_map]
  · simp [ho, Ne.symm ho, List.filterMap_map]

theorem Added.after (h : Added c s' scope i s'') (k : s.Kept s') : Added c s scope i s'' where
  made := h.made
  instances := by rw [h.instances, k.instances]
  locators := by rw [h.locators, k.locators]
  pool := k.pool.trans h.pool
  vacant := k.instances ▸ h.vacant
  unlocated := k.locators ▸ h.unlocated
  distinct := h.distinct

theorem Added.before (h : Added c s scope i s') (k : s'.Kept s'') : Added c s scope i s'' where
  made := h.made
  instances := by rw [k.instances, h.instances]
  locators := by rw [k.locators, h.locators]
  pool := by
    have hg := h.pool.trans k.pool
    rw [List.append_nil] at hg
    exact hg
  vacant := h.vacant
  unlocated := h.unlocated
  distinct := h.distinct

namespace Sound

theorem empty {pool : AddressPool} (hp : pool.Valid) (hh : pool.held = []) (g : Generator) :
    Sound c ⟨.empty, .empty, g, pool⟩ where
  pool := hp
  held a := by simp [hh, addresses, Store.empty]
  apart := by simp [addresses, Store.empty]
  made := by simp [Store.empty, Store.list]
  named := by simp [Store.empty, Store.list]
  located := by simp [Store.empty]
  identified := by simp [Store.empty, Store.list]

theorem kept (h : Sound c s) (k : s.Kept s') : Sound c s' where
  pool := k.pool.valid
  held a := by
    have hs := k.pool.held a
    simp only [List.not_mem_nil, or_false] at hs
    rw [hs, h.held, addresses, addresses, k.instances]
  apart := by
    rw [addresses, k.instances]
    exact h.apart
  made := k.instances ▸ h.made
  named := k.instances ▸ h.named
  located := by rw [k.locators, k.instances, h.located]
  identified := k.locators ▸ h.identified

theorem added (h : Sound c s) (k : Added c s scope i s') : Sound c s' where
  pool := k.pool.valid
  held a := by rw [k.pool.held, h.held, addresses_of_append k.instances, List.mem_append]
  apart := by
    rw [addresses_of_append k.instances]
    refine List.nodup_append.mpr ⟨h.apart, k.pool.nodup, ?_⟩
    rintro a ha _ hb rfl
    exact (k.pool.free a hb).2 ((h.held a).mpr ha)
  made other j hj := by
    rw [k.instances, Store.list_append] at hj
    rcases List.mem_append.mp hj with hj | hj
    · exact h.made other j hj
    · split at hj
      · rename_i he
        rw [List.mem_singleton.mp hj, ← he]
        exact k.made
      · simp at hj
  named := by
    rw [k.instances]
    exact Store.Distinct.append h.named k.vacant
  located := by simp [k.locators, k.instances, Store.append, h.located]
  identified := by
    rw [k.list_locators, if_pos rfl, List.map_append]
    refine List.nodup_append.mpr ⟨h.identified, k.distinct, ?_⟩
    rintro a ha b hb rfl
    obtain ⟨l, hl, rfl⟩ := List.mem_map.mp hb
    exact Store.has_eq_false_iff.mp (k.unlocated l hl) ha

end Sound

end CloudState

end CloudEmulation
