import CloudEmulation.Proofs.Cloud.Steps
import CloudEmulation.Proofs.Concurrency.Reruns
/-!
Requests one after another that choose identities for instances. An identity is accepted once in its
scope, and refused as a conflict where it was accepted before.
-/

namespace CloudEmulation

variable {c : Configuration} {s s' : CloudState} {p : Provider} {r : Http.Request}
  {now : Timestamp} {scope : Scope} {id : String} {answer : Http.Response}

theorem Store.has_append (store : Store Instance) (scope other : Scope) (i : Instance)
    (id : String) : (store.append scope i).has other id = true ↔
      store.has other id = true ∨ (scope = other ∧ i.identity = id) := by
  rw [has_iff, has_iff, list_append, List.map_append, List.mem_append]
  by_cases h : scope = other
  · simp [h, eq_comm, identity]
  · simp [h]

namespace Provider

/-- The scope and the identity that a request chooses for an instance. Oracle assigns identities
itself. -/
def chosen? (p : Provider) (r : Http.Request) : Option (Scope × String) :=
  p.accepted? r ⟨200, [], none⟩

theorem exists_create (h : p.accepted? r answer = some (scope, id)) : answer.isSuccess = true ∧
    ∃ route params, p.route? r = some (route, params) ∧ route.verb = .create ∧
      p.created? params r.body answer.body = some (scope, id) := by
  cases hs : answer.isSuccess with
  | false =>
    rw [accepted?_of_failed hs] at h
    cases h
  | true =>
    refine ⟨rfl, ?_⟩
    unfold accepted? at h
    rw [if_pos hs] at h
    split at h
    · rename_i hr
      exact ⟨_, _, hr, rfl, h⟩
    · cases h

theorem provider_of_accepted (h : p.accepted? r answer = some (scope, id)) :
    scope.provider = p := by
  obtain ⟨-, route, params, -, -, hc⟩ := exists_create h
  cases p with
  | google =>
    simp only [created?, Google.created?, Option.bind_eq_bind, Option.bind_eq_some_iff] at hc
    obtain ⟨_, _, _, _, _, _, _, _, he⟩ := hc
    cases he
    rfl
  | azure =>
    simp only [created?, Azure.created?, Option.bind_eq_bind, Option.bind_eq_some_iff] at hc
    obtain ⟨_, _, _, _, _, _, he⟩ := hc
    cases he
    rfl
  | oracle =>
    simp only [created?, Oracle.created?, Option.bind_eq_bind, Option.bind_eq_some_iff] at hc
    obtain ⟨_, _, _, _, _, _, _, _, he⟩ := hc
    cases he
    rfl

theorem provider_of_chosen (h : p.chosen? r = some (scope, id)) : scope.provider = p := by
  unfold chosen? at h
  exact provider_of_accepted h

theorem not_oracle_of_chosen (h : p.chosen? r = some (scope, id)) : p ≠ .oracle := by
  rintro rfl
  obtain ⟨-, route, params, -, -, hc⟩ := exists_create h
  simp [created?, Oracle.created?] at hc

/-- Which identity is chosen does not depend on the answer. -/
theorem chosen_iff (hs : answer.isSuccess = true) (hp : p ≠ .oracle) :
    p.chosen? r = some (scope, id) ↔ p.accepted? r answer = some (scope, id) := by
  have hsame (params : Params) : p.created? params r.body answer.body =
      p.created? params r.body none := by
    cases p with
    | oracle => exact absurd rfl hp
    | _ => rfl
  constructor
  · intro h
    obtain ⟨-, route, params, hr, hv, hc⟩ := exists_create h
    exact (accepted?_of_create hr hv hs).trans ((hsame params).trans hc)
  · intro h
    obtain ⟨-, route, params, hr, hv, hc⟩ := exists_create h
    exact (accepted?_of_create hr hv rfl).trans ((hsame params).symm.trans hc)

/-- What is accepted was not there before, and is there afterwards. -/
theorem respond_has (hs : s.Sound c) (p : Provider) (now : Timestamp) (r : Http.Request)
    (scope : Scope) (id : String) :
    ((((p.emulator c).respond now r).run s).2.instances.has scope id = true ↔
      s.instances.has scope id = true ∨
        p.accepted? r (((p.emulator c).respond now r).run s).1 = some (scope, id)) ∧
    (p.accepted? r (((p.emulator c).respond now r).run s).1 = some (scope, id) →
      s.instances.has scope id = false) := by
  cases outcome hs p now r with
  | kept _ ha hk =>
    rw [hk.instances, ha]
    simp
  | @added route params scope' i _ _ _ _ _ ha hadded =>
    rw [hadded.instances, ha, Store.has_append]
    refine ⟨by simp, fun he => ?_⟩
    cases he
    exact hadded.vacant

theorem has_of_conflict (hs : s.Sound c) (hc : p.chosen? r = some (scope, id))
    (h : (((p.emulator c).respond now r).run s).1.status = 409) :
    s.instances.has scope id = true := by
  obtain ⟨-, route, params, hr, hv, hcreated⟩ := exists_create hc
  have hrouted : p.Routed r .create p.machines params :=
    ⟨route, hr, hv, p.routes_create route (mem_routes hr).1 hv⟩
  cases p with
  | google =>
    obtain ⟨d, hd, hhas⟩ := (google_conflict_iff hs hrouted).mp h
    have hsame := (Google.created?_of_draft hd).symm.trans hcreated
    cases hsame
    exact hhas
  | azure =>
    cases hversion : Azure.hasVersion (r.call params now) with
    | false =>
      have hx : ((azure.emulator c).handle now r).exec s = (.ok Azure.versionMissing, s) := by
        rw [hrouted.handle]
        exact congrArg (·.exec s) (Azure.handler_of_versionless c .create hversion)
      rw [respond_of_answered hx] at h
      cases h
    | true =>
      obtain ⟨d, hd, hhas⟩ := (azure_conflict_iff hs hrouted hversion).mp h
      have hsame := (Azure.created?_of_draft hd).symm.trans hcreated
      cases hsame
      exact hhas
  | oracle => exact absurd rfl (not_oracle_of_chosen hc)

end Provider

namespace Batch

variable {ι : Type} {b : Batch ι} {times : ι → Timestamp} {seed : ι → Generator → Generator}
  {order : List ι} {e : ι × Generator × Http.Response}

def chosen? (b : Batch ι) (i : ι) : Option (Scope × String) := (b.provider i).chosen? (b.request i)

/-- The instance that a request created, as its answer tells. -/
def accepted? (b : Batch ι) (e : ι × Generator × Http.Response) : Option (Scope × String) :=
  (b.provider e.1).accepted? (b.request e.1) e.2.2

theorem programs_has (hs : s.Sound c) (b : Batch ι) (times : ι → Timestamp) (i : ι) (g : Generator)
    (scope : Scope) (id : String) :
    (((b.programs c times i).run { s with generator := g }).2.instances.has scope id = true ↔
      s.instances.has scope id = true ∨ b.accepted?
        (i, g, ((b.programs c times i).run { s with generator := g }).1) = some (scope, id)) ∧
    (b.accepted? (i, g, ((b.programs c times i).run { s with generator := g }).1) =
      some (scope, id) → s.instances.has scope id = false) :=
  Provider.respond_has (hs.redrawn (s.redrawn_with g)) (b.provider i) (times i) (b.request i)
    scope id

theorem sound_programs (hs : s.Sound c) (b : Batch ι) (times : ι → Timestamp) (i : ι)
    (g : Generator) : ((b.programs c times i).run { s with generator := g }).2.Sound c :=
  (((b.provider i).respond_serves c (times i) (b.request i)).grows_run
    (hs.redrawn (s.redrawn_with g))).sound

/-- What was there before is not accepted. -/
theorem vacant_of_accepted (hs : s.Sound c)
    (he : e ∈ (serve (b.programs c times) seed order s).1)
    (ha : b.accepted? e = some (scope, id)) : s.instances.has scope id = false := by
  induction order generalizing s with
  | nil => cases he
  | cons i rest ih =>
    obtain ⟨hafter, hbefore⟩ := b.programs_has hs times i (seed i s.generator) scope id
    rcases List.mem_cons.mp he with rfl | he
    · exact hbefore ha
    · have hv := ih (b.sound_programs hs times i _) he
      rw [← Bool.not_eq_true, hafter, not_or] at hv
      exact Bool.not_eq_true _ ▸ hv.1

theorem accepted_once {e' : ι × Generator × Http.Response} (hs : s.Sound c)
    (he : e ∈ (serve (b.programs c times) seed order s).1)
    (he' : e' ∈ (serve (b.programs c times) seed order s).1)
    (ha : b.accepted? e = some (scope, id)) (ha' : b.accepted? e' = some (scope, id)) : e = e' := by
  induction order generalizing s with
  | nil => cases he
  | cons i rest ih =>
    have hs' := b.sound_programs hs times i (seed i s.generator)
    have hafter := (b.programs_has hs times i (seed i s.generator) scope id).1
    rcases List.mem_cons.mp he with rfl | he <;> rcases List.mem_cons.mp he' with rfl | he'
    · rfl
    · have hhas := hafter.mpr (.inr ha)
      rw [vacant_of_accepted hs' he' ha'] at hhas
      cases hhas
    · have hhas := hafter.mpr (.inr ha')
      rw [vacant_of_accepted hs' he ha] at hhas
      cases hhas
    · exact ih hs' he he'

/-- A conflict is with what was there before, or with what another request created. -/
theorem exists_of_conflict (hs : s.Sound c)
    (he : e ∈ (serve (b.programs c times) seed order s).1) (hc : b.chosen? e.1 = some (scope, id))
    (h : e.2.2.status = 409) : s.instances.has scope id = true ∨
      ∃ e' ∈ (serve (b.programs c times) seed order s).1, b.accepted? e' = some (scope, id) := by
  induction order generalizing s with
  | nil => cases he
  | cons i rest ih =>
    have hafter := (b.programs_has hs times i (seed i s.generator) scope id).1
    rcases List.mem_cons.mp he with rfl | he
    · have hreseeded := hs.redrawn (s.redrawn_with (seed i s.generator))
      have hhas := Provider.has_of_conflict (p := b.provider i) hreseeded hc h
      exact .inl hhas
    · rcases ih (b.sound_programs hs times i _) he with hv | ⟨e', he', ha⟩
      · exact (hafter.mp hv).imp_right fun ha => ⟨_, List.mem_cons_self, ha⟩
      · exact .inr ⟨e', List.mem_cons_of_mem _ he', ha⟩

end Batch

end CloudEmulation
