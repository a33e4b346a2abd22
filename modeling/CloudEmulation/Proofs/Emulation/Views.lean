import CloudEmulation.Proofs.Emulation.Acceptance
/-!
What answers show of an instance, and how that tells its identity.
-/

namespace CloudEmulation

theorem Json.Field.name_map? (name : String) (m : Dictionary String) :
    (Json.Field.map? name m).name = name := by
  unfold map?
  split <;> rfl

namespace Azure

/-- Members that are kept beside the typed ones have other names. -/
theorem VirtualMachine.not_mem_extra {j : Json} {m : VirtualMachine}
    (h : VirtualMachine.decode j = .ok m) : ∀ p ∈ m.extra, p.1 ∉ VirtualMachine.fields := by
  obtain ⟨members, -, hb⟩ := Record.decodeOpen_eq_ok h
  simp only [Ranked.ap_eq_ok, Ranked.map_eq_ok] at hb
  obtain ⟨_, extra, ⟨_, _, ⟨_, _, ⟨_, _, ⟨_, _, ⟨_, _, ⟨_, -, rfl⟩, -, rfl⟩, -, rfl⟩, -, rfl⟩, -, rfl⟩, -,
    rfl⟩, he, rfl⟩ := hb
  cases he
  intro p hp
  exact Record.not_mem_extra hp

theorem members_of_encode {j : Json} {m : VirtualMachine} (h : VirtualMachine.decode j = .ok m)
    (subscription group : String) (i : Instance) :
    ((m.assigned subscription group i).encode .ofFields).textMember? "id" =
        some (resourceId subscription group machineType i.name) ∧
      ((m.assigned subscription group i).encode .ofFields).textMember? "name" = some i.name := by
  have hn : VirtualMachine.fields.Nodup := by decide
  have he : ∀ p ∈ (m.assigned subscription group i).extra, p.1 ∉ VirtualMachine.fields := by
    intro p hp
    exact VirtualMachine.not_mem_extra h p hp
  refine ⟨Json.textMember?_record hn he ?_ ?_, Json.textMember?_record hn he ?_ ?_⟩
  all_goals
    simp [VirtualMachine.fields, VirtualMachine.assigned, Json.Field.name_map?, Json.Field.text?,
      Json.Field.of?, Json.Field.text, Json.Field.of]

end Azure

namespace Google

theorem name_of_view (project : String) (i : Instance) :
    (view project i).textMember? "name" = some i.name := by
  have hn : ComputeInstance.fields.Nodup := by decide
  refine Json.textMember?_record hn ?_ rfl ?_
  · intro p hp
    exact (Dictionary.mem_without.mp hp).2
  · simp [describe]

end Google

theorem mapM_of_forall {α β γ : Type} {f : α → Except Fault β} {g : β → γ} {v : α → γ}
    {as : List α} (h : ∀ a ∈ as, ∃ b, f a = .ok b ∧ v a = g b) :
    ∃ bs, as.mapM f = .ok bs ∧ bs.map g = as.map v := by
  induction as with
  | nil => exact ⟨[], rfl, rfl⟩
  | cons a as ih =>
    obtain ⟨b, hb, hv⟩ := h a List.mem_cons_self
    obtain ⟨bs, hbs, hvs⟩ := ih fun x hx => h x (List.mem_cons_of_mem _ hx)
    refine ⟨b :: bs, ?_, ?_⟩
    · rw [List.mapM_cons, hb, hbs]
      rfl
    · rw [List.map_cons, List.map_cons, hvs, hv]

theorem exists_of_mem_mapM {α β : Type} {f : α → Except Fault β} {as : List α} {bs : List β}
    (h : as.mapM f = .ok bs) {b : β} (hb : b ∈ bs) : ∃ a ∈ as, f a = .ok b := by
  have hm := List.mem_map_of_mem (f := Except.ok (ε := Fault)) hb
  rw [← Except.mapM_eq_ok.mp h] at hm
  exact List.mem_map.mp hm

/-- The member of a shown instance that tells its identity. -/
def Provider.key : Provider → String
  | .google => "name"
  | .azure => "name"
  | .oracle => "id"

/-- What answers show of an instance. -/
def Scope.view (scope : Scope) (c : Configuration) (i : Instance) : Json :=
  match scope with
  | .google project _ => Google.view project i
  | .azure subscription group =>
    ((Azure.describe subscription group i).toOption.map (·.encode .ofFields)).getD .null
  | .oracle _ => ((Oracle.describe c i).toOption.map (·.encode .ofFields)).getD .null
  | .tenancy _ => .null

namespace Configuration.Makes

variable {c : Configuration} {scope : Scope} {i : Instance}

theorem azure_view {subscription group : String} (h : c.Makes (.azure subscription group) i) :
    ∃ m, Azure.describe subscription group i = .ok m ∧
      (Scope.azure subscription group).view c i = m.encode .ofFields ∧
      (m.encode .ofFields).textMember? "name" = some i.identity := by
  obtain ⟨now, subscription', group', name, body, d, id, nic, a, hd, rfl⟩ := h.azure_draft
  have hi : (d.record id nic a).metadata = d.request := rfl
  obtain ⟨m, hm, hv⟩ := Azure.describe_record hd subscription group hi
  refine ⟨_, hv, ?_, (Azure.members_of_encode hm _ _ _).2⟩
  rw [Scope.view, hv]
  rfl

theorem azure_name {subscription group : String} {m : Azure.VirtualMachine}
    (h : c.Makes (.azure subscription group) i) (hm : Azure.describe subscription group i = .ok m) :
    m.name = some i.identity := by
  obtain ⟨now, subscription', group', name, body, d, id, nic, a, hd, rfl⟩ := h.azure_draft
  have hi : (d.record id nic a).metadata = d.request := rfl
  obtain ⟨m', -, hv⟩ := Azure.describe_record hd subscription group hi
  cases hv.symm.trans hm
  rfl

theorem oracle_view {compartment : String} (h : c.Makes (.oracle compartment) i) :
    ∃ m, Oracle.describe c i = .ok m ∧
      (Scope.oracle compartment).view c i = m.encode .ofFields ∧
      (m.encode .ofFields).textMember? "id" = some i.identity := by
  obtain ⟨now, body, d, id, vnic, attachment, a, hd, -, rfl⟩ := h.oracle_draft
  have hv := d.describe_record hd (d.record id vnic attachment a) rfl
  refine ⟨_, hv, ?_, Oracle.id_of_encode c (d.record id vnic attachment a) d.details⟩
  rw [Scope.view, hv]
  rfl

theorem key_of_view (h : c.Makes scope i) :
    (scope.view c i).textMember? scope.provider.key = some i.identity := by
  cases scope with
  | google project zone =>
    obtain ⟨now, project', zone', body, d, id, nics, -, -, rfl⟩ := h.google_draft
    exact Google.name_of_view project (d.record id nics)
  | azure =>
    obtain ⟨m, -, hv, hk⟩ := h.azure_view
    rw [hv]
    exact hk
  | oracle =>
    obtain ⟨m, -, hv, hk⟩ := h.oracle_view
    rw [hv]
    exact hk
  | tenancy p => exact h.not_tenancy.elim

end Configuration.Makes

end CloudEmulation
