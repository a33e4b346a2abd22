import CloudEmulation.Proofs.Azure.Machines
/-!
Passwords of machines: a machine is described in the same way whatever its request has for a
password, and what is shown of it has none.
-/

namespace CloudEmulation.Azure

/-- The members of a profile without the password; a value that cannot be one stays. -/
def OsProfile.withoutPassword (m : Json.Members) : Json.Members :=
  match m.get? "adminPassword" with
  | some (.string _) => m.erase "adminPassword"
  | some .null => m.erase "adminPassword"
  | _ => m

/-- A profile without its password. -/
def OsProfile.concealed : Json → Json
  | .object m => .object (withoutPassword m)
  | j => j

def MachineProperties.concealed : Json → Json := Json.update "osProfile" OsProfile.concealed

/-- The members of a machine, without the password. -/
def concealedMembers (m : Json.Members) : Json.Members :=
  m.update "properties" MachineProperties.concealed

/-- A machine without the password of its profile. -/
def VirtualMachine.concealed : Json → Json := Json.update "properties" MachineProperties.concealed

def MachineProperties.shown (p : MachineProperties) : MachineProperties :=
  { p with osProfile := p.osProfile.map OsProfile.shown }

def VirtualMachine.shown (m : VirtualMachine) : VirtualMachine :=
  { m with properties := m.properties.map MachineProperties.shown }

/-! Decoding. -/

theorem OsProfile.concealed_eq_null {j : Json} : concealed j = .null ↔ j = .null := by
  cases j <;> simp [concealed]

theorem OsProfile.sameBut_withoutPassword (m : Json.Members) :
    Dictionary.SameBut "adminPassword" m (withoutPassword m) := by
  unfold withoutPassword
  split
  · exact Dictionary.sameBut_erase m _
  · exact Dictionary.sameBut_erase m _
  · exact .refl _ m

theorem OsProfile.related_password {title : String} {names : List String} (m : Json.Members) :
    Ranked.Related (fun _ p => p = none)
      (Record.text? ⟨title, names, .members m⟩ "adminPassword")
      (Record.text? ⟨title, names, .members (withoutPassword m)⟩ "adminPassword") := by
  have hgone : Dictionary.get? (m.erase "adminPassword") "adminPassword" = none :=
    m.get?_erase_self "adminPassword"
  unfold withoutPassword Record.text? Record.optional Record.default Record.find?
  cases hp : Dictionary.get? m "adminPassword" with
  | none =>
    simp only [hp]
    exact .ok rfl
  | some j =>
    cases j with
    | string s =>
      simp only [hp, hgone]
      exact .ok rfl
    | null =>
      simp only [hp, hgone]
      exact .ok rfl
    | _ =>
      simp only [hp]
      exact .fault

theorem OsProfile.decode_concealed (j : Json) :
    decode (concealed j) = (decode j).map OsProfile.shown := by
  cases j with
  | object m =>
    have h := sameBut_withoutPassword m
    refine Ranked.Related.result ?_
    refine .ap (.ap (.ap (.map ?_ (Record.related_default h (by decide) _ _))
      (Record.related_default h (by decide) _ _)) (related_password m))
      (Record.related_extra h (by decide))
    rintro _ _ rfl _ _ rfl _ _ rfl _ _ rfl
    rfl
  | _ => rfl

theorem MachineProperties.decode_concealed (j : Json) :
    decode (concealed j) = (decode j).map shown := by
  cases j with
  | object m =>
    have h := Dictionary.sameBut_update m "osProfile" OsProfile.concealed
    refine Ranked.Related.result ?_
    refine .ap (.ap (.ap (.ap (.ap (.ap (.map ?_ (Record.related_default h (by decide) _ _))
      (Record.related_default h (by decide) _ _)) (Record.related_default h (by decide) _ _))
      (Record.related_default h (by decide) _ _))
      (Record.related_optional OsProfile.decode_concealed fun _ => OsProfile.concealed_eq_null))
      (Record.related_default h (by decide) _ _)) (Record.related_extra h (by decide))
    rintro _ _ rfl _ _ rfl _ _ rfl _ _ rfl _ _ rfl _ _ rfl _ _ rfl
    rfl
  | _ => rfl

theorem VirtualMachine.decode_concealed (j : Json) :
    decode (concealed j) = (decode j).map shown := by
  cases j with
  | object m =>
    have h := Dictionary.sameBut_update m "properties" MachineProperties.concealed
    refine Ranked.Related.result ?_
    refine .ap (.ap (.ap (.ap (.ap (.ap (.map ?_ (Record.related_default h (by decide) _ _))
      (Record.related_default h (by decide) _ _)) (Record.related_default h (by decide) _ _))
      (Record.related_default h (by decide) _ _)) (Record.related_default h (by decide) _ _))
      (Record.related_optional MachineProperties.decode_concealed fun _ => Json.update_eq_null))
      (Record.related_extra h (by decide))
    rintro _ _ rfl _ _ rfl _ _ rfl _ _ rfl _ _ rfl _ _ rfl _ _ rfl
    rfl
  | _ => rfl

/-! Describing machines. -/

theorem MachineProperties.assigned_shown (subscription group : String) (i : Instance)
    (p : MachineProperties) : p.shown.assigned subscription group i =
      p.assigned subscription group i := by
  obtain ⟨vmId, state, hardware, storage, os, network, extra⟩ := p
  cases os <;> rfl

theorem VirtualMachine.assigned_shown (subscription group : String) (i : Instance)
    (m : VirtualMachine) : m.shown.assigned subscription group i =
      m.assigned subscription group i := by
  obtain ⟨id, name, type, location, tags, properties, extra⟩ := m
  cases properties with
  | none => rfl
  | some p =>
    have hp := p.assigned_shown subscription group i
    simp only [shown, assigned, given, Option.map_some, Option.getD_some, hp]

/-- The password that a machine is shown with. -/
def password? (machine : Json) : Option Json :=
  ((machine.member? "properties").bind (·.member? "osProfile")).bind (·.member? "adminPassword")

theorem OsProfile.member?_shown {p : OsProfile} (h : p.Canonical) :
    (p.shown.encode .ofFields).member? "adminPassword" = none := by
  have hn : fields.Nodup := by decide
  exact Json.member?_record hn h.apart rfl (f := .text? "adminPassword" none) (by simp [shown])

theorem MachineProperties.member?_osProfile {p : MachineProperties} (h : p.Canonical) :
    (p.encode .ofFields).member? "osProfile" = p.osProfile.map (OsProfile.encode .ofFields) := by
  have hn : fields.Nodup := by decide
  exact Json.member?_record hn h.extra.apart rfl
    (f := .of? "osProfile" (OsProfile.encode .ofFields) p.osProfile) (by simp)

theorem VirtualMachine.member?_properties {m : VirtualMachine} (h : m.Canonical) :
    (m.encode .ofFields).member? "properties" =
      m.properties.map (MachineProperties.encode .ofFields) := by
  have hn : fields.Nodup := by decide
  exact Json.member?_record hn h.extra.apart m.names_of_fields
    (f := .of? "properties" (MachineProperties.encode .ofFields) m.properties) (by simp)

theorem password?_of_describe {subscription group : String} {i : Instance} {v : VirtualMachine}
    (h : describe subscription group i = .ok v) : password? (v.encode .ofFields) = none := by
  obtain ⟨m, -, hm, rfl⟩ := describe_eq_ok h
  have hp := hm.given.assigned subscription group i
  rw [password?, VirtualMachine.member?_properties (hm.assigned subscription group i)]
  show (((m.given.assigned subscription group i).encode .ofFields).member? "osProfile").bind _ =
    none
  rw [MachineProperties.member?_osProfile hp]
  show ((m.given.osProfile.map OsProfile.shown).map _).bind _ = none
  cases ho : m.given.osProfile with
  | none => rfl
  | some o => exact OsProfile.member?_shown (hm.given.os o ho)

end CloudEmulation.Azure

namespace CloudEmulation

/-- A record without the password of its request. -/
def Instance.concealed (i : Instance) : Instance :=
  { i with metadata := Azure.concealedMembers i.metadata }

namespace Azure

theorem describe_concealed (subscription group : String) (i : Instance) :
    describe subscription group i.concealed = describe subscription group i := by
  have hd : VirtualMachine.decode (.object i.concealed.metadata) = _ :=
    VirtualMachine.decode_concealed (.object i.metadata)
  unfold describe
  rw [hd]
  cases VirtualMachine.decode (.object i.metadata) with
  | error e => rfl
  | ok m => exact congrArg Except.ok (m.assigned_shown subscription group i)

end Azure

end CloudEmulation
