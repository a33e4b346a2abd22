import CloudEmulation.Azure.Service
import CloudEmulation.Proofs.Json.RoundTrip
/-!
Virtual machines as they are decoded, which are the ones that are read back as they were written.
-/

namespace CloudEmulation.Azure

open Json (Beside)

/-! Profiles, properties and machines whose members stand where a decoder puts them. -/

def HardwareProfile.Canonical (p : HardwareProfile) : Prop := Beside fields p.extra

def StorageProfile.Canonical (p : StorageProfile) : Prop := Beside fields p.extra

def OsProfile.Canonical (p : OsProfile) : Prop := Beside fields p.extra

structure MachineProperties.Canonical (p : MachineProperties) : Prop where
  hardware : ∀ h, p.hardwareProfile = some h → h.Canonical
  storage : ∀ s, p.storageProfile = some s → s.Canonical
  os : ∀ o, p.osProfile = some o → o.Canonical
  network : p.networkProfile ≠ some .null
  extra : Beside fields p.extra

structure VirtualMachine.Canonical (m : VirtualMachine) : Prop where
  tags : m.tags.Sorted
  properties : ∀ p, m.properties = some p → p.Canonical
  extra : Beside fields m.extra

theorem HardwareProfile.canonical_of_decode {j : Json} {p : HardwareProfile}
    (h : decode j = .ok p) : p.Canonical := by
  obtain ⟨m, rfl, hb⟩ := Record.decodeOpen_eq_ok h
  simp only [Ranked.ap_eq_ok, Ranked.map_eq_ok] at hb
  obtain ⟨_, extra, ⟨_, -, rfl⟩, hx, rfl⟩ := hb
  cases hx
  exact Record.beside_extra _ _ m

theorem StorageProfile.canonical_of_decode {j : Json} {p : StorageProfile}
    (h : decode j = .ok p) : p.Canonical := by
  obtain ⟨m, rfl, hb⟩ := Record.decodeOpen_eq_ok h
  simp only [Ranked.ap_eq_ok, Ranked.map_eq_ok] at hb
  obtain ⟨_, extra, ⟨_, -, rfl⟩, hx, rfl⟩ := hb
  cases hx
  exact Record.beside_extra _ _ m

theorem OsProfile.canonical_of_decode {j : Json} {p : OsProfile} (h : decode j = .ok p) :
    p.Canonical := by
  obtain ⟨m, rfl, hb⟩ := Record.decodeOpen_eq_ok h
  simp only [Ranked.ap_eq_ok, Ranked.map_eq_ok] at hb
  obtain ⟨_, extra, ⟨_, _, ⟨_, _, ⟨_, -, rfl⟩, -, rfl⟩, -, rfl⟩, hx, rfl⟩ := hb
  cases hx
  exact Record.beside_extra _ _ m

/-- The members that properties are read from. -/
theorem MachineProperties.eq_of_decode {j : Json} {p : MachineProperties} (h : decode j = .ok p) :
    ∃ m, j = .object m ∧
      let r : Record := ⟨"VirtualMachineProperties", fields, .members m⟩
      r.optional "hardwareProfile" HardwareProfile.decode = .ok p.hardwareProfile ∧
        r.optional "storageProfile" StorageProfile.decode = .ok p.storageProfile ∧
        r.optional "osProfile" OsProfile.decode = .ok p.osProfile ∧
        r.optional "networkProfile" Json.asAny = .ok p.networkProfile ∧ p.extra = r.extra := by
  obtain ⟨m, rfl, hb⟩ := Record.decodeOpen_eq_ok h
  simp only [Ranked.ap_eq_ok, Ranked.map_eq_ok] at hb
  obtain ⟨_, extra, ⟨_, network, ⟨_, os, ⟨_, storage, ⟨_, hardware, ⟨_, _, ⟨_, -, rfl⟩, -, rfl⟩,
    hhardware, rfl⟩, hstorage, rfl⟩, hos, rfl⟩, hnetwork, rfl⟩, hx, rfl⟩ := hb
  cases hx
  exact ⟨m, rfl, hhardware, hstorage, hos, hnetwork, rfl⟩

theorem MachineProperties.canonical_of_decode {j : Json} {p : MachineProperties}
    (h : decode j = .ok p) : p.Canonical := by
  obtain ⟨m, rfl, hhardware, hstorage, hos, hnetwork, hx⟩ := eq_of_decode h
  refine ⟨?_, ?_, ?_, ?_, hx ▸ Record.beside_extra _ _ m⟩
  · intro h he
    obtain ⟨j, -, hj⟩ := Record.optional_eq_some (he ▸ hhardware)
    exact HardwareProfile.canonical_of_decode hj
  · intro s he
    obtain ⟨j, -, hj⟩ := Record.optional_eq_some (he ▸ hstorage)
    exact StorageProfile.canonical_of_decode hj
  · intro o he
    obtain ⟨j, -, hj⟩ := Record.optional_eq_some (he ▸ hos)
    exact OsProfile.canonical_of_decode hj
  · intro he
    obtain ⟨j, hnull, hj⟩ := Record.optional_eq_some (he ▸ hnetwork)
    cases hj
    exact hnull rfl

theorem VirtualMachine.eq_of_decode {j : Json} {m : VirtualMachine} (h : decode j = .ok m) :
    ∃ members, j = .object members ∧
      let r : Record := ⟨"VirtualMachine", fields, .members members⟩
      r.textOr "location" "" = .ok m.location ∧
        r.default "tags" Json.asStringMap [] = .ok m.tags ∧
        r.optional "properties" MachineProperties.decode = .ok m.properties ∧
        m.extra = r.extra := by
  obtain ⟨members, rfl, hb⟩ := Record.decodeOpen_eq_ok h
  simp only [Ranked.ap_eq_ok, Ranked.map_eq_ok] at hb
  obtain ⟨_, extra, ⟨_, properties, ⟨_, tags, ⟨_, location, ⟨_, _, ⟨_, _, ⟨_, -, rfl⟩, -, rfl⟩, -,
    rfl⟩, hlocation, rfl⟩, htags, rfl⟩, hproperties, rfl⟩, hx, rfl⟩ := hb
  cases hx
  exact ⟨members, rfl, hlocation, htags, hproperties, rfl⟩

theorem VirtualMachine.canonical_of_decode {j : Json} {m : VirtualMachine}
    (h : decode j = .ok m) : m.Canonical := by
  obtain ⟨members, rfl, -, htags, hproperties, hx⟩ := eq_of_decode h
  refine ⟨Record.sorted_of_default htags, ?_, hx ▸ Record.beside_extra _ _ members⟩
  intro p he
  obtain ⟨j, -, hj⟩ := Record.optional_eq_some (he ▸ hproperties)
  exact MachineProperties.canonical_of_decode hj

/-! Reading back what was written. -/

theorem HardwareProfile.decode_encode {p : HardwareProfile} (h : p.Canonical) :
    decode (p.encode .ofFields) = .ok p := by
  have hn : fields.Nodup := by decide
  exact Record.decodeOpen_of_ok <| Ranked.ap_ok
    (Ranked.map_ok _ (Record.text?_record hn h rfl (by simp)))
    (congrArg Ranked.ok (Record.extra_record h rfl))

theorem ImageReference.decode_encode (i : ImageReference) :
    decode (i.encode .ofFields) = .ok i := by
  have hn : fields.Nodup := by decide
  have he : Beside fields [] := .nil _
  exact Record.decode_of_ok <| Ranked.ap_ok (Ranked.ap_ok (Ranked.ap_ok
    (Ranked.map_ok _ (Record.text?_record hn he rfl (by simp)))
    (Record.text?_record hn he rfl (by simp))) (Record.text?_record hn he rfl (by simp)))
    (Record.text?_record hn he rfl (by simp))

theorem StorageProfile.decode_encode {p : StorageProfile} (h : p.Canonical) :
    decode (p.encode .ofFields) = .ok p := by
  have hn : fields.Nodup := by decide
  refine Record.decodeOpen_of_ok <| Ranked.ap_ok
    (Ranked.map_ok _
      (Record.optional_record hn h rfl (ImageReference.encode .ofFields) (by simp) ?_))
    (congrArg Ranked.ok (Record.extra_record h rfl))
  rintro i -
  exact congrArg (Except.map some) i.decode_encode

theorem OsProfile.decode_encode {p : OsProfile} (h : p.Canonical) :
    decode (p.encode .ofFields) = .ok p := by
  have hn : fields.Nodup := by decide
  exact Record.decodeOpen_of_ok <| Ranked.ap_ok (Ranked.ap_ok (Ranked.ap_ok
    (Ranked.map_ok _ (Record.text?_record hn h rfl (by simp)))
    (Record.text?_record hn h rfl (by simp))) (Record.text?_record hn h rfl (by simp)))
    (congrArg Ranked.ok (Record.extra_record h rfl))

theorem MachineProperties.decode_encode {p : MachineProperties} (h : p.Canonical) :
    decode (p.encode .ofFields) = .ok p := by
  have hn : fields.Nodup := by decide
  refine Record.decodeOpen_of_ok <| Ranked.ap_ok (Ranked.ap_ok (Ranked.ap_ok (Ranked.ap_ok
    (Ranked.ap_ok (Ranked.ap_ok
      (Ranked.map_ok _ (Record.text?_record hn h.extra rfl (by simp)))
      (Record.text?_record hn h.extra rfl (by simp)))
      (Record.optional_record hn h.extra rfl (HardwareProfile.encode .ofFields) (by simp) ?_))
      (Record.optional_record hn h.extra rfl (StorageProfile.encode .ofFields) (by simp) ?_))
      (Record.optional_record hn h.extra rfl (OsProfile.encode .ofFields) (by simp) ?_))
      (Record.optional_record hn h.extra rfl id (by simp) ?_))
    (congrArg Ranked.ok (Record.extra_record h.extra rfl))
  · intro x hx
    exact congrArg (Except.map some) (HardwareProfile.decode_encode (h.hardware x hx))
  · intro x hx
    exact congrArg (Except.map some) (StorageProfile.decode_encode (h.storage x hx))
  · intro x hx
    exact congrArg (Except.map some) (OsProfile.decode_encode (h.os x hx))
  · intro x hx
    rw [Json.asOption_of_ne_null]
    · rfl
    · rintro rfl
      exact h.network hx

theorem VirtualMachine.names_of_fields (m : VirtualMachine) :
    [Json.Field.text? "id" m.id, .text? "name" m.name, .text? "type" m.resourceType,
      .text "location" m.location, .map? "tags" m.tags,
      .of? "properties" (MachineProperties.encode .ofFields) m.properties].map Json.Field.name =
        fields := by
  unfold Json.Field.map?
  split <;> rfl

theorem VirtualMachine.decode_encode {m : VirtualMachine} (h : m.Canonical) :
    decode (m.encode .ofFields) = .ok m := by
  have hn : fields.Nodup := by decide
  have hfields := m.names_of_fields
  refine Record.decodeOpen_of_ok <| Ranked.ap_ok (Ranked.ap_ok (Ranked.ap_ok (Ranked.ap_ok
    (Ranked.ap_ok (Ranked.ap_ok
      (Ranked.map_ok _ (Record.text?_record hn h.extra hfields (by simp)))
      (Record.text?_record hn h.extra hfields (by simp)))
      (Record.text?_record hn h.extra hfields (by simp)))
      (Record.textOr_record hn h.extra hfields (by simp) _))
      (Record.stringMap_record hn h.extra hfields h.tags (by simp)))
      (Record.optional_record hn h.extra hfields (MachineProperties.encode .ofFields) (by simp) ?_))
    (congrArg Ranked.ok (Record.extra_record h.extra hfields))
  intro p hp
  exact congrArg (Except.map some) (MachineProperties.decode_encode (h.properties p hp))

theorem MachineList.decode_encode {l : MachineList} (h : ∀ m ∈ l.value, m.Canonical) :
    decode (l.encode .ofFields) = .ok l := by
  have hn : fields.Nodup := by decide
  have he : Beside fields [] := .nil _
  exact Record.decode_of_ok <| Ranked.ap_ok
    (Ranked.map_ok _ (Record.list_record hn he rfl (by simp) fun m hm =>
      VirtualMachine.decode_encode (h m hm)))
    (Record.text?_record hn he rfl (by simp))

/-! The records within machines. -/

def HardwareProfile.levels (p : HardwareProfile) : List Json.Level := [⟨fields, p.extra⟩]

def StorageProfile.levels (p : StorageProfile) : List Json.Level := [⟨fields, p.extra⟩]

def OsProfile.levels (p : OsProfile) : List Json.Level := [⟨fields, p.extra⟩]

def MachineProperties.levels (p : MachineProperties) : List Json.Level :=
  ⟨fields, p.extra⟩ :: (p.hardwareProfile.toList.flatMap HardwareProfile.levels ++
    (p.storageProfile.toList.flatMap StorageProfile.levels ++
      p.osProfile.toList.flatMap OsProfile.levels))

def VirtualMachine.levels (m : VirtualMachine) : List Json.Level :=
  ⟨fields, m.extra⟩ :: m.properties.toList.flatMap MachineProperties.levels

def MachineList.levels (l : MachineList) : List Json.Level := l.value.flatMap VirtualMachine.levels

theorem MachineProperties.Canonical.levels {p : MachineProperties} (h : p.Canonical) :
    ∀ l ∈ p.levels, Beside l.fields l.further := by
  intro l hl
  obtain hl | hl := List.mem_cons.mp hl
  · exact hl ▸ h.extra
  · rcases List.mem_append.mp hl with hl | hl
    · obtain ⟨q, hq, hl⟩ := List.mem_flatMap.mp hl
      exact List.mem_singleton.mp hl ▸ h.hardware q (Option.mem_toList.mp hq)
    · rcases List.mem_append.mp hl with hl | hl
      · obtain ⟨q, hq, hl⟩ := List.mem_flatMap.mp hl
        exact List.mem_singleton.mp hl ▸ h.storage q (Option.mem_toList.mp hq)
      · obtain ⟨q, hq, hl⟩ := List.mem_flatMap.mp hl
        exact List.mem_singleton.mp hl ▸ h.os q (Option.mem_toList.mp hq)

theorem VirtualMachine.Canonical.levels {m : VirtualMachine} (h : m.Canonical) :
    ∀ l ∈ m.levels, Beside l.fields l.further := by
  intro l hl
  obtain hl | hl := List.mem_cons.mp hl
  · exact hl ▸ h.extra
  · obtain ⟨p, hp, hl⟩ := List.mem_flatMap.mp hl
    exact (h.properties p (Option.mem_toList.mp hp)).levels l hl

theorem MachineList.canonical_of_decode {j : Json} {l : MachineList} (h : decode j = .ok l) :
    ∀ m ∈ l.value, m.Canonical := by
  obtain ⟨source, hb⟩ := Record.decode_eq_ok h
  simp only [Ranked.ap_eq_ok, Ranked.map_eq_ok] at hb
  obtain ⟨_, _, ⟨value, hvalue, rfl⟩, -, rfl⟩ := hb
  intro m hm
  obtain ⟨j, hj⟩ := Record.mem_of_default hvalue m hm
  exact VirtualMachine.canonical_of_decode hj

theorem HardwareProfile.lossless : Json.Lossless decode encode levels fun _ => True :=
  .of_canonical (fun _ _ => canonical_of_decode) (fun _ h _ => decode_encode h)
    fun _ h _ hl => List.mem_singleton.mp hl ▸ h

theorem ImageReference.lossless : Json.Lossless decode encode (fun _ => []) fun _ => True :=
  .closed fun _ i _ _ => i.decode_encode

theorem StorageProfile.lossless : Json.Lossless decode encode levels fun _ => True :=
  .of_canonical (fun _ _ => canonical_of_decode) (fun _ h _ => decode_encode h)
    fun _ h _ hl => List.mem_singleton.mp hl ▸ h

theorem OsProfile.lossless : Json.Lossless decode encode levels fun _ => True :=
  .of_canonical (fun _ _ => canonical_of_decode) (fun _ h _ => decode_encode h)
    fun _ h _ hl => List.mem_singleton.mp hl ▸ h

theorem MachineProperties.lossless : Json.Lossless decode encode levels fun _ => True :=
  .of_canonical (fun _ _ => canonical_of_decode) (fun _ h _ => decode_encode h)
    fun _ h => h.levels

theorem VirtualMachine.lossless : Json.Lossless decode encode levels fun _ => True :=
  .of_canonical (fun _ _ => canonical_of_decode) (fun _ h _ => decode_encode h)
    fun _ h => h.levels

theorem MachineList.lossless : Json.Lossless decode encode levels fun _ => True :=
  .of_canonical (fun _ _ => canonical_of_decode) (fun _ h _ => decode_encode h) fun l h k hk => by
    obtain ⟨m, hm, hk⟩ := List.mem_flatMap.mp hk
    exact (h m hm).levels k hk

/-! Described machines. -/

theorem MachineProperties.Canonical.assigned {p : MachineProperties} (h : p.Canonical)
    (subscription group : String) (i : Instance) :
    (p.assigned subscription group i).Canonical where
  hardware := h.hardware
  storage := h.storage
  os o ho := by
    obtain ⟨o', ho', rfl⟩ := Option.map_eq_some_iff.mp ho
    exact h.os o' ho'
  network := by
    intro hn
    have hn := Option.some.inj hn
    have hp := h.network
    cases hnetwork : p.networkProfile with
    | none =>
      rw [hnetwork] at hn
      cases hn
    | some j =>
      rw [hnetwork] at hn hp
      exact hp (congrArg some hn)
  extra := h.extra

theorem MachineProperties.canonical_empty : empty.Canonical where
  hardware := nofun
  storage := nofun
  os := nofun
  network := nofun
  extra := .nil _

theorem VirtualMachine.Canonical.given {m : VirtualMachine} (h : m.Canonical) :
    m.given.Canonical := by
  unfold VirtualMachine.given
  cases hp : m.properties with
  | none => exact MachineProperties.canonical_empty
  | some p => exact h.properties p hp

theorem VirtualMachine.Canonical.assigned {m : VirtualMachine} (h : m.Canonical)
    (subscription group : String) (i : Instance) :
    (m.assigned subscription group i).Canonical where
  tags := h.tags
  properties p hp := by
    cases hp
    exact h.given.assigned subscription group i
  extra := h.extra

theorem describe_eq_ok {subscription group : String} {i : Instance} {v : VirtualMachine}
    (h : describe subscription group i = .ok v) :
    ∃ m, VirtualMachine.decode (.object i.metadata) = .ok m ∧ m.Canonical ∧
      v = m.assigned subscription group i := by
  unfold describe at h
  split at h
  · rename_i m hm
    cases h
    exact ⟨m, hm, VirtualMachine.canonical_of_decode hm, rfl⟩
  · cases h

end CloudEmulation.Azure
