import CloudEmulation.Proofs.Azure.Machines
import CloudEmulation.Proofs.Cloud.Creations
import CloudEmulation.Proofs.Cloud.Renderings
import CloudEmulation.Proofs.Json.Given
/-!
What a virtual machine shows of the body that it was created with: at every level the members that
the service does not own, as they are. Of a reference to an image only its fields are shown.
-/

namespace CloudEmulation.Azure

open Json (Beside Field Nested SameBeside given? notNull recordMembers)

/-! What the levels of a machine show of those of the body. -/

structure HardwareProfile.Echo (j : Json) (v : Json.Members) : Prop where
  others : SameBeside fields j v
  vmSize : v.get? "vmSize" = j.given? "vmSize"

/-- A field of a reference, by its name or by its place. -/
def ImageReference.given? (j : Json) (name : String) : Option Json :=
  match j with
  | .array items => notNull items[fields.idxOf name]?
  | j => j.given? name

structure ImageReference.Echo (j : Json) (v : Json.Members) : Prop where
  fields : ∀ name ∈ fields, v.get? name = ImageReference.given? j name
  others : ∀ name, name ∉ ImageReference.fields → v.get? name = none

structure StorageProfile.Echo (j : Json) (v : Json.Members) : Prop where
  others : SameBeside fields j v
  imageReference :
    Nested ImageReference.Echo (j.given? "imageReference") (v.get? "imageReference")

structure OsProfile.Echo (j : Json) (v : Json.Members) : Prop where
  others : SameBeside fields j v
  computerName : v.get? "computerName" = j.given? "computerName"
  adminUsername : v.get? "adminUsername" = j.given? "adminUsername"
  adminPassword : v.get? "adminPassword" = none

structure MachineProperties.Echo (j : Json) (v : Json.Members) : Prop where
  others : SameBeside fields j v
  hardwareProfile :
    Nested HardwareProfile.Echo (j.given? "hardwareProfile") (v.get? "hardwareProfile")
  storageProfile :
    Nested StorageProfile.Echo (j.given? "storageProfile") (v.get? "storageProfile")
  osProfile : Nested OsProfile.Echo (j.given? "osProfile") (v.get? "osProfile")
  networkProfile : ∀ n, j.given? "networkProfile" = some n → v.get? "networkProfile" = some n

structure VirtualMachine.Echo (j : Json) (v : Json.Members) : Prop where
  others : SameBeside fields j v
  location : v.get? "location" = j.member? "location"
  tags : j.member? "tags" ≠ some (.object []) → v.get? "tags" = j.member? "tags"
  noTags : j.member? "tags" = some (.object []) → v.get? "tags" = none
  properties : ∃ w, v.get? "properties" = some (.object w) ∧
    MachineProperties.Echo ((j.given? "properties").getD (.object [])) w

variable {j : Json}

theorem HardwareProfile.echo {p : HardwareProfile} (ho : j.Ordered) (h : decode j = .ok p) :
    ∃ v, p.encode .ofFields = .object v ∧ Echo j v := by
  have hn : HardwareProfile.fields.Nodup := by decide
  obtain ⟨m, rfl, hb⟩ := Record.decodeOpen_eq_ok h
  simp only [Ranked.ap_eq_ok, Ranked.map_eq_ok] at hb
  obtain ⟨_, extra, ⟨size, hsize, rfl⟩, hx, rfl⟩ := hb
  cases hx
  exact ⟨_, rfl, Record.sameBeside_record ho.sorted rfl, Record.shown_text? hn rfl hsize (by simp)⟩

/-- The fields of a reference, from whatever it is read. -/
theorem ImageReference.echo_of_source {i : ImageReference} {source : RecordSource}
    (hgiven : ∀ name, ImageReference.given? j name =
      notNull (Record.find? ⟨"ImageReference", fields, source⟩ name))
    (h : (ImageReference.mk <$> Record.text? ⟨"ImageReference", fields, source⟩ "publisher" <*>
      Record.text? ⟨"ImageReference", fields, source⟩ "offer" <*>
      Record.text? ⟨"ImageReference", fields, source⟩ "sku" <*>
      Record.text? ⟨"ImageReference", fields, source⟩ "version") = .ok i) :
    ∃ v, i.encode .ofFields = .object v ∧ Echo j v := by
  have hn : ImageReference.fields.Nodup := by decide
  simp only [Ranked.ap_eq_ok, Ranked.map_eq_ok] at h
  obtain ⟨_, version, ⟨_, sku, ⟨_, offer, ⟨publisher, hpublisher, rfl⟩, hoffer, rfl⟩, hsku, rfl⟩,
    hversion, rfl⟩ := h
  have hshown {fields : List Field} {name : String} {a : Option String}
      (hfields : fields.map Field.name = ImageReference.fields) (hf : .text? name a ∈ fields)
      (ha : Record.text? ⟨"ImageReference", ImageReference.fields, source⟩ name = .ok a) :
      Dictionary.get? (recordMembers fields []) name = ImageReference.given? j name :=
    (Record.get?_field hn (.nil _) hfields hf).trans
      ((Record.text?_eq_ok ha).symm.trans (hgiven name).symm)
  refine ⟨_, rfl, ?_, fun name hother => Record.get?_other (.nil _) rfl hother⟩
  intro name hname
  simp only [ImageReference.fields, List.mem_cons, List.not_mem_nil, or_false] at hname
  obtain rfl | rfl | rfl | rfl := hname
  · exact hshown rfl (by simp) hpublisher
  · exact hshown rfl (by simp) hoffer
  · exact hshown rfl (by simp) hsku
  · exact hshown rfl (by simp) hversion

theorem ImageReference.echo {i : ImageReference} (h : decode j = .ok i) :
    ∃ v, i.encode .ofFields = .object v ∧ Echo j v := by
  obtain ⟨m, rfl, hb⟩ | ⟨items, rfl, hb⟩ := Record.source_of_decode h
  · exact echo_of_source (fun _ => rfl) hb
  · exact echo_of_source (fun _ => rfl) hb

theorem StorageProfile.echo {p : StorageProfile} (ho : j.Ordered) (h : decode j = .ok p) :
    ∃ v, p.encode .ofFields = .object v ∧ Echo j v := by
  have hn : StorageProfile.fields.Nodup := by decide
  obtain ⟨m, rfl, hb⟩ := Record.decodeOpen_eq_ok h
  simp only [Ranked.ap_eq_ok, Ranked.map_eq_ok] at hb
  obtain ⟨_, extra, ⟨image, himage, rfl⟩, hx, rfl⟩ := hb
  cases hx
  exact ⟨_, rfl, Record.sameBeside_record ho.sorted rfl,
    Record.shown_nested hn rfl ho (fun _ _ _ => ImageReference.echo) himage (by simp)⟩

theorem OsProfile.echo {p : OsProfile} (ho : j.Ordered) (h : decode j = .ok p) :
    ∃ v, p.shown.encode .ofFields = .object v ∧ Echo j v := by
  have hn : OsProfile.fields.Nodup := by decide
  obtain ⟨m, rfl, hb⟩ := Record.decodeOpen_eq_ok h
  simp only [Ranked.ap_eq_ok, Ranked.map_eq_ok] at hb
  obtain ⟨_, extra, ⟨_, password, ⟨_, user, ⟨computer, hcomputer, rfl⟩, huser, rfl⟩, -, rfl⟩, hx,
    rfl⟩ := hb
  cases hx
  exact ⟨_, rfl, {
    others := Record.sameBeside_record ho.sorted rfl
    computerName := Record.shown_text? hn rfl hcomputer (by simp [OsProfile.shown])
    adminUsername := Record.shown_text? hn rfl huser (by simp [OsProfile.shown])
    adminPassword :=
      Record.shown_field hn rfl (by simp [OsProfile.shown, Field.text?, Field.of?]) }⟩

theorem MachineProperties.echo {p : MachineProperties} (ho : j.Ordered) (h : decode j = .ok p)
    (subscription group : String) (i : Instance) :
    ∃ v, (p.assigned subscription group i).encode .ofFields = .object v ∧ Echo j v := by
  have hn : MachineProperties.fields.Nodup := by decide
  obtain ⟨m, rfl, hhardware, hstorage, hos, hnetwork, hx⟩ := eq_of_decode h
  obtain ⟨vmId, provisioningState, hardware, storage, os, network, extra⟩ := p
  subst hx
  exact ⟨_, rfl, {
    others := Record.sameBeside_record ho.sorted rfl
    hardwareProfile := Record.shown_nested hn rfl ho (fun _ _ => HardwareProfile.echo) hhardware
      (by simp [MachineProperties.assigned])
    storageProfile := Record.shown_nested hn rfl ho (fun _ _ => StorageProfile.echo) hstorage
      (by simp [MachineProperties.assigned])
    osProfile := Record.shown_nested hn rfl ho (fun _ _ => OsProfile.echo) hos
      (by simp [MachineProperties.assigned, Field.of?, Function.comp_def])
    networkProfile := by
      intro n hgiven
      have hshown : network = some n := by
        obtain ⟨hnone, -⟩ | ⟨j, x, hj, -, -, hx, rfl⟩ := Record.optional_eq_ok hnetwork
        · cases hgiven.symm.trans hnone
        · cases hx
          exact hj.symm.trans hgiven
      subst hshown
      exact Record.shown_field hn rfl (by simp [MachineProperties.assigned, Field.of?]) }⟩

theorem MachineProperties.echo_empty (subscription group : String) (i : Instance) :
    ∃ v, (empty.assigned subscription group i).encode .ofFields = .object v ∧
      Echo (.object []) v := by
  have hdecode : decode (.object []) = .ok empty := rfl
  exact echo (by simp [Dictionary.Sorted]) hdecode subscription group i

theorem MachineProperties.echo_given {title : String} {names : List String} {m : Json.Members}
    {given : Option MachineProperties} (ho : (Json.object m).Ordered)
    (h : Record.optional ⟨title, names, .members m⟩ "properties" decode = .ok given)
    (subscription group : String) (i : Instance) :
    ∃ v, ((given.getD .empty).assigned subscription group i).encode .ofFields = .object v ∧
      Echo (((Json.object m).given? "properties").getD (.object [])) v := by
  have hgiven : (Json.object m).given? "properties" = notNull (m.get? "properties") := rfl
  rw [hgiven]
  obtain ⟨hnone, rfl⟩ | ⟨j, p, hj, hfound, -, hp, rfl⟩ := Record.optional_eq_ok h
  · rw [show notNull (m.get? "properties") = none from hnone]
    exact echo_empty subscription group i
  · rw [show notNull (m.get? "properties") = some j from hj]
    exact echo (ho.of_get? hfound) hp subscription group i

theorem VirtualMachine.echo {m : VirtualMachine} (ho : j.Ordered) (h : decode j = .ok m)
    (hlocation : m.location ≠ "") (subscription group : String) {i : Instance}
    (hplacement : i.placement = m.location) :
    ∃ v, (m.assigned subscription group i).encode .ofFields = .object v ∧ Echo j v := by
  have hn : VirtualMachine.fields.Nodup := by decide
  have hnames := VirtualMachine.names_of_fields (m.assigned subscription group i)
  obtain ⟨members, rfl, hloc, htags, hproperties, hx⟩ := eq_of_decode h
  obtain ⟨machineId, name, resourceType, location, tags, properties, extra⟩ := m
  subst hx
  have hplacement : i.placement = location := hplacement
  have hlocation : Dictionary.get? members "location" = some (.string location) := by
    obtain ⟨-, rfl⟩ | ⟨j, hj, hread⟩ := Record.default_eq_ok hloc
    · exact absurd rfl hlocation
    · cases j <;> cases hread
      exact hj
  refine ⟨_, rfl, ?_⟩
  exact {
    others := Record.sameBeside_record ho.sorted hnames
    location := by
      rw [show (Json.object members).member? "location" = _ from hlocation, ← hplacement]
      exact Record.shown_field hn hnames (by simp [VirtualMachine.assigned, Field.text, Field.of])
    tags := (Record.shown_map? hn hnames ho htags (by simp [VirtualMachine.assigned])).1
    noTags := (Record.shown_map? hn hnames ho htags (by simp [VirtualMachine.assigned])).2
    properties := by
      obtain ⟨w, hw, hecho⟩ := MachineProperties.echo_given ho hproperties subscription group i
      refine ⟨w, Record.shown_field hn hnames ?_, hecho⟩
      rw [← hw]
      simp [VirtualMachine.assigned, VirtualMachine.given, Field.of?] }

theorem Draft.decode_of_ofBody {config : Configuration} {now : Timestamp}
    {subscription group name : String} {body : Json} {d : Draft}
    (h : Draft.ofBody config now subscription group name body = .ok d) :
    ∃ m, VirtualMachine.decode body = .ok m ∧ m.location ≠ "" ∧ d.location = m.location ∧
      body = .object d.request := by
  unfold Draft.ofBody at h
  split at h
  · cases h
  · rename_i m hm
    split at h
    · cases h
    · rename_i hlocation
      split at h
      · cases h
        exact ⟨m, hm, hlocation, rfl, rfl⟩
      · cases h

end CloudEmulation.Azure

namespace CloudEmulation.Cloud

variable {config : Configuration} {c : Cloud} {now : Timestamp} {op : Operation}
  {subscription group id : String} {body : Json}

/-- A machine echoes the body that it was created with at every level, whenever it is read; only of
references to images further members are lost. -/
theorem creation_echoed (h : Reachable config c) (hbody : op.body? = some body)
    (ho : body.Ordered)
    (ha : op.accepted? (c.perform now op).1 = some (.azure subscription group, id)) :
    ∃ v, Azure.VirtualMachine.Echo body v ∧
      ∀ ops, ((c.perform now op).2.after ops).Renders (.azure subscription group) id
        (.object v) := by
  have hc := h.consistent
  obtain ⟨d, i, hd, hrequest, hplacement, rfl, hmem⟩ := hc.azure_of_accepted hbody ha
  obtain ⟨m, hm, hlocation, hplaced, rfl⟩ := Azure.Draft.decode_of_ofBody hd
  obtain ⟨v, hv, hecho⟩ :=
    Azure.VirtualMachine.echo ho hm hlocation subscription group (hplacement.trans hplaced)
  refine ⟨v, hecho, fun ops => ?_⟩
  have hc' := hc.step (hc.step_perform now op)
  have hdescribe : Azure.describe subscription group i = .ok (m.assigned subscription group i) := by
    rw [Azure.describe, hrequest, hm]
  have hrenders := (hc'.after ops).renders (hc'.mem_after hmem ops)
  rwa [Azure.view_of_describe hdescribe, hv] at hrenders

/-- A machine with members at every level that no profile knows. -/
theorem echo_of_creation :
    let image : Json := .object [("offer", .string "UbuntuServer"), ("sku", .null)]
    let storage : Json := .object [("imageReference", image), ("osDisk", .null)]
    let os : Json := .object [("adminPassword", .string "secret"), ("computerName", .string "web")]
    let properties : Json := .object [("licenseType", .string "none"), ("osProfile", os),
      ("storageProfile", storage), ("vmId", .string "mine")]
    let body : Json := .object [("location", .string "eastus"), ("properties", properties),
      ("tags", .object []), ("zones", .array [.string "1"])]
    let op := Operation.put "shop" "web" "vm" body
    body.Ordered ∧
      op.accepted? (initial.perform ⟨0, 0⟩ op).1 = some (.azure "shop" "web", "vm") ∧
      ∃ v, Azure.VirtualMachine.Echo body v ∧
        Dictionary.get? v "zones" = some (.array [.string "1"]) ∧
        ∀ ops, ((initial.perform ⟨0, 0⟩ op).2.after ops).Renders (.azure "shop" "web") "vm"
          (.object v) := by
  intro image storage os properties body op
  have ho : body.Ordered := by
    simp [body, properties, os, storage, image]
    decide
  have ha : op.accepted? (initial.perform ⟨0, 0⟩ op).1 = some (.azure "shop" "web", "vm") := by
    decide +kernel
  obtain ⟨v, hecho, hrenders⟩ := creation_echoed (reachable_initial []) rfl ho ha
  exact ⟨ho, ha, v, hecho, hecho.others.get? "zones" (by decide), hrenders⟩

/-- A text in the reference to its image that a machine shows. -/
def imageMember? (j : Json) (name : String) : Option String := do
  let properties ← j.member? "properties"
  let storage ← properties.member? "storageProfile"
  let image ← storage.member? "imageReference"
  image.textMember? name

/-- An image that is named by its identifier is not shown. -/
theorem image_identifier_lost :
    let image : Json := .object [("id", .string "/images/own")]
    let storage : Json := .object [("imageReference", image)]
    let body : Json := .object [("location", .string "eastus"),
      ("properties", .object [("storageProfile", storage)])]
    let op := Operation.put "shop" "web" "vm" body
    let get : Http.Request := ⟨"GET", ⟨"https", none, .segments ["subscriptions", "shop",
      "resourceGroups", "web", "providers", "Microsoft.Compute", "virtualMachines", "vm"],
      some "api-version=2019-03-01", none⟩, [], none⟩
    let answer := ((initial.perform ⟨0, 0⟩ op).2.respond .azure ⟨1, 0⟩ get).1
    op.accepted? (initial.perform ⟨0, 0⟩ op).1 = some (.azure "shop" "web", "vm") ∧
      imageMember? body "id" = some "/images/own" ∧ answer.isSuccess = true ∧
      answer.body.bind (imageMember? · "id") = none := by
  decide +kernel

end CloudEmulation.Cloud
