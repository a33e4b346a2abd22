import CloudEmulation.Proofs.Cloud.Creations
import CloudEmulation.Proofs.Cloud.Renderings
import CloudEmulation.Proofs.Google.Interfaces
import CloudEmulation.Proofs.Json.Order
import CloudEmulation.Proofs.Json.RoundTrip
import CloudEmulation.Proofs.Network.Address
/-!
What an instance shows of the body that it was inserted with: the members that the service does not
assign, as they are, and nothing of those that it owns.
-/

namespace CloudEmulation.Google

open Json (Beside Field recordMembers)

variable {config : Configuration} {now : Timestamp} {project zone : String} {m m' v : Json.Members}
  {d d' : Draft} {s s' : CloudState} {i : Instance} {nics : List Nic} {entry : Json}

/-- What is shown of an interface that has an entry in the request, or none. -/
structure InterfaceEcho (index : Nat) (entry : Option Json) (v : Json.Members) : Prop where
  sorted : v.Sorted
  name : v.get? "name" = some (.string ("nic" ++ toString index))
  address : ∃ a : Address, v.get? "networkIP" = some (.string a.text) ∧
    ∀ raw, entry.bind (·.member? "networkIP") = some (.string raw) → a.text = raw
  others : ∀ name, name ∉ NetworkInterface.fields →
    v.get? name = entry.bind (·.member? name)

/-- What is shown of an instance that was inserted with a body. -/
structure Echo (config : Configuration) (now : Timestamp) (project zone : String)
    (m v : Json.Members) : Prop where
  sorted : v.Sorted
  others : ∀ name, name ∉ ComputeInstance.fields → v.get? name = m.get? name
  name : ∃ name, m.get? "name" = some (.string name) ∧ v.get? "name" = some (.string name) ∧
    v.get? "selfLink" = some (.string (zoneLink project zone ++ "/instances/" ++ name))
  tags : v.get? "tags" = some ((m.get? "tags").getD (.object []))
  scheduling : v.get? "scheduling" =
    some ((m.get? "scheduling").getD (Scheduling.standard.encode .ofFields))
  interfaces : ∃ nics, v.get? "networkInterfaces" = some (.array nics) ∧
    nics.length = max 1 (listed m).length ∧
    ∀ index, index < nics.length → ∃ w, nics[index]? = some (.object w) ∧
      InterfaceEcho index (listed m)[index]? w
  kind : v.get? "kind" = some (.string "compute#instance")
  id : ∃ drawn, v.get? "id" = some (.string drawn)
  zone : v.get? "zone" = some (.string zone)
  status : v.get? "status" = some (.string (statusName config.initialStatus))
  creationTimestamp : v.get? "creationTimestamp" = some (.string now.millisText)

/-- The members for which no value of the caller counts. -/
def owned : List String := ["kind", "id", "zone", "status", "creationTimestamp", "selfLink"]

/-! Requests. -/

theorem InsertRequest.of_decode {request : InsertRequest}
    (h : InsertRequest.decode (.object m) = .ok request) :
    m.get? "name" = some (.string request.name) ∧
      request.extra = .ofList (m.without ["name"]) := by
  obtain ⟨_, ⟨⟩, hb⟩ := Record.decodeOpen_eq_ok h
  simp only [Ranked.ap_eq_ok, Ranked.map_eq_ok, Record.text_eq_ok] at hb
  obtain ⟨_, _, ⟨name, hname, rfl⟩, hx, rfl⟩ := hb
  cases hx
  exact ⟨hname, rfl⟩

theorem InsertRequest.decode_of_name {name : String} (h : m.get? "name" = some (.string name)) :
    InsertRequest.decode (.object m) = .ok ⟨name, .ofList (m.without ["name"])⟩ :=
  Record.decodeOpen_of_ok (Ranked.ap_ok (Ranked.map_ok _ (Record.text_eq_ok.mpr h)) rfl)

theorem get?_further (hm : m.Sorted) {name : String} (hn : name ≠ "name") :
    Dictionary.get? (.ofList (m.without ["name"])) name = m.get? name := by
  rw [(hm.without _).ofList_eq, Dictionary.get?_without, if_neg (by simpa using hn)]

theorem get?_name (m : Json.Members) :
    Dictionary.get? (.ofList (m.without ["name"])) "name" = none := by
  refine Dictionary.get?_of_not_mem fun p hp hn => ?_
  exact (Dictionary.mem_without.mp (Dictionary.mem_ofList hp)).2 (by simp [hn])

theorem listed_congr (h : m'.get? "networkInterfaces" = m.get? "networkInterfaces") :
    listed m' = listed m := by
  rw [listed, listed, h]

theorem requestedAddresses_congr (h : listed m' = listed m) :
    requestedAddresses m' = requestedAddresses m := by
  rw [requestedAddresses, requestedAddresses, h]

theorem describeInterfaces_congr (h : listed m' = listed m) (nics : List Nic) :
    describeInterfaces m' nics = describeInterfaces m nics := by
  rw [describeInterfaces, describeInterfaces, h]

theorem ordered_of_listed (ho : (Json.object m).Ordered) (h : entry ∈ listed m) :
    entry.Ordered := by
  unfold listed at h
  split at h
  · rename_i hentries
    exact (ho.of_get? hentries).of_mem h
  · cases h

theorem requestedAddresses_eq_ok {as : List (Option Address)}
    (h : requestedAddresses m = .ok as) : as.length = max 1 (listed m).length ∧
      ∀ (index : Nat) entry, (listed m)[index]? = some entry →
        ∃ request, requestedAddress entry = .ok request ∧ as[index]? = some request := by
  obtain ⟨found, hfound, h⟩ := Except.bind_eq_ok.mp h
  cases h
  have hmap := Except.mapM_eq_ok.mp hfound
  cases hlisted : listed m with
  | nil =>
    rw [hlisted] at hmap
    rw [List.map_eq_nil_iff.mp hmap.symm]
    exact ⟨rfl, fun index entry he => by cases he⟩
  | cons entry entries =>
    rw [hlisted] at hmap
    obtain ⟨a, rest, rfl, -, -⟩ := List.map_eq_cons_iff.mp hmap.symm
    have hlength := congrArg List.length hmap
    rw [List.length_map, List.length_map, List.length_cons, List.length_cons] at hlength
    refine ⟨?_, ?_⟩
    · show rest.length + 1 = _
      rw [List.length_cons]
      omega
    · intro index entry he
      have hat := congrArg (·[index]?) hmap
      simp only [List.getElem?_map, he, Option.map_some] at hat
      obtain ⟨request, hr, hat⟩ := Option.map_eq_some_iff.mp hat.symm
      exact ⟨request, hat.symm, hr⟩

theorem address_of_requested {request : Option Address} {raw : String}
    (h : requestedAddress entry = .ok request)
    (hraw : entry.member? "networkIP" = some (.string raw)) :
    ∃ a, request = some a ∧ a.text = raw := by
  unfold requestedAddress at h
  rw [hraw] at h
  simp only [Option.bind_some, Json.string?] at h
  split at h
  · rename_i a ha
    cases h
    exact ⟨a, rfl, Address.text_of_ofText? ha⟩
  · cases h

theorem Connected.length {index : Nat} {requests : List (Option Address)}
    (h : Connected index requests nics) : nics.length = requests.length := by
  induction h with
  | nil => rfl
  | cons _ _ _ _ ih => rw [List.length_cons, List.length_cons, ih]

theorem Connected.name {index at_ : Nat} {requests : List (Option Address)} {nic : Nic}
    (h : Connected index requests nics) (hn : nics[at_]? = some nic) :
    nic.name = "nic" ++ toString (index + at_) := by
  induction h generalizing at_ with
  | nil => cases hn
  | cons _ hname _ _ ih =>
    cases at_ with
    | zero =>
      cases hn
      exact hname
    | succ at_ =>
      rw [ih hn, Nat.add_right_comm, Nat.add_assoc]

/-! Descriptions. -/

theorem echo_interface {index : Nat} {entry : Option Json} {nic : Nic}
    (ho : ∀ j, entry = some j → j.Ordered) (hname : nic.name = "nic" ++ toString index)
    (haddress : ∀ raw, entry.bind (·.member? "networkIP") = some (.string raw) →
      nic.address.text = raw) :
    ∃ w, (describeInterface entry nic).encode .ofFields = .object w ∧
      InterfaceEcho index entry w := by
  have hn : NetworkInterface.fields.Nodup := by decide
  let requested := (entry.bind Json.members?).getD []
  have hsorted : requested.Sorted := by
    cases entry with
    | none => exact .nil
    | some j =>
      cases j with
      | object members => exact (ho _ rfl).sorted
      | _ => exact .nil
  have hget : ∀ name, requested.get? name = entry.bind (·.member? name) := by
    intro name
    cases entry with
    | none => rfl
    | some j => cases j <;> rfl
  have hbeside : Beside NetworkInterface.fields (describeInterface entry nic).extra :=
    ⟨hsorted.without _, fun p hp => (Dictionary.mem_without.mp hp).2⟩
  let fields : List Field := [.text "name" nic.name, .text "networkIP" nic.address.text]
  have hfields : fields.map Field.name = NetworkInterface.fields := rfl
  refine ⟨recordMembers fields (describeInterface entry nic).extra, rfl,
    Dictionary.sorted_ofList _, ?_, ⟨nic.address, ?_, haddress⟩, ?_⟩
  · rw [← hname]
    exact Record.get?_field hn hbeside hfields List.mem_cons_self
  · exact Record.get?_field hn hbeside hfields (List.mem_cons_of_mem _ List.mem_cons_self)
  · intro name hother
    rw [Record.get?_other hbeside hfields hother, ← hget]
    exact (Dictionary.get?_without _ _ _).trans (if_neg hother)

/-- The assigned members of an instance. -/
def assignedFields (project : String) (i : Instance) : List Field :=
  [.text "kind" "compute#instance", .text "id" i.id, .text "name" i.name,
    .text "zone" i.placement, .text "status" (statusName i.status),
    .of "tags" ((Dictionary.get? i.metadata "tags").getD (.object [])),
    .of "scheduling"
      ((Dictionary.get? i.metadata "scheduling").getD (Scheduling.standard.encode .ofFields)),
    .list "networkInterfaces" (NetworkInterface.encode .ofFields)
      (describeInterfaces i.metadata i.nics),
    .text "creationTimestamp" i.createdAt.millisText,
    .text "selfLink" (zoneLink project i.placement ++ "/instances/" ++ i.name)]

/-- The members of an instance as it is shown. -/
def shownMembers (project : String) (i : Instance) : Json.Members :=
  recordMembers (assignedFields project i) (Dictionary.without i.metadata ComputeInstance.fields)

theorem view_eq (project : String) (i : Instance) :
    view project i = .object (shownMembers project i) := rfl

theorem beside_metadata (h : i.metadata.Sorted) : Beside ComputeInstance.fields
    (Dictionary.without i.metadata ComputeInstance.fields) :=
  ⟨h.without _, fun _ hp => (Dictionary.mem_without.mp hp).2⟩

theorem get?_assigned (h : i.metadata.Sorted) (f : Field) (hf : f ∈ assignedFields project i) :
    (shownMembers project i).get? f.name = f.value := by
  have hn : ComputeInstance.fields.Nodup := by decide
  have hfields : (assignedFields project i).map Field.name = ComputeInstance.fields := rfl
  exact Record.get?_field hn (beside_metadata h) hfields hf

theorem get?_unassigned (h : i.metadata.Sorted) {name : String}
    (hn : name ∉ ComputeInstance.fields) :
    (shownMembers project i).get? name = i.metadata.get? name := by
  have hfields : (assignedFields project i).map Field.name = ComputeInstance.fields := rfl
  rw [shownMembers, Record.get?_other (beside_metadata h) hfields hn, Dictionary.get?_without,
    if_neg hn]

theorem Draft.of_object (hd : Draft.ofBody config now project zone (.object m) = .ok d) :
    ∃ name addresses, m.get? "name" = some (.string name) ∧ name ≠ "" ∧
      requestedAddresses (.ofList (m.without ["name"])) = .ok addresses ∧
      d = ⟨project, zone, ⟨name, .ofList (m.without ["name"])⟩, addresses, config.initialStatus,
        now⟩ := by
  unfold Draft.ofBody at hd
  split at hd
  · cases hd
  · rename_i request hr
    split at hd
    · cases hd
    · rename_i hne
      obtain ⟨addresses, ha, hd⟩ := Except.bind_eq_ok.mp hd
      obtain ⟨hname, hextra⟩ := InsertRequest.of_decode hr
      obtain ⟨name, extra⟩ := request
      cases hextra
      cases hd
      exact ⟨name, addresses, hname, hne, ha, rfl⟩

theorem echo_interfaces (ho : (Json.object m).Ordered) {addresses : List (Option Address)}
    (ha : requestedAddresses m = .ok addresses) (hc : Connected 0 addresses nics) :
    (describeInterfaces m nics).length = max 1 (listed m).length ∧
      ∀ index, index < (describeInterfaces m nics).length → ∃ w,
        ((describeInterfaces m nics).map (NetworkInterface.encode .ofFields))[index]? =
          some (.object w) ∧ InterfaceEcho index (listed m)[index]? w := by
  obtain ⟨hlength, hrequested⟩ := requestedAddresses_eq_ok ha
  have hnics : (describeInterfaces m nics).length = nics.length := List.length_mapIdx
  refine ⟨by rw [hnics, hc.length, hlength], ?_⟩
  intro index hi
  rw [hnics] at hi
  have hnic := List.getElem?_eq_getElem hi
  have hordered : ∀ j, (listed m)[index]? = some j → j.Ordered := fun j hj =>
    ordered_of_listed ho (List.mem_of_getElem? hj)
  have haddress : ∀ raw, (listed m)[index]?.bind (·.member? "networkIP") = some (.string raw) →
      nics[index].address.text = raw := by
    intro raw hraw
    obtain ⟨entry, he, hraw⟩ := Option.bind_eq_some_iff.mp hraw
    obtain ⟨request, hr, hat⟩ := hrequested index entry he
    obtain ⟨a, rfl, rfl⟩ := address_of_requested hr hraw
    have hfound := hc.address hat
    rw [hnic] at hfound
    rw [Option.some.inj hfound]
  obtain ⟨w, hw, hecho⟩ := echo_interface hordered (hc.name hnic) haddress
  rw [Nat.zero_add] at hecho
  refine ⟨w, ?_, hecho⟩
  rw [List.getElem?_map, describeInterfaces, List.getElem?_mapIdx, hnic, ← hw]
  rfl

/-- Where all interfaces of a draft are connected, its record echoes the body. -/
theorem echo_record (id : String) (ho : (Json.object m).Ordered)
    (hd : Draft.ofBody config now project zone (.object m) = .ok d)
    (hc : Connected 0 d.addresses nics) :
    Echo config now project zone m (shownMembers project (d.record id nics)) := by
  obtain ⟨name, addresses, hname, -, haddresses, rfl⟩ := Draft.of_object hd
  let further : Json.Members := .ofList (m.without ["name"])
  have hfurther : ∀ other, other ≠ "name" → further.get? other = m.get? other := fun other h =>
    get?_further ho.sorted h
  have hlisted : listed further = listed m := listed_congr (hfurther _ (by decide))
  rw [requestedAddresses_congr hlisted] at haddresses
  obtain ⟨hcount, hechoes⟩ := echo_interfaces ho haddresses hc
  let d : Draft := ⟨project, zone, ⟨name, further⟩, addresses, config.initialStatus, now⟩
  let i := d.record id nics
  have hsorted : i.metadata.Sorted := Dictionary.sorted_ofList _
  have hshown (f : Field) (hf : f ∈ assignedFields project i) :
      (shownMembers project i).get? f.name = f.value := get?_assigned hsorted f hf
  exact {
    sorted := Dictionary.sorted_ofList _
    others other hother := by
      refine (get?_unassigned hsorted hother).trans (hfurther other ?_)
      rintro rfl
      exact hother (by decide)
    name := ⟨name, hname, hshown (.text "name" i.name) (by simp [assignedFields]),
      hshown (.text "selfLink" (zoneLink project i.placement ++ "/instances/" ++ i.name))
        (by simp [assignedFields])⟩
    tags := by
      rw [← hfurther _ (by decide)]
      exact hshown (.of "tags" ((Dictionary.get? i.metadata "tags").getD (.object [])))
        (by simp [assignedFields])
    scheduling := by
      rw [← hfurther _ (by decide)]
      exact hshown (.of "scheduling" ((Dictionary.get? i.metadata "scheduling").getD
        (Scheduling.standard.encode .ofFields))) (by simp [assignedFields])
    interfaces := by
      refine ⟨(describeInterfaces m nics).map (NetworkInterface.encode .ofFields), ?_,
        (List.length_map _).trans hcount, fun index hindex => ?_⟩
      · rw [← describeInterfaces_congr hlisted]
        exact hshown (.list "networkInterfaces" (NetworkInterface.encode .ofFields)
          (describeInterfaces i.metadata i.nics)) (by simp [assignedFields])
      · rw [List.length_map] at hindex
        exact hechoes index hindex
    kind := hshown (.text "kind" "compute#instance") (by simp [assignedFields])
    id := ⟨i.id, hshown (.text "id" i.id) (by simp [assignedFields])⟩
    zone := hshown (.text "zone" i.placement) (by simp [assignedFields])
    status := hshown (.text "status" (statusName i.status)) (by simp [assignedFields])
    creationTimestamp :=
      hshown (.text "creationTimestamp" i.createdAt.millisText) (by simp [assignedFields]) }

/-! Bodies that differ in members of the service. -/

/-- The draft of a request for the same with other further members. -/
def Draft.withExtra (d : Draft) (extra : Json.Members) : Draft :=
  { d with request := ⟨d.request.name, extra⟩ }

theorem Draft.ofBody_of_sameOwned (hm : m.Sorted) (hm' : m'.Sorted)
    (hsame : ∀ name, name ∉ owned → m'.get? name = m.get? name)
    (hd : Draft.ofBody config now project zone (.object m) = .ok d) :
    Draft.ofBody config now project zone (.object m') =
      .ok (d.withExtra (.ofList (m'.without ["name"]))) := by
  obtain ⟨name, addresses, hname, hne, haddresses, rfl⟩ := Draft.of_object hd
  have hname' : m'.get? "name" = some (.string name) := by
    rw [hsame "name" (by decide), hname]
  have hlisted :
      listed (.ofList (m'.without ["name"])) = listed (.ofList (m.without ["name"])) := by
    refine listed_congr ?_
    rw [get?_further hm (by decide), get?_further hm' (by decide), hsame _ (by decide)]
  unfold Draft.ofBody
  simp only [InsertRequest.decode_of_name hname', if_neg hne, requestedAddresses_congr hlisted,
    haddresses]
  rfl

theorem Draft.create_eq_ok : d.create s = (.ok i, s') ↔
    ∃ nics s₁ id s₂, s.vacant d.scope d.request.name = .ok () ∧
      connect s 0 d.addresses = (.ok nics, s₁) ∧ s₁.draw (·.digits 19) = (id, s₂) ∧
      i = d.record id nics ∧ s' = s₂.addInstance d.scope i := by
  unfold create
  cases s.vacant d.scope d.request.name with
  | error f => simp
  | ok u =>
    cases hc : connect s 0 d.addresses with
    | mk result s₁ =>
      cases result with
      | error f => simp
      | ok nics =>
        rcases hx : s₁.draw (·.digits 19) with ⟨id, s₂⟩
        simp only [hx]
        constructor
        · rintro ⟨⟩
          exact ⟨nics, s₁, id, s₂, trivial, rfl, hx, rfl, rfl⟩
        · rintro ⟨nics', s₁', id', s₂', -, ⟨⟩, hx', rfl, rfl⟩
          cases hx.symm.trans hx'
          rfl

theorem fields_of_owned : ∀ name ∈ owned, name ∈ ComputeInstance.fields := by decide

theorem view_congr {i j : Instance} (h : j = { i with metadata := m' }) (hi : i.metadata.Sorted)
    (hm' : m'.Sorted) (hsame : ∀ name, name ∉ owned → m'.get? name = i.metadata.get? name) :
    view project j = view project i := by
  have hfields : assignedFields project j = assignedFields project i := by
    subst h
    rw [assignedFields, assignedFields, describeInterfaces, describeInterfaces,
      listed_congr (hsame "networkInterfaces" (by decide)), hsame "tags" (by decide),
      hsame "scheduling" (by decide)]
  have hfurther : Dictionary.without j.metadata ComputeInstance.fields =
      Dictionary.without i.metadata ComputeInstance.fields := by
    subst h
    refine (hm'.without _).ext (hi.without _) fun name => ?_
    rw [Dictionary.get?_without, Dictionary.get?_without]
    split
    · rfl
    · rename_i hn
      exact hsame name fun howned => hn (fields_of_owned name howned)
  rw [view_eq, view_eq, shownMembers, shownMembers, hfields, hfurther]

/-- Values that the caller gives for owned members are not shown, whatever they are. -/
theorem view_withExtra (hm : m.Sorted) (hm' : m'.Sorted)
    (hsame : ∀ name, name ∉ owned → m'.get? name = m.get? name)
    (hd : Draft.ofBody config now project zone (.object m) = .ok d) (id : String)
    (nics : List Nic) :
    view project ((d.withExtra (.ofList (m'.without ["name"]))).record id nics) =
      view project (d.record id nics) := by
  obtain ⟨name, addresses, -, -, -, rfl⟩ := Draft.of_object hd
  refine view_congr rfl (Dictionary.sorted_ofList _) (Dictionary.sorted_ofList _) ?_
  intro other hother
  by_cases ho : other = "name"
  · subst ho
    exact (get?_name m').trans (get?_name m).symm
  · exact (get?_further hm' ho).trans ((hsame other hother).trans (get?_further hm ho).symm)

end CloudEmulation.Google

namespace CloudEmulation.Cloud

open Google (Echo owned)

variable {config : Configuration} {c : Cloud} {now : Timestamp} {op : Operation}
  {project zone id : String} {body : Json}

/-- An instance echoes the body that it was inserted with, whenever it is read, and does not depend
on values that the body has for members that the service owns. -/
theorem insertion_echoed (h : Reachable config c) (hbody : op.body? = some body)
    (ho : body.Ordered)
    (ha : op.accepted? (c.perform now op).1 = some (.google project zone, id)) :
    ∃ m v, body = .object m ∧ Echo config now project zone m v ∧
      (∀ ops, ((c.perform now op).2.after ops).Renders (.google project zone) id (.object v)) ∧
      ∀ m', (Json.object m').Ordered →
        (∀ name, name ∉ owned → Dictionary.get? m' name = Dictionary.get? m name) →
        let other := op.withBody (.object m')
        other.accepted? (c.perform now other).1 = some (.google project zone, id) ∧
          ∀ ops, ((c.perform now other).2.after ops).Renders (.google project zone) id
            (.object v) := by
  have hc := h.consistent
  have hrenders {op : Operation} {i : Instance} (hi : i ∈
      (c.perform now op).2.state.instances.list (.google project zone)) (ops) :
      ((c.perform now op).2.after ops).Renders (.google project zone) i.identity
        (Google.view project i) :=
    ((hc.step (hc.step_perform now op)).after ops).renders
      ((hc.step (hc.step_perform now op)).mem_after hi ops)
  obtain ⟨d, i, s', hd, hi, rfl, hmem⟩ := hc.google_of_accepted hbody ha
  obtain ⟨m, rfl, -⟩ := Record.decodeOpen_eq_ok (Google.Draft.ofBody_eq_ok hd).2.1
  have hconnected := Google.Draft.connected_create hc.sound.pool hi
  obtain ⟨nics, s₁, id, s₂, hvacant, hconnect, hdraw, rfl, -⟩ := Google.Draft.create_eq_ok.mp hi
  refine ⟨m, Google.shownMembers project (d.record id nics), rfl,
    Google.echo_record id ho hd hconnected, fun ops => hrenders hmem ops, ?_⟩
  intro m' ho' hsame other
  -- The other body leads to the same draft but for its further members, and so to the same record.
  let extra : Json.Members := .ofList (Dictionary.without m' ["name"])
  have hd' := Google.Draft.ofBody_of_sameOwned ho.sorted ho'.sorted hsame hd
  have hi' := (Google.Draft.create_eq_ok (d := d.withExtra extra)).mpr
    ⟨nics, s₁, id, s₂, hvacant, hconnect, hdraw, rfl, rfl⟩
  have ha' := google_accepted_withBody hc ha hd' hi'
  refine ⟨ha', fun ops => ?_⟩
  obtain ⟨d'', i'', s'', hd'', hi'', -, hmem'⟩ :=
    hc.google_of_accepted (op.body?_withBody (.object m')) ha'
  cases hd''.symm.trans hd'
  cases hi''.symm.trans hi'
  have hview := Google.view_withExtra ho.sorted ho'.sorted hsame hd id nics
  have hr := hrenders hmem' ops
  rw [hview] at hr
  exact hr

/-- Members that the caller makes up stay out, an address that it asks for does not. -/
theorem echo_of_insertion :
    let nic : Json := .object [("name", .string "eth7"), ("networkIP", .string "10.0.0.9"),
      ("subnetwork", .string "inner")]
    let body : Json := .object [("id", .string "mine"),
      ("labels", .object [("env", .string "test")]), ("name", .string "web"),
      ("networkInterfaces", .array [.null, nic]), ("status", .string "TERMINATED"), ("tags", .null)]
    let op := Operation.insert "shop" "eu" body
    body.Ordered ∧
      op.accepted? (initial.perform ⟨0, 0⟩ op).1 = some (.google "shop" "eu", "web") ∧
      ∃ m v, body = .object m ∧ Echo .standard ⟨0, 0⟩ "shop" "eu" m v ∧
        Dictionary.get? v "status" = some (.string "RUNNING") ∧
        Dictionary.get? v "labels" = some (.object [("env", .string "test")]) ∧
        ∀ ops, ((initial.perform ⟨0, 0⟩ op).2.after ops).Renders (.google "shop" "eu") "web"
          (.object v) := by
  intro nic body op
  have ho : body.Ordered := by
    simp [body, nic]
    decide
  have ha : op.accepted? (initial.perform ⟨0, 0⟩ op).1 = some (.google "shop" "eu", "web") := by
    decide +kernel
  obtain ⟨m, v, hm, hecho, hrenders, -⟩ := insertion_echoed (reachable_initial []) rfl ho ha
  refine ⟨ho, ha, m, v, hm, hecho, hecho.status, ?_, hrenders⟩
  rw [hecho.others "labels" (by decide), ← Json.object.inj hm]
  rfl

end CloudEmulation.Cloud
