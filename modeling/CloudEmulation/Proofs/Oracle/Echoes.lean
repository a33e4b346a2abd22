import CloudEmulation.Oracle.Client
import CloudEmulation.Proofs.Cloud.Creations
import CloudEmulation.Proofs.Cloud.Renderings
import CloudEmulation.Proofs.Json.Given
import CloudEmulation.Proofs.Oracle.Machines
/-!
What an instance shows of the body that it was launched with, and what a client reads of it.
-/

namespace CloudEmulation.Oracle

open Json (Beside Field recordMembers)

variable {config : Configuration} {now : Timestamp} {compartment id : String}
  {m m' v : Json.Members} {d d' : Draft} {s s' : CloudState} {i : Instance}
  {details details' : LaunchDetails}

/-- What is shown of an instance that was launched with a body. -/
structure Echo (config : Configuration) (now : Timestamp) (compartment id : String)
    (m v : Json.Members) : Prop where
  sorted : v.Sorted
  others : ∀ name, name ∉ ComputeInstance.fields → v.get? name = m.get? name
  compartmentId : m.get? "compartmentId" = some (.string compartment) ∧
    v.get? "compartmentId" = some (.string compartment)
  shape : v.get? "shape" = (Json.object m).given? "shape"
  freeformTags : v.get? "freeformTags" = some ((m.get? "freeformTags").getD (.object []))
  displayName : v.get? "displayName" = some (((Json.object m).given? "displayName").getD
    (.string ("instance" ++ now.minuteStamp)))
  availabilityDomain : v.get? "availabilityDomain" =
    some (((Json.object m).given? "availabilityDomain").getD (.string ""))
  id : v.get? "id" = some (.string id)
  region : v.get? "region" = some (.string config.oracleRegion)
  lifecycleState : v.get? "lifecycleState" = some (.string (stateName config.initialStatus))
  timeCreated : v.get? "timeCreated" = some (Json.ofTimestamp now)

/-- The members for which no value of the caller counts. -/
def owned : List String := ["id", "region", "lifecycleState", "timeCreated"]

/-! Launch details. -/

/-- Whether details were read from members. -/
structure LaunchDetails.ReadFrom (m : Json.Members) (d : LaunchDetails) : Prop where
  compartmentId : m.get? "compartmentId" = some (.string d.compartmentId)
  availabilityDomain :
    (Json.object m).given? "availabilityDomain" = d.availabilityDomain.map .string
  displayName : (Json.object m).given? "displayName" = d.displayName.map .string
  shape : (Json.object m).given? "shape" = d.shape.map .string
  freeformTags : (m.get? "freeformTags").getD (.object []) =
    .object (d.freeformTags.mapValues .string)
  extra : d.extra = .ofList (m.without fields)

theorem LaunchDetails.readFrom_of_decode (ho : (Json.object m).Ordered)
    (h : decode (.object m) = .ok details) : details.ReadFrom m := by
  obtain ⟨_, ⟨⟩, hb⟩ := Record.decodeOpen_eq_ok h
  simp only [Ranked.ap_eq_ok, Ranked.map_eq_ok, Record.text_eq_ok] at hb
  obtain ⟨_, extra, ⟨_, tags, ⟨_, shape, ⟨_, name, ⟨_, domain, ⟨compartment, hcompartment, rfl⟩,
    hdomain, rfl⟩, hname, rfl⟩, hshape, rfl⟩, htags, rfl⟩, hx, rfl⟩ := hb
  cases hx
  exact {
    compartmentId := hcompartment
    availabilityDomain := Record.text?_eq_ok hdomain
    displayName := Record.text?_eq_ok hname
    shape := Record.text?_eq_ok hshape
    freeformTags := by
      obtain ⟨hnone, rfl⟩ | htags := Record.stringMap_eq_ok ho htags
      · rw [hnone]
        rfl
      · rw [htags]
        rfl
    extra := rfl }

/-- Details that are read from the same fields differ in their further members only. -/
theorem LaunchDetails.decode_of_same (hsame : ∀ name ∈ fields, m'.get? name = m.get? name)
    (h : decode (.object m) = .ok details) :
    decode (.object m') = .ok { details with extra := .ofList (m'.without fields) } := by
  obtain ⟨_, ⟨⟩, hb⟩ := Record.decodeOpen_eq_ok h
  simp only [Ranked.ap_eq_ok, Ranked.map_eq_ok] at hb
  obtain ⟨_, extra, ⟨_, tags, ⟨_, shape, ⟨_, name, ⟨_, domain, ⟨compartment, hcompartment, rfl⟩,
    hdomain, rfl⟩, hname, rfl⟩, hshape, rfl⟩, htags, rfl⟩, hx, rfl⟩ := hb
  have hfield : ∀ {name}, name ∈ fields → m'.get? name = m.get? name := fun h => hsame _ h
  exact Record.decodeOpen_of_ok <| Ranked.ap_ok (Ranked.ap_ok (Ranked.ap_ok (Ranked.ap_ok
    (Ranked.ap_ok
      (Ranked.map_ok _ ((Record.required_of_get? (hfield (by decide)) _).trans hcompartment))
      ((Record.default_of_get? (hfield (by decide)) _ _).trans hdomain))
      ((Record.default_of_get? (hfield (by decide)) _ _).trans hname))
      ((Record.default_of_get? (hfield (by decide)) _ _).trans hshape))
      ((Record.default_of_get? (hfield (by decide)) _ _).trans htags)) rfl

/-! Descriptions. -/

/-- The members of an instance as it is shown. -/
def assignedFields (i : ComputeInstance) : List Field :=
  [.text "id" i.id, .text "compartmentId" i.compartmentId,
    .text "availabilityDomain" i.availabilityDomain, .text "displayName" i.displayName,
    .text? "shape" i.shape, .text "region" i.region, .map "freeformTags" i.freeformTags,
    .text "lifecycleState" i.lifecycleState, .of "timeCreated" (Json.ofTimestamp i.timeCreated)]

def shownMembers (i : ComputeInstance) : Json.Members := recordMembers (assignedFields i) i.extra

theorem encode_eq (i : ComputeInstance) : i.encode .ofFields = .object (shownMembers i) := rfl

theorem Draft.of_object (hd : Draft.ofBody config now (.object m) = .ok d) :
    ∃ details, LaunchDetails.decode (.object m) = .ok details ∧ details.compartmentId ≠ "" ∧
      d = ⟨config.oracleRegion, details, m, config.initialStatus, now⟩ := by
  unfold ofBody at hd
  split at hd
  · cases hd
  · rename_i details hdetails
    split at hd
    · cases hd
    · rename_i hne
      cases hd
      exact ⟨details, hdetails, hne, rfl⟩

theorem extra_eq (hm : m.Sorted) (hread : details.ReadFrom m) : (assigned config i details).extra =
    (m.without LaunchDetails.fields).without ComputeInstance.fields := by
  show Dictionary.without details.extra ComputeInstance.fields = _
  rw [hread.extra, (hm.without _).ofList_eq]

theorem beside_extra (hm : m.Sorted) (hread : details.ReadFrom m) :
    Beside ComputeInstance.fields (assigned config i details).extra := by
  rw [extra_eq hm hread]
  exact ⟨(hm.without _).without _, fun p hp => (Dictionary.mem_without.mp hp).2⟩

theorem get?_assigned (hm : m.Sorted) (hread : details.ReadFrom m) (f : Field)
    (hf : f ∈ assignedFields (assigned config i details)) :
    (shownMembers (assigned config i details)).get? f.name = f.value := by
  have hn : ComputeInstance.fields.Nodup := by decide
  exact Record.get?_field hn (beside_extra hm hread) rfl hf

theorem get?_unassigned (hm : m.Sorted) (hread : details.ReadFrom m) {name : String}
    (hn : name ∉ ComputeInstance.fields) :
    (shownMembers (assigned config i details)).get? name = m.get? name := by
  have hlaunch : name ∉ LaunchDetails.fields := fun h =>
    hn ((by decide : ∀ n ∈ LaunchDetails.fields, n ∈ ComputeInstance.fields) name h)
  rw [shownMembers, Record.get?_other (beside_extra hm hread) rfl hn, extra_eq hm hread,
    Dictionary.get?_without, if_neg hn, Dictionary.get?_without, if_neg hlaunch]

/-- The record of a draft echoes the body. -/
theorem echo_record (ho : (Json.object m).Ordered)
    (hd : Draft.ofBody config now (.object m) = .ok d) (id vnic attachment : String)
    (a : Address) :
    Echo config now d.details.compartmentId id m
      (shownMembers (assigned config (d.record id vnic attachment a) d.details)) := by
  obtain ⟨details, hdetails, -, rfl⟩ := Draft.of_object hd
  have hread := LaunchDetails.readFrom_of_decode ho hdetails
  let d : Draft := ⟨config.oracleRegion, details, m, config.initialStatus, now⟩
  let i := assigned config (d.record id vnic attachment a) details
  have hshown (f : Field) (hf : f ∈ assignedFields i) : (shownMembers i).get? f.name = f.value :=
    get?_assigned ho.sorted hread f hf
  exact {
    sorted := Dictionary.sorted_ofList _
    others name hother := get?_unassigned ho.sorted hread hother
    compartmentId := ⟨hread.compartmentId,
      hshown (.text "compartmentId" i.compartmentId) (by simp [assignedFields])⟩
    shape := by
      rw [hread.shape]
      exact hshown (.text? "shape" i.shape) (by simp [assignedFields])
    freeformTags := by
      rw [hread.freeformTags]
      exact hshown (.map "freeformTags" i.freeformTags) (by simp [assignedFields])
    displayName := by
      rw [hread.displayName]
      refine (hshown (.text "displayName" i.displayName) (by simp [assignedFields])).trans ?_
      show some (Json.string (details.displayName.getD ("instance" ++ now.minuteStamp))) = _
      cases details.displayName <;> rfl
    availabilityDomain := by
      rw [hread.availabilityDomain]
      refine (hshown (.text "availabilityDomain" i.availabilityDomain)
        (by simp [assignedFields])).trans ?_
      show some (Json.string (details.availabilityDomain.getD "")) = _
      cases details.availabilityDomain <;> rfl
    id := hshown (.text "id" i.id) (by simp [assignedFields])
    region := hshown (.text "region" i.region) (by simp [assignedFields])
    lifecycleState := hshown (.text "lifecycleState" i.lifecycleState) (by simp [assignedFields])
    timeCreated := hshown (.of "timeCreated" (Json.ofTimestamp i.timeCreated))
      (by simp [assignedFields]) }

/-! Bodies that differ in members of the service. -/

/-- The draft for another body with the same fields. -/
def Draft.withBody (d : Draft) (m : Json.Members) : Draft :=
  { d with
    details := { d.details with extra := .ofList (Dictionary.without m LaunchDetails.fields) }
    request := m }

theorem Draft.ofBody_of_sameOwned (hsame : ∀ name, name ∉ owned → m'.get? name = m.get? name)
    (hd : Draft.ofBody config now (.object m) = .ok d) :
    Draft.ofBody config now (.object m') = .ok (d.withBody m') := by
  obtain ⟨details, hdetails, hne, rfl⟩ := Draft.of_object hd
  have hfields : ∀ name ∈ LaunchDetails.fields, m'.get? name = m.get? name := fun name hn =>
    hsame name ((by decide : ∀ n ∈ LaunchDetails.fields, n ∉ owned) name hn)
  unfold ofBody
  simp only [LaunchDetails.decode_of_same hfields hdetails, if_neg hne]
  rfl

theorem Draft.given_of_ofBody {body : Json} (ho : body.Ordered)
    (hd : Draft.ofBody config now body = .ok d) : d.now = now ∧ ∃ m : Json.Members,
      body = .object m ∧ d.details.extra = .ofList (m.without LaunchDetails.fields) := by
  obtain ⟨m, details, rfl, hdetails, rfl⟩ := Draft.ofBody_eq_ok hd
  exact ⟨rfl, m, rfl, (LaunchDetails.readFrom_of_decode ho hdetails).extra⟩

theorem Draft.ocid_congr (h : d'.region = d.region) (kind : String) (s : CloudState) :
    d'.ocid kind s = d.ocid kind s := by
  rw [ocid, ocid, h]

theorem Draft.place_congr (hscope : d'.scope = d.scope) {id vnic attachment : String}
    (h : d.place id vnic attachment s = (.ok i, s')) : ∃ a s'',
      i = d.record id vnic attachment a ∧
        d'.place id vnic attachment s = (.ok (d'.record id vnic attachment a), s'') := by
  revert h
  unfold place
  rw [hscope]
  rcases s.allocate with ⟨_ | a, s₁⟩
  · nofun
  · simp only
    rcases locate s₁ ⟨id, d.scope, none⟩ with ⟨_ | ⟨⟩, s₂⟩
    · nofun
    · simp only
      rcases locate s₂ ⟨vnic, d.scope, some id⟩ with ⟨_ | ⟨⟩, s₃⟩
      · nofun
      · simp only
        rcases s₃.vacant d.scope id with _ | ⟨⟩
        · nofun
        · rintro ⟨⟩
          exact ⟨a, _, rfl, rfl⟩

/-- Drafts of one region and one compartment lead to records of the same identifiers. -/
theorem Draft.launch_congr (h : d.launch s = (.ok i, s')) (d' : Draft)
    (hregion : d'.region = d.region) (hscope : d'.scope = d.scope) : ∃ id vnic attachment a s'',
      i = d.record id vnic attachment a ∧
        d'.launch s = (.ok (d'.record id vnic attachment a), s'') := by
  unfold launch at h ⊢
  simp only [ocid_congr hregion] at h ⊢
  split at h
  · cases h
  · rename_i hid
    rw [if_neg hid]
    split at h
    · cases h
    · rename_i hvnic
      rw [if_neg hvnic]
      obtain ⟨a, s'', hi, hplace⟩ := place_congr hscope h
      exact ⟨_, _, _, a, s'', hi, hplace⟩

/-- Values that the caller gives for owned members are not shown, whatever they are. -/
theorem view_congr (i j : Instance) (config : Configuration)
    (hij : j = { i with metadata := m' }) (hm : m.Sorted) (hm' : m'.Sorted)
    (hsame : ∀ name, name ∉ owned → m'.get? name = m.get? name)
    (hextra : details.extra = .ofList (m.without LaunchDetails.fields)) :
    (assigned config j
      { details with extra := .ofList (m'.without LaunchDetails.fields) }).encode .ofFields =
      (assigned config i details).encode .ofFields := by
  subst hij
  have hfields : ∀ name ∈ owned, name ∈ ComputeInstance.fields := by decide
  have hs := hm.without LaunchDetails.fields
  have hs' := hm'.without LaunchDetails.fields
  have hfurther :
      Dictionary.without (.ofList (m'.without LaunchDetails.fields)) ComputeInstance.fields =
        Dictionary.without details.extra ComputeInstance.fields := by
    rw [hextra, hs.ofList_eq, hs'.ofList_eq]
    refine (hs'.without _).ext (hs.without _) fun name => ?_
    simp only [Dictionary.get?_without]
    split
    · rfl
    · rename_i hn
      rw [hsame name fun howned => hn (hfields name howned)]
  let fields := assignedFields (assigned config i details)
  exact congrArg (fun extra => Json.object (recordMembers fields extra)) hfurther

/-! Clients. -/

/-- A client has a value as its data where a successful response holds what is read as the value. -/
theorem Answer.data_of_body {α : Type} {decode : Json → Decoding α} {r : Http.Response}
    {body : Json} {x : α} (hs : r.isSuccess = true) (hb : r.body = some body)
    (hx : decode body = .ok x) : ∃ a, Answer.ofResponse decode r = .ok a ∧ a.data = x := by
  have hcontent : r.content = body := by
    rw [Http.Response.content, hb]
    rfl
  unfold Answer.ofResponse
  rw [if_pos hs, hcontent, hx]
  exact ⟨_, rfl, rfl⟩

end CloudEmulation.Oracle

namespace CloudEmulation.Cloud

open Oracle (Echo owned)

variable {config : Configuration} {c : Cloud} {now : Timestamp} {op : Operation}
  {compartment id : String} {body : Json}

/-- Whether the answer to a launch, and all that reads the instance later, shows a value. -/
def Shown (c : Cloud) (now : Timestamp) (op : Operation) (compartment id : String) (v : Json) :
    Prop :=
  (c.perform now op).1.Shows v ∧
    ∀ ops, ((c.perform now op).2.after ops).Renders (.oracle compartment) id v

theorem Consistent.shown (hc : Consistent config c) {d : Oracle.Draft} {i : Instance}
    {s' : CloudState} (hbody : op.body? = some body)
    (ha : op.accepted? (c.perform now op).1 = some (.oracle compartment, id))
    (hd : Oracle.Draft.ofBody config now body = .ok d) (hi : d.launch c.state = (.ok i, s')) :
    c.Shown now op compartment id ((Oracle.assigned config i d.details).encode .ofFields) := by
  obtain ⟨d', i', s'', hd', hi', -, -, rfl, hmem, hshows⟩ := hc.oracle_of_accepted hbody ha
  cases hd'.symm.trans hd
  cases hi'.symm.trans hi
  refine ⟨hshows, fun ops => ?_⟩
  have hdescribe := (Oracle.Draft.mem_of_launch hc.sound hd hi).2.1
  have hc' := hc.step (hc.step_perform now op)
  have hrenders := (hc'.after ops).renders (hc'.mem_after hmem ops)
  rwa [Oracle.view_of_describe hdescribe] at hrenders

/-- An instance echoes the body that it was launched with, in the answer and whenever it is read,
does not depend on values that the body has for members that the service owns, and is what a client
has as its data. -/
theorem launch_echoed (h : Reachable config c) (hbody : op.body? = some body)
    (ho : body.Ordered)
    (ha : op.accepted? (c.perform now op).1 = some (.oracle compartment, id)) :
    ∃ m v, body = .object m ∧ Echo config now compartment id m v ∧
      c.Shown now op compartment id (.object v) ∧
      (∀ m', (Json.object m').Ordered →
        (∀ name, name ∉ owned → Dictionary.get? m' name = Dictionary.get? m name) →
        let other := op.withBody (.object m')
        other.accepted? (c.perform now other).1 = some (.oracle compartment, id) ∧
          c.Shown now other compartment id (.object v)) ∧
      (now.Valid → ∃ i, i.encode .ofFields = .object v ∧
        ∀ r : Http.Response, r.isSuccess = true → r.body = some (.object v) →
          ∃ a, Oracle.Answer.ofResponse Oracle.ComputeInstance.decode r = .ok a ∧ a.data = i) := by
  have hc := h.consistent
  obtain ⟨d, i, s', hd, hi, rfl, rfl, -, -, -⟩ := hc.oracle_of_accepted hbody ha
  have hdescribe := (Oracle.Draft.mem_of_launch hc.sound hd hi).2.1
  obtain ⟨hnow, m, rfl, hextra⟩ := Oracle.Draft.given_of_ofBody ho hd
  obtain ⟨id, vnic, attachment, a, _, rfl, -⟩ := Oracle.Draft.launch_congr hi d rfl rfl
  refine ⟨m, _, rfl, Oracle.echo_record ho hd id vnic attachment a, hc.shown hbody ha hd hi,
    ?_, ?_⟩
  · intro m' ho' hsame other
    have hd' := Oracle.Draft.ofBody_of_sameOwned hsame hd
    -- The other draft draws the same identifiers, so that its record differs in the body only.
    obtain ⟨_, _, _, _, s'', hrecord, hi'⟩ := Oracle.Draft.launch_congr hi
      (d.withBody m') rfl rfl
    cases hrecord
    have ha' := oracle_accepted_withBody hc ha hd' hi'
    have hshown := hc.shown (op.body?_withBody (.object m')) ha' hd' hi'
    have hview := Oracle.view_congr (d.record id vnic attachment a)
      ((d.withBody m').record id vnic attachment a) config rfl ho.sorted ho'.sorted hsame hextra
    refine ⟨ha', ?_⟩
    rw [← Oracle.encode_eq, ← hview]
    exact hshown
  · intro ht
    refine ⟨_, rfl, fun r hs hb => Oracle.Answer.data_of_body hs hb ?_⟩
    exact Oracle.ComputeInstance.decode_encode
      (Oracle.canonical_of_describe hdescribe (show d.now.Valid from hnow ▸ ht))

/-- An instance that is launched by a request which makes up an identifier and leaves the name to
the service. -/
theorem echo_of_launch :
    let tags : Json := .object [("env", .string "test")]
    let body : Json := .object [("compartmentId", .string "tenant"), ("displayName", .null),
      ("faultDomain", .null), ("freeformTags", tags), ("id", .string "mine")]
    let op := Operation.request .oracle
      ⟨"POST", ⟨"https", none, .segments ["20160918", "instances"], none, none⟩, [], some body⟩
    let id := "ocid1.instance.oc1..pachbhriss"
    body.Ordered ∧ Timestamp.Valid ⟨0, 0⟩ ∧
      op.accepted? (initial.perform ⟨0, 0⟩ op).1 = some (.oracle "tenant", id) ∧
      ∃ m v, body = .object m ∧ Echo .standard ⟨0, 0⟩ "tenant" id m v ∧
        initial.Shown ⟨0, 0⟩ op "tenant" id (.object v) ∧
        Dictionary.get? v "id" = some (.string id) ∧
        Dictionary.get? v "faultDomain" = some .null ∧
        Dictionary.get? v "displayName" = some (.string "instance197001010000") ∧
        ∃ i, i.encode .ofFields = .object v ∧ ∀ r : Http.Response, r.isSuccess = true →
          r.body = some (.object v) → ∃ a,
            Oracle.Answer.ofResponse Oracle.ComputeInstance.decode r = .ok a ∧ a.data = i := by
  intro tags body op id
  have ho : body.Ordered := by
    simp [body, tags]
    decide
  have ht : Timestamp.Valid ⟨0, 0⟩ := ⟨by decide +kernel, by decide⟩
  have ha : op.accepted? (initial.perform ⟨0, 0⟩ op).1 = some (.oracle "tenant", id) := by
    decide +kernel
  obtain ⟨m, v, hm, hecho, hshown, -, hclient⟩ := launch_echoed (reachable_initial []) rfl ho ha
  refine ⟨ho, ht, ha, m, v, hm, hecho, hshown, hecho.id, ?_, ?_, hclient ht⟩
  · rw [hecho.others "faultDomain" (by decide), ← Json.object.inj hm]
    rfl
  · have hstamp : Timestamp.minuteStamp ⟨0, 0⟩ = "197001010000" := by decide +kernel
    rw [hecho.displayName, ← Json.object.inj hm, hstamp]
    rfl

end CloudEmulation.Cloud
