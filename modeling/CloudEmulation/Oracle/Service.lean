import CloudEmulation.Emulation.Emulator
import CloudEmulation.Emulation.Page
import CloudEmulation.Oracle.Catalog
import CloudEmulation.Oracle.Order
/-!
The Oracle Core Services. Instances live in a compartment, but they and their network interfaces are
addressed by identifiers that are unique in the tenancy; locators lead from those to compartments.
-/

namespace CloudEmulation.Oracle

def path (resource : String) : String := "/" ++ apiVersion ++ "/" ++ resource

def routes : List Route := [
  .of "POST" (path "instances") "instances" .create,
  .of "GET" (path "instances") "instances" .list,
  .of "GET" (path "instances/\x7binstanceId\x7d") "instances" .get,
  .of "GET" (path "vnicAttachments") "vnicAttachments" .list,
  .of "GET" (path "shapes") "shapes" .list,
  .of "GET" (path "vnics/\x7bvnicId\x7d") "vnics" .get]

def stateName : InstanceStatus → String
  | .running => "RUNNING"
  | .created => "PROVISIONING"

def tenancy : Scope := .tenancy .oracle

/-! Describing instances and their interfaces. -/

/-- An instance as its request describes it, with what the service assigns. -/
def assigned (c : Configuration) (i : Instance) (d : LaunchDetails) : ComputeInstance where
  id := i.id
  compartmentId := d.compartmentId
  availabilityDomain := i.placement
  displayName := i.name
  shape := d.shape
  region := c.oracleRegion
  freeformTags := d.freeformTags
  lifecycleState := stateName i.status
  timeCreated := i.createdAt
  extra := Dictionary.without d.extra ComputeInstance.fields

def describe (c : Configuration) (i : Instance) : Except Fault ComputeInstance :=
  match LaunchDetails.decode (.object i.metadata) with
  | .ok d => .ok (assigned c i d)
  | .error e => .error (.unreadableRecord e)

def describeAttachment (compartment : String) (i : Instance) (nic : Nic) : Option VnicAttachment :=
  nic.attachment.map fun id =>
    ⟨id, i.id, nic.id, compartment, i.placement, "ATTACHED", i.createdAt⟩

/-- The attachments of the instances of a compartment. -/
def attachments (compartment : String) (instances : List Instance) : List VnicAttachment :=
  instances.flatMap fun i => i.nics.filterMap (describeAttachment compartment i)

/-- The interface of an identifier; the first one of an instance is its primary one. -/
def describeVnic (home : Scope) (i : Instance) (id : String) : Option Vnic :=
  (i.nics.zipIdx.find? (·.1.id = id)).map fun p =>
    ⟨p.1.id, (home.get? "compartment").getD "", i.placement, i.name, p.1.address.text,
      decide (p.2 = 0), "AVAILABLE", i.createdAt⟩

/-! Launching instances. -/

/-- What is known of a new instance before the state is touched. -/
structure Draft where
  region : String
  details : LaunchDetails
  request : Json.Members
  status : InstanceStatus
  now : Timestamp

namespace Draft

def scope (d : Draft) : Scope := .oracle d.details.compartmentId

def ofBody (c : Configuration) (now : Timestamp) (body : Json) : Except Fault Draft :=
  match LaunchDetails.decode body with
  | .error e => .error (.invalidArgument (.undecodable "launch details" e))
  | .ok details =>
    if details.compartmentId = "" then .error (.invalidArgument (.required "compartmentId"))
    else match body with
      | .object request => .ok ⟨c.oracleRegion, details, request, c.initialStatus, now⟩
      | _ => .error (.invalidArgument .bodyNotObject)

/-- The name that is asked for, or one made of the time. -/
def name (d : Draft) : String := d.details.displayName.getD ("instance" ++ d.now.minuteStamp)

def record (d : Draft) (id vnic attachment : String) (a : Address) : Instance :=
  ⟨id, id, d.name, d.details.availabilityDomain.getD "", d.status, d.now,
    [⟨vnic, some attachment, "primary", a⟩], d.request⟩

/-- A new identifier of a kind of resource. -/
def ocid (d : Draft) (kind : String) (s : CloudState) : String × CloudState :=
  let letters := s.draw (·.lowercase 10)
  ("ocid1." ++ kind ++ ".oc1." ++ d.region ++ "." ++ letters.1, letters.2)

/-- Records where an identifier lives. -/
def locate (s : CloudState) (l : Locator) : Except Fault Unit × CloudState :=
  match s.locators.create tenancy l with
  | .ok locators => (.ok (), { s with locators })
  | .error f => (.error f, s)

/-- Adds the instance once its identifiers are known. -/
def place (d : Draft) (id vnic attachment : String) (s : CloudState) :
    Except Fault Instance × CloudState :=
  match s.allocate with
  | (.error f, s) => (.error f, s)
  | (.ok a, s) =>
    match locate s ⟨id, d.scope, none⟩ with
    | (.error f, s) => (.error f, s)
    | (.ok (), s) =>
      match locate s ⟨vnic, d.scope, some id⟩ with
      | (.error f, s) => (.error f, s)
      | (.ok (), s) =>
        match s.vacant d.scope id with
        | .error f => (.error f, s)
        | .ok () =>
          let i := d.record id vnic attachment a
          (.ok i, s.addInstance d.scope i)

/-- Adds the instance as one step, unless an identifier that was drawn is taken. -/
def launch (d : Draft) (s : CloudState) : Except Fault Instance × CloudState :=
  let id := d.ocid "instance" s
  let vnic := d.ocid "vnic" id.2
  let attachment := d.ocid "vnicattachment" vnic.2
  let s := attachment.2
  if s.locators.has tenancy id.1 then (.error (.duplicateIdentity id.1 tenancy), s)
  else if s.locators.has tenancy vnic.1 then (.error (.duplicateIdentity vnic.1 tenancy), s)
  else d.place id.1 vnic.1 attachment.1 s

end Draft

def launch (c : Configuration) (now : Timestamp) (body : Json) : Handler ComputeInstance := do
  let d ← Handler.liftExcept (Draft.ofBody c now body)
  let i ← Handler.atomically d.launch
  Handler.liftExcept (describe c i)

/-! Answering calls. -/

/-- Every response carries an identifier of its own. -/
def reply (status : Nat) (body : Json) : Program CloudState Http.Response :=
  Program.step fun s =>
    let (id, s) := s.draw Generator.plainUuid
    ((Http.Response.json status body).withHeader "opc-request-id" id, s)

def answer (body : Json) : Handler Http.Response := ExceptT.lift (reply 200 body)

/-- A page of a list; a header tells where the next one begins. -/
def replyPage (call : Call) (items : List Json) : Handler Http.Response := do
  let limit ← Handler.liftExcept (call.queryCount "limit")
  let p ← Handler.liftExcept (Page.of items limit (call.query? "page"))
  let r ← answer (.array p.items)
  return match p.next with
    | some token => r.withHeader "opc-next-page" token
    | none => r

/-- A query parameter that is one of several names. -/
def choice (call : Call) (name : String) (ofName? : String → Option α) :
    Except Fault (Option α) :=
  match call.query? name with
  | none => .ok none
  | some raw =>
    match ofName? raw with
    | some a => .ok (some a)
    | none => .error (.invalidArgument (.order name raw))

/-- The order in which a call wants instances: by a key, or as they were created. -/
def arranged (key : Option SortKey) (order : Option SortOrder) (instances : List Instance) :
    List Instance :=
  match key with
  | none => instances
  | some k => sorted k (order.getD k.defaultOrder) instances

/-- Whether a field has the value that a query parameter names, if it names one. -/
def agrees (call : Call) (name value : String) : Bool :=
  match call.query? name with
  | none => true
  | some wanted => value = wanted

def wanted (call : Call) (i : ComputeInstance) : Bool :=
  agrees call "availabilityDomain" i.availabilityDomain &&
    agrees call "displayName" i.displayName && agrees call "lifecycleState" i.lifecycleState

/-- The instances that a call asks for, in its order. -/
def selection (c : Configuration) (call : Call) (instances : List Instance) :
    Except Fault (List ComputeInstance) := do
  let key ← choice call "sortBy" SortKey.ofName?
  let order ← choice call "sortOrder" SortOrder.ofName?
  let described ← (arranged key order instances).mapM (describe c)
  return described.filter (wanted call)

def listInstances (c : Configuration) (call : Call) : Handler Http.Response := do
  let compartment ← Handler.liftExcept (call.requireQuery "compartmentId")
  let instances ← Handler.look fun s => s.instances.list (.oracle compartment)
  let selected ← Handler.liftExcept (selection c call instances)
  replyPage call (selected.map (·.encode .ofFields))

def listAttachments (call : Call) : Handler Http.Response := do
  let compartment ← Handler.liftExcept (call.requireQuery "compartmentId")
  let instances ← Handler.look fun s => s.instances.list (.oracle compartment)
  let chosen := instances.filter fun i => agrees call "instanceId" i.id
  replyPage call ((attachments compartment chosen).map (·.encode .ofFields))

def listShapes (call : Call) : Handler Http.Response := do
  let _ ← Handler.liftExcept (call.requireQuery "compartmentId")
  replyPage call (Shape.catalog.map (·.encode .ofFields))

/-- Where an identifier lives. -/
def find (id : String) : Handler Locator :=
  Handler.lookup fun s => s.locators.get tenancy id

def getInstance (c : Configuration) (call : Call) : Handler Http.Response := do
  let id ← Handler.liftExcept (call.param "instanceId")
  let locator ← find id
  let i ← Handler.lookup fun s => s.instances.get locator.home id
  let described ← Handler.liftExcept (describe c i)
  answer (described.encode .ofFields)

def getVnic (call : Call) : Handler Http.Response := do
  let id ← Handler.liftExcept (call.param "vnicId")
  let locator ← find id
  match locator.owner with
  | none => throw (.notFound id tenancy)
  | some owner =>
    let i ← Handler.lookup fun s => s.instances.get locator.home owner
    match describeVnic locator.home i id with
    | none => throw (.notFound id tenancy)
    | some vnic => answer (vnic.encode .ofFields)

def create (c : Configuration) (resource : String) (call : Call) : Handler Http.Response := do
  if resource ≠ "instances" then throw (.unmodelled .oracle .create resource)
  match call.body with
  | none => Handler.refuse .noLaunchDetails
  | some body =>
    let i ← launch c call.now body
    answer (i.encode .ofFields)

def list (c : Configuration) (resource : String) (call : Call) : Handler Http.Response :=
  match resource with
  | "instances" => listInstances c call
  | "vnicAttachments" => listAttachments call
  | "shapes" => listShapes call
  | other => throw (.unmodelled .oracle .list other)

def get (c : Configuration) (resource : String) (call : Call) : Handler Http.Response :=
  match resource with
  | "instances" => getInstance c call
  | "vnics" => getVnic call
  | other => throw (.unmodelled .oracle .get other)

def codeOf : Fault → String
  | .duplicateIdentity .. => "Conflict"
  | .notFound .. => "NotAuthorizedOrNotFound"
  | .invalidArgument _ => "InvalidParameter"
  | .unsupported _ => "UnsupportedOperation"
  | .alreadyActive _ => "InternalServerError"
  | .internal _ => "InternalServerError"

def refusal (f : Fault) : Program CloudState Http.Response :=
  reply f.status ((ErrorBody.mk (codeOf f) f.message).encode .ofFields)

def emulator (c : Configuration) : Emulator where
  provider := .oracle
  routes := routes
  handler
    | .create => create c
    | .list => list c
    | .get => get c
  refusal := refusal

end CloudEmulation.Oracle
