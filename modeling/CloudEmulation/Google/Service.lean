import CloudEmulation.Emulation.Emulator
import CloudEmulation.Emulation.Page
import CloudEmulation.Filter.Matching
import CloudEmulation.Filter.Reader
import CloudEmulation.Google.Catalog
/-!
The Google Compute service. Instances are addressed by project, zone and name. A new instance gets
an interface for each one that its request lists, or a single one.
-/

namespace CloudEmulation.Google

def zonePath : String := "/compute/v1/projects/\x7bproject\x7d/zones/\x7bzone\x7d/"

def routes : List Route := [
  .of "POST" (zonePath ++ "instances") "instances" .create,
  .of "GET" (zonePath ++ "instances") "instances" .list,
  .of "GET" (zonePath ++ "instances/\x7binstance\x7d") "instances" .get,
  .of "GET" (zonePath ++ "machineTypes") "machineTypes" .list,
  .of "GET" (zonePath ++ "machineTypes/\x7bmachineType\x7d") "machineTypes" .get]

def statusName : InstanceStatus → String
  | .running => "RUNNING"
  | .created => "PROVISIONING"

/-! Describing instances. -/

/-- The interfaces that a request lists. -/
def listed (request : Json.Members) : List Json :=
  match Dictionary.get? request "networkInterfaces" with
  | some (.array items) => items
  | _ => []

/-- An interface with the members that its entry in the request has beside the assigned ones. -/
def describeInterface (entry : Option Json) (nic : Nic) : NetworkInterface :=
  let requested := (entry.bind Json.members?).getD []
  ⟨nic.name, nic.address.text, Dictionary.without requested NetworkInterface.fields⟩

def describeInterfaces (request : Json.Members) (nics : List Nic) : List NetworkInterface :=
  nics.mapIdx fun i nic => describeInterface ((listed request)[i]?) nic

def describe (project : String) (i : Instance) : ComputeInstance where
  kind := "compute#instance"
  id := i.id
  name := i.name
  zone := i.placement
  status := statusName i.status
  tags := (Dictionary.get? i.metadata "tags").getD (.object [])
  scheduling :=
    (Dictionary.get? i.metadata "scheduling").getD (Scheduling.standard.encode .ofFields)
  networkInterfaces := describeInterfaces i.metadata i.nics
  creationTimestamp := i.createdAt.millisText
  selfLink := zoneLink project i.placement ++ "/instances/" ++ i.name
  extra := Dictionary.without i.metadata ComputeInstance.fields

def view (project : String) (i : Instance) : Json := (describe project i).encode .ofFields

/-! Creating instances. -/

def requestedAddress (entry : Json) : Except Fault (Option Address) :=
  match (entry.member? "networkIP").bind Json.string? with
  | none => .ok none
  | some raw =>
    match Address.ofText? raw with
    | some a => .ok (some a)
    | none => .error (.invalidArgument (.privateAddress raw))

/-- The addresses that a request asks for, interface by interface. -/
def requestedAddresses (request : Json.Members) : Except Fault (List (Option Address)) := do
  let addresses ← (listed request).mapM requestedAddress
  return if addresses.isEmpty then [none] else addresses

/-- Gives each interface its address and its identifier. Where that fails, every address given
before is released. -/
def connect (s : CloudState) (index : Nat) :
    List (Option Address) → Except Fault (List Nic) × CloudState
  | [] => (.ok [], s)
  | request :: rest =>
    match s.assign request with
    | (.error f, s) => (.error f, s)
    | (.ok a, s) =>
      let drawn := s.draw (·.digits 19)
      match connect drawn.2 (index + 1) rest with
      | (.ok nics, s) => (.ok (⟨drawn.1, none, "nic" ++ toString index, a⟩ :: nics), s)
      | (.error f, s) => (.error f, s.release a)

/-- What is known of a new instance before the state is touched. -/
structure Draft where
  project : String
  zone : String
  request : InsertRequest
  addresses : List (Option Address)
  status : InstanceStatus
  now : Timestamp

namespace Draft

def scope (d : Draft) : Scope := .google d.project d.zone

def ofBody (c : Configuration) (now : Timestamp) (project zone : String) (body : Json) :
    Except Fault Draft :=
  match InsertRequest.decode body with
  | .error e => .error (.invalidArgument (.undecodable "instance body" e))
  | .ok request =>
    if request.name = "" then .error (.invalidArgument .emptyName)
    else do
      let addresses ← requestedAddresses request.extra
      return ⟨project, zone, request, addresses, c.initialStatus, now⟩

def record (d : Draft) (id : String) (nics : List Nic) : Instance :=
  ⟨d.request.name, id, d.request.name, d.zone, d.status, d.now, nics, d.request.extra⟩

/-- Adds the instance as one step. -/
def create (d : Draft) (s : CloudState) : Except Fault Instance × CloudState :=
  match s.vacant d.scope d.request.name with
  | .error f => (.error f, s)
  | .ok () =>
    match connect s 0 d.addresses with
    | (.error f, s) => (.error f, s)
    | (.ok nics, s) =>
      let drawn := s.draw (·.digits 19)
      let i := d.record drawn.1 nics
      (.ok i, drawn.2.addInstance d.scope i)

end Draft

def insert (c : Configuration) (now : Timestamp) (project zone : String) (body : Json) :
    Handler ComputeInstance := do
  let d ← Handler.liftExcept (Draft.ofBody c now project zone body)
  let i ← Handler.atomically d.create
  return describe project i

/-- The identifier and the name of a new operation. -/
def operationNames (s : CloudState) : (String × String) × CloudState :=
  let id := s.draw (·.digits 19)
  let name := id.2.draw Generator.uuid
  ((id.1, "operation-" ++ name.1), name.2)

/-- An operation that is done as soon as it begins. -/
def operationFor (now : Timestamp) (project zone : String) (target : ComputeInstance)
    (id name : String) : Operation where
  kind := "compute#operation"
  id := id
  name := name
  zone := zone
  operationType := "insert"
  targetLink := target.selfLink
  targetId := target.id
  status := "DONE"
  progress := 100
  insertTime := now.millisText
  startTime := now.millisText
  endTime := now.millisText
  selfLink := zoneLink project zone ++ "/operations/" ++ name

/-! Answering calls. -/

def create (c : Configuration) (resource : String) (call : Call) : Handler Http.Response := do
  if resource ≠ "instances" then throw (.unmodelled .google .create resource)
  let project ← Handler.liftExcept (call.param "project")
  let zone ← Handler.liftExcept (call.param "zone")
  match call.body with
  | none => Handler.refuse (.required "instance body")
  | some body =>
    let target ← insert c call.now project zone body
    let names ← ExceptT.lift (Program.step operationNames)
    return .json 200
      ((operationFor call.now project zone target names.1 names.2).encode .ofFields)

/-- A filter that is blank counts as absent. -/
def filter? (call : Call) : Except Fault (Option Filter) :=
  match call.query? "filter" with
  | none => .ok none
  | some text =>
    if text.toList.all Text.isBlank then .ok none
    else match Filter.parse text with
      | .ok f => .ok (some f)
      | .error e => .error (.invalidArgument (.filter text e))

/-- The items that a filter accepts. -/
def select (f : Option Filter) (items : List Json) : List Json :=
  match f with
  | none => items
  | some f => items.filter f.accepts

/-- A page of the items that the call's filter accepts. -/
def page (call : Call) (items : List Json) : Except Fault Http.Response := do
  let f ← filter? call
  let limit ← call.queryCount "maxResults"
  let p ← Page.of (select f items) limit (call.query? "pageToken")
  return .json 200 ((Listing.mk p.items p.next).encode .ofFields id)

def list (resource : String) (call : Call) : Handler Http.Response := do
  let project ← Handler.liftExcept (call.param "project")
  let zone ← Handler.liftExcept (call.param "zone")
  match resource with
  | "instances" =>
    let instances ← Handler.look fun s => s.instances.list (.google project zone)
    Handler.liftExcept (page call (instances.map (view project)))
  | "machineTypes" =>
    Handler.liftExcept (page call (MachineType.catalog.map (MachineType.encodeIn project zone)))
  | other => throw (.unmodelled .google .list other)

def get (resource : String) (call : Call) : Handler Http.Response := do
  let project ← Handler.liftExcept (call.param "project")
  let zone ← Handler.liftExcept (call.param "zone")
  match resource with
  | "instances" =>
    let name ← Handler.liftExcept (call.param "instance")
    let i ← Handler.lookup fun s => s.instances.get (.google project zone) name
    return .json 200 (view project i)
  | "machineTypes" =>
    let name ← Handler.liftExcept (call.param "machineType")
    match MachineType.find? name with
    | none => throw (.notFound name (.google project zone))
    | some m => return .json 200 (m.encodeIn project zone)
  | other => throw (.unmodelled .google .get other)

def reasonOf : Fault → String
  | .duplicateIdentity .. => "alreadyExists"
  | .notFound .. => "notFound"
  | .invalidArgument _ => "invalid"
  | .unsupported _ => "unsupportedOperation"
  | .alreadyActive _ => "backendError"
  | .internal _ => "backendError"

def errorOf (f : Fault) : ErrorResponse :=
  ⟨f.status, f.message, [⟨"global", reasonOf f, f.message⟩]⟩

def refusal (f : Fault) : Http.Response := .json f.status ((errorOf f).encode .ofFields)

def emulator (c : Configuration) : Emulator where
  provider := .google
  routes := routes
  handler
    | .create => create c
    | .list => list
    | .get => get
  refusal f := pure (refusal f)

end CloudEmulation.Google
