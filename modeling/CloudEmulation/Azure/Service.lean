import CloudEmulation.Azure.Reply
import CloudEmulation.Emulation.Emulator
import CloudEmulation.Emulation.Page
/-!
The Azure Compute service. Virtual machines are addressed by subscription, resource group and name,
and each has one network interface.
-/

namespace CloudEmulation.Azure

def resource : String := "virtualMachines"

def machinesPath : String :=
  "/subscriptions/\x7bsubscriptionId\x7d/resourceGroups/\x7bresourceGroupName\x7d/providers/" ++
    machineType

def machinePath : String := machinesPath ++ "/\x7bvmName\x7d"

def routes : List Route := [
  .of "PUT" machinePath resource .create,
  .of "GET" machinePath resource .get,
  .of "GET" machinesPath resource .list]

def stateName : InstanceStatus → String
  | .running => "Succeeded"
  | .created => "Creating"

/-- The path that identifies a resource. -/
def resourceId (subscription group type name : String) : String :=
  "/subscriptions/" ++ subscription ++ "/resourceGroups/" ++ group ++ "/providers/" ++ type ++
    "/" ++ name

def interfaceType : String := "Microsoft.Network/networkInterfaces"

/-! Describing machines. -/

def interfaces (subscription group : String) (nics : List Nic) : Json :=
  .ofFields [("networkInterfaces", .array (nics.map fun nic =>
    .ofFields [("id", .string (resourceId subscription group interfaceType nic.name))]))]

/-- Passwords are never shown. -/
def OsProfile.shown (p : OsProfile) : OsProfile := { p with adminPassword := none }

def MachineProperties.assigned (subscription group : String) (i : Instance)
    (p : MachineProperties) : MachineProperties :=
  { p with
    vmId := some i.id
    provisioningState := some (stateName i.status)
    osProfile := p.osProfile.map OsProfile.shown
    networkProfile := some (p.networkProfile.getD (interfaces subscription group i.nics)) }

/-- A machine as its request describes it, with what the service assigns. -/
def VirtualMachine.assigned (subscription group : String) (i : Instance) (m : VirtualMachine) :
    VirtualMachine :=
  { m with
    id := some (resourceId subscription group machineType i.name)
    name := some i.name
    resourceType := some machineType
    location := i.placement
    properties := some (m.given.assigned subscription group i) }

def describe (subscription group : String) (i : Instance) : Except Fault VirtualMachine :=
  match VirtualMachine.decode (.object i.metadata) with
  | .ok m => .ok (m.assigned subscription group i)
  | .error e => .error (.unreadableRecord e)

/-! Creating machines. -/

/-- What is known of a new machine before the state is touched. -/
structure Draft where
  subscription : String
  group : String
  name : String
  location : String
  request : Json.Members
  status : InstanceStatus
  now : Timestamp

namespace Draft

def scope (d : Draft) : Scope := .azure d.subscription d.group

def ofBody (c : Configuration) (now : Timestamp) (subscription group name : String)
    (body : Json) : Except Fault Draft :=
  match VirtualMachine.decode body with
  | .error e => .error (.invalidArgument (.undecodable "virtual machine body" e))
  | .ok m =>
    if m.location = "" then .error (.invalidArgument (.required "virtual machine location"))
    else match body with
      | .object request =>
        .ok ⟨subscription, group, name, m.location, request, c.initialStatus, now⟩
      | _ => .error (.invalidArgument .bodyNotObject)

def record (d : Draft) (id nic : String) (a : Address) : Instance :=
  ⟨d.name, id, d.name, d.location, d.status, d.now, [⟨nic, none, d.name ++ "-nic0", a⟩],
    d.request⟩

/-- Adds the machine as one step. -/
def create (d : Draft) (s : CloudState) : Except Fault Instance × CloudState :=
  match s.vacant d.scope d.name with
  | .error f => (.error f, s)
  | .ok () =>
    match s.allocate with
    | (.error f, s) => (.error f, s)
    | (.ok a, s) =>
      let (id, s) := s.draw Generator.uuid
      let (nic, s) := s.draw Generator.uuid
      let i := d.record id nic a
      (.ok i, s.addInstance d.scope i)

end Draft

def put (c : Configuration) (now : Timestamp) (subscription group name : String) (body : Json) :
    Handler VirtualMachine := do
  let d ← Handler.liftExcept (Draft.ofBody c now subscription group name body)
  let i ← Handler.atomically d.create
  Handler.liftExcept (describe subscription group i)

/-! Answering calls. -/

def versionMissing : Http.Response :=
  .json 400 ((CloudError.mk ⟨"MissingApiVersionParameter",
    "The api-version query parameter (?api-version=) is required for all requests."⟩).encode
      .ofFields)

/-- Every call names a version of the API. -/
def hasVersion (call : Call) : Bool :=
  match call.query? "api-version" with
  | some v => v ≠ ""
  | none => false

def tokenName : String := "$skiptoken"

/-- The call's URL, for the page that a token begins. -/
def nextLink (call : Call) (token : String) : Url :=
  call.url.withPairs (call.query.filter (·.1 ≠ tokenName) ++ [(tokenName, token)])

def create (c : Configuration) (call : Call) : Handler Http.Response := do
  match call.body with
  | none => Handler.refuse (.required "virtual machine body")
  | some body =>
    let subscription ← Handler.liftExcept (call.param "subscriptionId")
    let group ← Handler.liftExcept (call.param "resourceGroupName")
    let name ← Handler.liftExcept (call.param "vmName")
    let m ← put c call.now subscription group name body
    return .json 201 (m.encode .ofFields)

def listing (c : Configuration) (call : Call) (subscription group : String)
    (instances : List Instance) : Except Fault Http.Response := do
  let p ← Page.of instances (some c.azurePageSize) (call.query? tokenName)
  let machines ← p.items.mapM (describe subscription group)
  let link := p.next.map fun token => (nextLink call token).text
  return .json 200 ((MachineList.mk machines link).encode .ofFields)

def list (c : Configuration) (call : Call) : Handler Http.Response := do
  let subscription ← Handler.liftExcept (call.param "subscriptionId")
  let group ← Handler.liftExcept (call.param "resourceGroupName")
  let instances ← Handler.look fun s => s.instances.list (.azure subscription group)
  Handler.liftExcept (listing c call subscription group instances)

def get (call : Call) : Handler Http.Response := do
  let subscription ← Handler.liftExcept (call.param "subscriptionId")
  let group ← Handler.liftExcept (call.param "resourceGroupName")
  let name ← Handler.liftExcept (call.param "vmName")
  let i ← Handler.lookup fun s => s.instances.get (.azure subscription group) name
  let m ← Handler.liftExcept (describe subscription group i)
  return .json 200 (m.encode .ofFields)

def handler (c : Configuration) (verb : Verb) (name : String) (call : Call) :
    Handler Http.Response :=
  if name ≠ resource then throw (.unmodelled .azure verb name)
  else if !hasVersion call then return versionMissing
  else match verb with
    | .create => create c call
    | .list => list c call
    | .get => get call

def codeOf : Fault → String
  | .duplicateIdentity .. => "Conflict"
  | .notFound .. => "ResourceNotFound"
  | .invalidArgument _ => "InvalidParameter"
  | .unsupported _ => "UnsupportedOperation"
  | .alreadyActive _ => "InternalServerError"
  | .internal _ => "InternalServerError"

def refusal (f : Fault) : Http.Response :=
  .json f.status ((CloudError.mk ⟨codeOf f, f.message⟩).encode .ofFields)

def emulator (c : Configuration) : Emulator where
  provider := .azure
  routes := routes
  handler := handler c
  refusal f := pure (refusal f)

end CloudEmulation.Azure
