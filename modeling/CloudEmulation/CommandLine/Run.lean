import CloudEmulation.Azure.Client
import CloudEmulation.Client.Emulated
import CloudEmulation.CommandLine.Command
import CloudEmulation.Configuration.Document
import CloudEmulation.Google.Client
import CloudEmulation.Json.Reader
import CloudEmulation.Oracle.Client
/-!
Running a command: one call of a client, answered by a cloud that is made for it. Results are shown
as indented JSON, failures with their causes.
-/

namespace CloudEmulation.CommandLine

/-- What a run leaves behind. -/
structure Outcome where
  code : Nat
  output : String
  errors : String
  deriving DecidableEq, Repr

/-- What went wrong, and why: the nearest cause comes first. -/
structure Failure where
  message : String
  causes : List String
  deriving DecidableEq, Repr

namespace Failure

def ofClientError (e : ClientError) : Failure :=
  match e with
  | .decode cause => ⟨e.message, [cause.message]⟩
  | .url cause => ⟨e.message, [cause.message]⟩
  | _ => ⟨e.message, []⟩

def ofLoadError (e : Configuration.LoadError) : Failure :=
  let message := "Failed to load configuration"
  match e with
  | .file _ reason => ⟨message, [e.message, reason]⟩
  | .form => ⟨message, [e.message, Configuration.formDetail]⟩
  | .invalid _ => ⟨message, [e.message]⟩

def ofFault (f : Fault) : Failure := ⟨"Failed to build the virtual cloud", [f.message]⟩

def bodyNotObject (causes : List String) : Failure := ⟨"--body must be a JSON object", causes⟩

/-- Text whose lines after the first are indented. -/
def hang (indent : String) (s : String) : String :=
  ("\n" ++ indent).intercalate (s.splitOn "\n")

/-- A cause by its number; a single cause has none. -/
def causeLine (single : Bool) (number : Nat) (cause : String) : String :=
  if single then "    " ++ hang "    " cause
  else
    let n := toString number
    "".pushn ' ' (5 - n.length) ++ n ++ ": " ++ hang "       " cause

def text (f : Failure) : String :=
  let single := f.causes.length = 1
  let lines := f.causes.mapIdx (causeLine single)
  "Error: " ++ f.message ++
    (if lines.isEmpty then "" else "\n\nCaused by:\n" ++ "\n".intercalate lines) ++ "\n"

end Failure

/-- A part of a run, on a cloud. -/
abbrev Running := ExceptT Failure (StateM Cloud)

namespace Running

def call (c : Calling (StateM Cloud) α) : Running α := fun cloud =>
  let (r, cloud) := c.run cloud
  (r.mapError Failure.ofClientError, cloud)

/-- All items of a walk that is not cut short. -/
def walk (w : StateM Cloud (Walk α)) : Running (List α) := fun cloud =>
  let (w, cloud) := w cloud
  ((w.all.getD (.ok w.items)).mapError Failure.ofClientError, cloud)

def display (j : Json) : String := j.indented 0 ++ "\n"

/-- A record is shown in the order in which its fields are declared. -/
def showAs (encode : Json.Assembly → α → Json) (a : α) : String := display (encode .object a)

def showList (encode : Json.Assembly → α → Json) (l : List α) : String :=
  display (.array (l.map (encode .object)))

/-- More pages than the lists of the cloud have. -/
def pages : Running Nat := fun c => (.ok (c.state.instances.size + 2), c)

/-- The members that a new instance is to have, beside its name. -/
def bodyMembers (body : Option String) : Except Failure Json.Members :=
  match body with
  | none => .ok []
  | some text =>
    match Json.parse text with
    | .ok (.object m) => .ok m
    | .ok _ => .error (.bodyNotObject [])
    | .error e => .error (.bodyNotObject [e])

def google (now : Timestamp) (command : GoogleCommand) : Running String := do
  let c : Google.Client (StateM Cloud) := ⟨Google.defaultEndpoint, Cloud.transport now .google⟩
  let execute (r : Google.Request) : Running String := return display (← call (c.execute r))
  match command with
  | .list project zone filter maxResults =>
    let r := Google.Request.listInstances project zone
    let r := filter.elim r r.filter
    execute (maxResults.elim r r.maxResults)
  | .insert project zone name body =>
    let m ← ExceptT.mk (pure (bodyMembers body))
    execute (.insertInstance project zone (.object (Dictionary.insert m "name" (.string name))))
  | .get project zone name => execute (.getInstance project zone name)
  | .machineTypes project zone filter =>
    let r := Google.Request.listMachineTypes project zone
    execute (filter.elim r r.filter)

def azure (now : Timestamp) (command : AzureCommand) : Running String := do
  let client (subscription : String) : Azure.Client (StateM Cloud) :=
    ⟨Azure.defaultEndpoint, subscription, Cloud.transport now .azure⟩
  match command with
  | .list subscription group =>
    let machines ← walk ((client subscription).list (← pages) none group)
    return showList Azure.VirtualMachine.encode machines
  | .create subscription group name location size =>
    let c := client subscription
    let machine := Azure.VirtualMachine.new location
    let machine := size.elim machine machine.withHardware
    let poller ← call (c.beginCreate group name machine)
    let polled ← ExceptT.lift (poller.result c.transport 1)
    let created ← call (ExceptT.mk (pure (polled.result.getD (.ok poller.initial))))
    return showAs Azure.VirtualMachine.encode created
  | .get subscription group name =>
    return showAs Azure.VirtualMachine.encode (← call ((client subscription).get group name))

def oracle (now : Timestamp) (command : OracleCommand) : Running String := do
  let c : Oracle.Client (StateM Cloud) :=
    ⟨Oracle.endpointOf Oracle.defaultRegion, Cloud.transport now .oracle⟩
  match command with
  | .list compartment sortBy sortOrder =>
    let instances ← walk (c.listAll (← pages) compartment
      { Oracle.ListOptions.none with sortBy, sortOrder })
    return showList Oracle.ComputeInstance.encode instances
  | .launch compartment name domain shape =>
    let details := { Oracle.LaunchDetails.new compartment with
      displayName := name, availabilityDomain := domain, shape }
    return showAs Oracle.ComputeInstance.encode (← call (c.launch details)).data
  | .get id => return showAs Oracle.ComputeInstance.encode (← call (c.getInstance id)).data
  | .shapes compartment =>
    return showList Oracle.Shape.encode (← call (c.listShapes compartment)).data
  | .attachments compartment instanceId =>
    return showList Oracle.VnicAttachment.encode
      (← call (c.listAttachments compartment instanceId)).data

def command (now : Timestamp) : Command → Running String
  | .google c => google now c
  | .azure c => azure now c
  | .oracle c => oracle now c

end Running

/-- A file that was looked for: its path, and its text or why it cannot be read. -/
structure ConfigFile where
  path : String
  content : Except String String

def configuration (file : Option ConfigFile) : Except Failure Configuration :=
  match file with
  | none => .ok .standard
  | some f =>
    match f.content with
    | .error reason => .error (.ofLoadError (.file f.path reason))
    | .ok text => (Configuration.ofText text).mapError .ofLoadError

/-- The result of a command on a fresh cloud; a configuration without a seed takes the given one. -/
def result (now : Timestamp) (seed : Nat) (file : Option ConfigFile) (c : Command) :
    Except Failure String := do
  let config ← configuration file
  let cloud ← (Cloud.fresh (config.withSeed (config.idSeed.getD seed)) now).mapError .ofFault
  (Running.command now c cloud).1

def run (now : Timestamp) (seed : Nat) (file : Option ConfigFile) (c : Command) : Outcome :=
  match result now seed file c with
  | .ok output => ⟨0, output, ""⟩
  | .error f => ⟨1, "", f.text⟩

/-- What is shown when arguments are not well formed. -/
def usage : Outcome :=
  ⟨2, "", "Usage: mockcloud [--config FILE] [--log-level LEVEL] PROVIDER COMMAND [OPTIONS]\n"⟩

def version : Outcome := ⟨0, "mockcloud 0.1.0\n", ""⟩

end CloudEmulation.CommandLine
