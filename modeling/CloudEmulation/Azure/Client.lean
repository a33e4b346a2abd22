import CloudEmulation.Azure.Reply
import CloudEmulation.Client.Walk
import CloudEmulation.Url.Reader
import CloudEmulation.Url.Segments
/-!
A client of the Azure Compute API. A create may go on after its response; lists are read page by
page as their items are wanted.
-/

namespace CloudEmulation.Azure

def defaultEndpoint : String := "https://management.azure.com"

/-- The error that a failed response stands for. -/
def errorOfResponse (r : Http.Response) : ClientError :=
  match r.body.map CloudError.decode with
  | some (.ok e) => .api .azure r.status e.error.code e.error.message
  | _ => .unrecognized .azure r

structure Client (m : Type → Type) where
  endpoint : String
  subscription : String
  transport : Transport m

/-- The segments that lead to the machines of a group, or to one of them. -/
def machineSegments (subscription group : String) (name : Option String) : List String :=
  ["subscriptions", subscription, "resourceGroups", group, "providers", "Microsoft.Compute",
    "virtualMachines"] ++ name.toList

def machinesUrl (endpoint subscription group : String) (name : Option String) :
    Except UrlError Url := do
  let url ← Url.join (← Url.parse endpoint) (machineSegments subscription group name)
  return url.appendPairs [("api-version", apiVersion)]

def request (method : String) (url : Url) (body : Option Json) : Http.Request :=
  ⟨method, url, [], body⟩

/-- A create that may still be going on; `interval` is the time between two looks, in seconds. -/
structure Poller where
  resource : Url
  operation : Option Url
  interval : Nat
  initial : VirtualMachine
  deriving Repr

/-- The end of a long-running operation: how often it was waited for, and its result unless it was
still running after the last look. -/
structure Polled where
  waits : Nat
  result : Option (Except ClientError VirtualMachine)
  deriving Repr

def defaultInterval : Nat := 5

/-- A successful response as a value. -/
def readResponse {m : Type → Type} [Monad m] (decode : Json → Decoding α) (r : Http.Response) :
    Calling m α :=
  if r.isSuccess then Calling.ofDecoding (decode r.content) else throw (errorOfResponse r)

namespace OperationStatus

/-- Why an operation did not succeed. -/
def failure (s : OperationStatus) : ClientError :=
  let e := s.error.getD ⟨s.status, "long-running operation did not succeed"⟩
  .api .azure 200 e.code e.message

end OperationStatus

namespace Poller

variable {m : Type → Type} [Monad m]

/-- Whether the first response already had the result. -/
def isDone (p : Poller) : Bool := p.operation.isNone

def readMachine (t : Transport m) (url : Url) : Calling m VirtualMachine := do
  readResponse VirtualMachine.decode (← Calling.send t (request "GET" url none))

/-- Looks at an operation, at most `budget` times, until it has ended. -/
def await (t : Transport m) (resource operation : Url) : Nat → m Polled
  | 0 => return ⟨0, none⟩
  | budget + 1 => do
    let look : Calling m OperationStatus := do
      readResponse OperationStatus.decode (← Calling.send t (request "GET" operation none))
    match ← look.run with
    | .error e => return ⟨0, some (.error e)⟩
    | .ok s =>
      if s.status = "Succeeded" then return ⟨0, some (← (readMachine t resource).run)⟩
      else if s.status = "Failed" ∨ s.status = "Canceled" then
        return ⟨0, some (.error s.failure)⟩
      else
        let later ← await t resource operation budget
        return { later with waits := later.waits + 1 }

/-- The machine once its create has ended. -/
def result (t : Transport m) (budget : Nat) (p : Poller) : m Polled :=
  match p.operation with
  | none => return ⟨0, some (.ok p.initial)⟩
  | some operation => await t p.resource operation budget

end Poller

namespace Client

variable {m : Type → Type}

/-- A client of an endpoint that is a URL. -/
def at? (endpoint subscription : String) (t : Transport m) : Except ClientError (Client m) :=
  match Url.parse endpoint with
  | .ok _ => .ok ⟨endpoint, subscription, t⟩
  | .error e => .error (.url e)

variable [Monad m]

def machineUrl (c : Client m) (group name : String) : Except UrlError Url :=
  machinesUrl c.endpoint c.subscription group (some name)

/-- Where a response says that its operation can be watched. -/
def watched (r : Http.Response) : Except UrlError (Option Url) :=
  match r.header? "azure-asyncoperation" with
  | none => .ok none
  | some text => (Url.parse text).map some

def interval (r : Http.Response) : Nat :=
  ((r.header? "retry-after").bind Numeral.word64?).getD defaultInterval

/-- Begins to create a machine, or to replace it. -/
def beginCreate (c : Client m) (group name : String) (machine : VirtualMachine) :
    Calling m Poller := do
  let url ← Calling.ofUrl (c.machineUrl group name)
  let r ← Calling.send c.transport (request "PUT" url (some (machine.encode .ofFields)))
  let operation ← Calling.ofUrl (watched r)
  let initial ← readResponse VirtualMachine.decode r
  return ⟨url, operation, interval r, initial⟩

def get (c : Client m) (group name : String) : Calling m VirtualMachine := do
  let url ← Calling.ofUrl (c.machineUrl group name)
  readResponse VirtualMachine.decode (← Calling.send c.transport (request "GET" url none))

/-- The page of a list at a URL, or the first one. -/
def page (c : Client m) (group : String) (url : Option Url) :
    Calling m (List VirtualMachine × Option (Option Url)) := do
  let url ← match url with
    | some url => pure url
    | none => Calling.ofUrl (machinesUrl c.endpoint c.subscription group none)
  let l ← readResponse MachineList.decode (← Calling.send c.transport (request "GET" url none))
  match l.nextLink with
  | none => return (l.value, none)
  | some link =>
    let next ← Calling.ofUrl (Url.parse link)
    return (l.value, some (some next))

/-- The machines of a group, or the first `wanted` of them, on at most `budget` pages. -/
def list (c : Client m) (budget : Nat) (wanted : Option Nat) (group : String) :
    m (Walk VirtualMachine) :=
  Walk.run (c.page group) budget wanted none

end Client

end CloudEmulation.Azure
