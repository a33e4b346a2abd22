import CloudEmulation.Client.Walk
import CloudEmulation.Oracle.Order
import CloudEmulation.Oracle.Resource
import CloudEmulation.Url.Reader
import CloudEmulation.Url.Segments
/-!
A client of the Oracle Core Services: instances, shapes and network interfaces.
-/

namespace CloudEmulation.Oracle

def endpointOf (region : String) : String := "https://iaas." ++ region ++ ".oraclecloud.com"

def defaultRegion : String := "us-ashburn-1"

/-- A successful response: what it holds, and what its headers say. -/
structure Answer (α : Type) where
  status : Nat
  headers : Http.Headers
  data : α
  requestId : Option String
  nextPage : Option String
  deriving Repr

/-- The error that a failed response stands for. -/
def errorOfResponse (r : Http.Response) : ClientError :=
  match r.body.map ErrorBody.decode with
  | some (.ok e) => .api .oracle r.status e.code e.message
  | _ => .unrecognized .oracle r

def Answer.ofResponse (decode : Json → Decoding α) (r : Http.Response) :
    Except ClientError (Answer α) :=
  if r.isSuccess then
    match decode r.content with
    | .ok data =>
      .ok ⟨r.status, r.headers, data, r.header? "opc-request-id", r.header? "opc-next-page"⟩
    | .error e => .error (.decode e)
  else .error (errorOfResponse r)

/-- What a list of instances is restricted to, how it is sorted and which page is wanted. -/
structure ListOptions where
  availabilityDomain : Option String
  displayName : Option String
  lifecycleState : Option String
  sortBy : Option SortKey
  sortOrder : Option SortOrder
  limit : Option Nat
  page : Option String
  deriving Repr

namespace ListOptions

def none : ListOptions :=
  ⟨.none, .none, .none, .none, .none, .none, .none⟩

def pairs (compartment : String) (o : ListOptions) : List (String × Option String) :=
  [("compartmentId", some compartment), ("availabilityDomain", o.availabilityDomain),
    ("displayName", o.displayName), ("lifecycleState", o.lifecycleState),
    ("sortBy", o.sortBy.map SortKey.name), ("sortOrder", o.sortOrder.map SortOrder.name),
    ("limit", o.limit.map toString), ("page", o.page)]

end ListOptions

/-- The URL of a resource, with the query parameters that have a value. -/
def resourceUrl (endpoint : String) (path : List String) (query : List (String × Option String)) :
    Except UrlError Url := do
  let url ← Url.join (← Url.parse endpoint) (apiVersion :: path)
  let present := query.filterMap fun p => p.2.map (p.1, ·)
  return if present.isEmpty then url else url.appendPairs present

structure Client (m : Type → Type) where
  endpoint : String
  transport : Transport m

namespace Client

variable {m : Type → Type}

/-- A client of an endpoint that is a URL. -/
def at? (endpoint : String) (t : Transport m) : Except ClientError (Client m) :=
  match Url.parse endpoint with
  | .ok _ => .ok ⟨endpoint, t⟩
  | .error e => .error (.url e)

variable [Monad m]

def call (c : Client m) (decode : Json → Decoding α) (method : String) (path : List String)
    (query : List (String × Option String)) (body : Option Json) : Calling m (Answer α) := do
  let url ← Calling.ofUrl (resourceUrl c.endpoint path query)
  let r ← Calling.send c.transport ⟨method, url, [], body⟩
  ExceptT.mk (pure (Answer.ofResponse decode r))

def launch (c : Client m) (d : LaunchDetails) : Calling m (Answer ComputeInstance) :=
  c.call ComputeInstance.decode "POST" ["instances"] [] (some (d.encode .ofFields))

def listInstances (c : Client m) (compartment : String) (o : ListOptions) :
    Calling m (Answer (List ComputeInstance)) :=
  c.call (Json.asList ComputeInstance.decode) "GET" ["instances"] (o.pairs compartment) none

def getInstance (c : Client m) (id : String) : Calling m (Answer ComputeInstance) :=
  c.call ComputeInstance.decode "GET" ["instances", id] [] none

def terminate (c : Client m) (id : String) : Calling m (Answer Json) :=
  c.call Json.asAny "DELETE" ["instances", id] [] none

def listAttachments (c : Client m) (compartment : String) (instanceId : Option String) :
    Calling m (Answer (List VnicAttachment)) :=
  c.call (Json.asList VnicAttachment.decode) "GET" ["vnicAttachments"]
    [("compartmentId", some compartment), ("instanceId", instanceId)] none

def listShapes (c : Client m) (compartment : String) : Calling m (Answer (List Shape)) :=
  c.call (Json.asList Shape.decode) "GET" ["shapes"] [("compartmentId", some compartment)] none

def getVnic (c : Client m) (id : String) : Calling m (Answer Vnic) :=
  c.call Vnic.decode "GET" ["vnics", id] [] none

/-- The page of a list that a token begins. -/
def page (c : Client m) (compartment : String) (o : ListOptions) (token : Option String) :
    Calling m (List ComputeInstance × Option (Option String)) := do
  let a ← c.listInstances compartment { o with page := token }
  return (a.data, a.nextPage.map some)

/-- All instances that are asked for, from the page that is asked for on, on at most `budget`
pages. -/
def listAll (c : Client m) (budget : Nat) (compartment : String) (o : ListOptions) :
    m (Walk ComputeInstance) :=
  Walk.run (c.page compartment o) budget none o.page

end Client

end CloudEmulation.Oracle
