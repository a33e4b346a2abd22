import CloudEmulation.Client.Walk
import CloudEmulation.Google.Resource
import CloudEmulation.Url.Reader
import CloudEmulation.Url.Segments
/-!
A client of the Google Compute API. Responses are handed on as they are.
-/

namespace CloudEmulation.Google

def defaultEndpoint : String := "https://compute.googleapis.com"

/-- A prepared call. -/
structure Request where
  method : String
  segments : List String
  query : Url.Pairs
  body : Option Json
  deriving Repr

namespace Request

def zonal (method project zone : String) (path : List String) : Request :=
  ⟨method, ["compute", "v1", "projects", project, "zones", zone] ++ path, [], none⟩

def listInstances (project zone : String) : Request := zonal "GET" project zone ["instances"]

def getInstance (project zone name : String) : Request :=
  zonal "GET" project zone ["instances", name]

def insertInstance (project zone : String) (body : Json) : Request :=
  { zonal "POST" project zone ["instances"] with body := some body }

def deleteInstance (project zone name : String) : Request :=
  zonal "DELETE" project zone ["instances", name]

def listMachineTypes (project zone : String) : Request := zonal "GET" project zone ["machineTypes"]

def getMachineType (project zone name : String) : Request :=
  zonal "GET" project zone ["machineTypes", name]

/-- A further query parameter. -/
def param (r : Request) (name value : String) : Request :=
  { r with query := r.query ++ [(name, value)] }

def filter (r : Request) (text : String) : Request := r.param "filter" text

def maxResults (r : Request) (n : Nat) : Request := r.param "maxResults" (toString n)

def pageToken (r : Request) (token : String) : Request := r.param "pageToken" token

/-- The request that is sent to an endpoint. -/
def build (endpoint : String) (r : Request) : Except UrlError Http.Request := do
  let url ← Url.join (← Url.parse endpoint) r.segments
  let url := if r.query.isEmpty then url else url.appendPairs r.query
  return ⟨r.method, url, [], r.body⟩

end Request

/-- The error that a failed response stands for. -/
def errorOfResponse (r : Http.Response) : ClientError :=
  match r.body.map ErrorResponse.decode with
  | some (.ok e) =>
    let code := (e.error.errors.head?.map ErrorItem.reason).getD (toString e.error.code)
    .api .google r.status code e.error.message
  | _ => .unrecognized .google r

structure Client (m : Type → Type) where
  endpoint : String
  transport : Transport m

namespace Client

variable {m : Type → Type}

/-- A client of an endpoint that is a URL. -/
def at? (endpoint : String) (t : Transport m) : Except ClientError (Client m) :=
  match Url.parse endpoint with
  | .ok _ => .ok ⟨endpoint, t⟩
  | .error e => .error (.url e)

variable [Monad m]

/-- Sends a prepared call. A success without a body is an empty object. -/
def execute (c : Client m) (r : Request) : Calling m Json := do
  let request ← Calling.ofUrl (r.build c.endpoint)
  let response ← Calling.send c.transport request
  if response.isSuccess then return response.body.getD (.object [])
  else throw (errorOfResponse response)

/-- The page of a list that a token begins. -/
def page (c : Client m) (project zone : String) (filter : Option String) (token : Option String) :
    Calling m (List Json × Option (Option String)) := do
  let r := Request.listInstances project zone
  let r := filter.elim r r.filter
  let response ← c.execute (token.elim r r.pageToken)
  let items := match response.member? "items" with
    | some (.array items) => items
    | _ => []
  return (items, ((response.member? "nextPageToken").bind Json.string?).map some)

/-- All instances of a zone, on at most `budget` pages. -/
def listAll (c : Client m) (budget : Nat) (project zone : String) (filter : Option String) :
    m (Walk Json) :=
  Walk.run (c.page project zone filter) budget none none

end Client

end CloudEmulation.Google
