import CloudEmulation.Azure.Client
import CloudEmulation.Client.Emulated
import CloudEmulation.Google.Client
import CloudEmulation.Oracle.Client
import CloudEmulation.Proofs.Emulation.Templates
/-!
The requests of the clients are routed to the handlers that their methods are named for, which are
given the arguments of the methods.
-/

namespace CloudEmulation

open Url (Argument Bare segmentText)

/-- A call of a client's method, with its arguments. Google's take any further parameters. -/
inductive ClientCall where
  | listGoogleInstances (project zone : String) (query : Url.Pairs)
  | getGoogleInstance (project zone name : String) (query : Url.Pairs)
  | insertGoogleInstance (project zone : String) (body : Json) (query : Url.Pairs)
  | deleteGoogleInstance (project zone name : String) (query : Url.Pairs)
  | listMachineTypes (project zone : String) (query : Url.Pairs)
  | getMachineType (project zone name : String) (query : Url.Pairs)
  | beginCreate (subscription group name : String) (machine : Azure.VirtualMachine)
  | getMachine (subscription group name : String)
  | listMachines (subscription group : String)
  | launch (details : Oracle.LaunchDetails)
  | listOracleInstances (compartment : String) (options : Oracle.ListOptions)
  | getOracleInstance (id : String)
  | terminate (id : String)
  | listAttachments (compartment : String) (instanceId : Option String)
  | listShapes (compartment : String)
  | getVnic (id : String)

/-- Writes every request down, and answers it as is given. -/
def recorder (answer : Http.Request → Except ClientError Http.Response) :
    Transport (StateM (List Http.Request)) := fun r sent => (answer r, sent ++ [r])

/-- The requests that a computation of a client sends. -/
def Calling.sent {α : Type} (call : Calling (StateM (List Http.Request)) α) : List Http.Request :=
  (call.run.run []).2

def Google.Request.withParams (r : Request) (query : Url.Pairs) : Request :=
  query.foldl (fun r p => r.param p.1 p.2) r

def Google.zoneSegments (project zone : String) : List String :=
  ["compute", "v1", "projects", project, "zones", zone]

namespace ClientCall

def provider : ClientCall → Provider
  | listGoogleInstances .. | getGoogleInstance .. | insertGoogleInstance ..
  | deleteGoogleInstance .. | listMachineTypes .. | getMachineType .. => .google
  | beginCreate .. | getMachine .. | listMachines .. => .azure
  | launch .. | listOracleInstances .. | getOracleInstance .. | terminate ..
  | listAttachments .. | listShapes .. | getVnic .. => .oracle

/-- The arguments that address something, under the names that handlers know them by. -/
def params : ClientCall → Params
  | listGoogleInstances project zone _ | insertGoogleInstance project zone _ _
  | listMachineTypes project zone _ => [("project", project), ("zone", zone)]
  | getGoogleInstance project zone name _ | deleteGoogleInstance project zone name _ =>
    [("project", project), ("zone", zone), ("instance", name)]
  | getMachineType project zone name _ =>
    [("project", project), ("zone", zone), ("machineType", name)]
  | beginCreate subscription group name _ | getMachine subscription group name =>
    [("subscriptionId", subscription), ("resourceGroupName", group), ("vmName", name)]
  | listMachines subscription group =>
    [("subscriptionId", subscription), ("resourceGroupName", group)]
  | getOracleInstance id | terminate id => [("instanceId", id)]
  | getVnic id => [("vnicId", id)]
  | launch _ | listOracleInstances .. | listAttachments .. | listShapes _ => []

/-- The arguments that go into the query, in order. -/
def query : ClientCall → Url.Pairs
  | listGoogleInstances _ _ query | getGoogleInstance _ _ _ query
  | insertGoogleInstance _ _ _ query | deleteGoogleInstance _ _ _ query
  | listMachineTypes _ _ query | getMachineType _ _ _ query => query
  | beginCreate .. | getMachine .. | listMachines .. => [("api-version", Azure.apiVersion)]
  | launch _ | getOracleInstance _ | terminate _ | getVnic _ => []
  | listOracleInstances compartment o =>
    given [("compartmentId", some compartment), ("availabilityDomain", o.availabilityDomain),
      ("displayName", o.displayName), ("lifecycleState", o.lifecycleState),
      ("sortBy", o.sortBy.map (·.name)), ("sortOrder", o.sortOrder.map (·.name)),
      ("limit", o.limit.map toString), ("page", o.page)]
  | listAttachments compartment instanceId =>
    given [("compartmentId", some compartment), ("instanceId", instanceId)]
  | listShapes compartment => [("compartmentId", compartment)]
where
  given (pairs : List (String × Option String)) : Url.Pairs :=
    pairs.filterMap fun p => p.2.map (p.1, ·)

/-- What a call asks for, unless it asks for what no handler does. -/
def target? : ClientCall → Option (Verb × String)
  | listGoogleInstances .. => some (.list, "instances")
  | getGoogleInstance .. => some (.get, "instances")
  | insertGoogleInstance .. => some (.create, "instances")
  | listMachineTypes .. => some (.list, "machineTypes")
  | getMachineType .. => some (.get, "machineTypes")
  | beginCreate .. => some (.create, "virtualMachines")
  | getMachine .. => some (.get, "virtualMachines")
  | listMachines .. => some (.list, "virtualMachines")
  | launch _ => some (.create, "instances")
  | listOracleInstances .. => some (.list, "instances")
  | getOracleInstance _ => some (.get, "instances")
  | listAttachments .. => some (.list, "vnicAttachments")
  | listShapes _ => some (.list, "shapes")
  | getVnic _ => some (.get, "vnics")
  | deleteGoogleInstance .. | terminate _ => none

/-- The method of the request, and the segments of its path. -/
def method : ClientCall → String
  | insertGoogleInstance .. | launch _ => "POST"
  | beginCreate .. => "PUT"
  | deleteGoogleInstance .. | terminate _ => "DELETE"
  | _ => "GET"

def segments : ClientCall → List String
  | listGoogleInstances project zone _ | insertGoogleInstance project zone _ _ =>
    Google.zoneSegments project zone ++ ["instances"]
  | getGoogleInstance project zone name _ | deleteGoogleInstance project zone name _ =>
    Google.zoneSegments project zone ++ ["instances", name]
  | listMachineTypes project zone _ => Google.zoneSegments project zone ++ ["machineTypes"]
  | getMachineType project zone name _ =>
    Google.zoneSegments project zone ++ ["machineTypes", name]
  | beginCreate subscription group name _ | getMachine subscription group name =>
    Azure.machineSegments subscription group (some name)
  | listMachines subscription group => Azure.machineSegments subscription group none
  | launch _ | listOracleInstances .. => [Oracle.apiVersion, "instances"]
  | getOracleInstance id | terminate id => [Oracle.apiVersion, "instances", id]
  | listAttachments .. => [Oracle.apiVersion, "vnicAttachments"]
  | listShapes _ => [Oracle.apiVersion, "shapes"]
  | getVnic id => [Oracle.apiVersion, "vnics", id]

section

variable (answer : Http.Request → Except ClientError Http.Response) (endpoint : String)

/-- The requests that a client of an endpoint sends. -/
def requests : ClientCall → List Http.Request
  | listGoogleInstances project zone query =>
    google ((Google.Request.listInstances project zone).withParams query)
  | getGoogleInstance project zone name query =>
    google ((Google.Request.getInstance project zone name).withParams query)
  | insertGoogleInstance project zone body query =>
    google ((Google.Request.insertInstance project zone body).withParams query)
  | deleteGoogleInstance project zone name query =>
    google ((Google.Request.deleteInstance project zone name).withParams query)
  | listMachineTypes project zone query =>
    google ((Google.Request.listMachineTypes project zone).withParams query)
  | getMachineType project zone name query =>
    google ((Google.Request.getMachineType project zone name).withParams query)
  | beginCreate subscription group name machine =>
    ((azure subscription).beginCreate group name machine).sent
  | getMachine subscription group name => ((azure subscription).get group name).sent
  | listMachines subscription group => ((azure subscription).page group none).sent
  | launch details => (oracle.launch details).sent
  | listOracleInstances compartment options => (oracle.listInstances compartment options).sent
  | getOracleInstance id => (oracle.getInstance id).sent
  | terminate id => (oracle.terminate id).sent
  | listAttachments compartment instanceId => (oracle.listAttachments compartment instanceId).sent
  | listShapes compartment => (oracle.listShapes compartment).sent
  | getVnic id => (oracle.getVnic id).sent
where
  google (r : Google.Request) : List Http.Request :=
    (Google.Client.execute ⟨endpoint, recorder answer⟩ r).sent
  azure (subscription : String) : Azure.Client (StateM (List Http.Request)) :=
    ⟨endpoint, subscription, recorder answer⟩
  oracle : Oracle.Client (StateM (List Http.Request)) := ⟨endpoint, recorder answer⟩

end

end ClientCall

/-! What the clients send. -/

/-- An endpoint that adds nothing to the paths and queries of requests. -/
def BareEndpoint (endpoint : String) : Prop := ∃ u, Url.parse endpoint = .ok u ∧ u.Bare

variable {answer : Http.Request → Except ClientError Http.Response} {endpoint : String}
  {segments : List String} {special : Bool} {s : String}

/-- A computation of a client that sends nothing. -/
def Calling.Silent {α : Type} (call : Calling (StateM (List Http.Request)) α) : Prop :=
  ∀ sent, (call.run.run sent).2 = sent

namespace Calling

variable {α β : Type} {call : Calling (StateM (List Http.Request)) α}
  {after : α → Calling (StateM (List Http.Request)) β} {r : Http.Request}

theorem Silent.pure (a : α) : (pure a : Calling (StateM (List Http.Request)) α).Silent :=
  fun _ => rfl

theorem Silent.throw (e : ClientError) :
    (throw e : Calling (StateM (List Http.Request)) α).Silent :=
  fun _ => rfl

theorem Silent.bind (h : call.Silent) (ha : ∀ a, (after a).Silent) : (call >>= after).Silent := by
  intro sent
  have hs : (call sent).2 = sent := h sent
  show (ExceptT.bindCont after (call sent).1 (call sent).2).2 = sent
  rw [hs]
  cases (call sent).1 with
  | error e => rfl
  | ok a => exact ha a sent

theorem Silent.ofDecoding (d : Decoding α) :
    (ofDecoding d : Calling (StateM (List Http.Request)) α).Silent := by
  cases d with
  | error e => exact .throw _
  | ok a => exact .pure a

theorem Silent.ofUrl (u : Except UrlError α) :
    (ofUrl u : Calling (StateM (List Http.Request)) α).Silent := by
  cases u with
  | error e => exact .throw _
  | ok a => exact .pure a

theorem Silent.readResponse (decode : Json → Decoding α) (response : Http.Response) :
    (Azure.readResponse decode response : Calling (StateM (List Http.Request)) α).Silent := by
  unfold Azure.readResponse
  split
  · exact .ofDecoding _
  · exact .throw _

theorem sent_send {after : Http.Response → Calling (StateM (List Http.Request)) α}
    (h : ∀ response, (after response).Silent) :
    (send (recorder answer) r >>= after).sent = [r] := by
  show (ExceptT.bindCont after (answer r) [r]).2 = [r]
  cases answer r with
  | error e => rfl
  | ok response => exact h response [r]

/-- What is sent to an emulated cloud is answered by it. -/
theorem run_send {c c' : Cloud} {p : Provider} {now : Timestamp} {response : Http.Response}
    (h : c.respond p now r = (response, c')) (after : Http.Response → Calling (StateM Cloud) α) :
    (send (Cloud.transport now p) r >>= after).run.run c = (after response).run.run c' := by
  have ht : Cloud.transport now p r c = (.ok response, c') := by
    rw [Cloud.transport, h]
  show (ExceptT.bindCont after (Cloud.transport now p r c).1) (Cloud.transport now p r c).2 = _
  rw [ht]
  rfl

end Calling

/-- Whether a URL leads to some segments with some parameters. -/
structure Leads (u : Url) (segments : List String) (query : Url.Pairs) : Prop where
  path : ∃ special, PathTemplate.split u.pathText = segments.map (segmentText special)
  query : u.queryPairs = query

/-- Whether one request with a method, segments and parameters is sent, whatever is answered. -/
def Sends (sent : (Http.Request → Except ClientError Http.Response) → List Http.Request)
    (method : String) (segments : List String) (query : Url.Pairs) : Prop :=
  ∃ url body, (∀ answer, sent answer = [⟨method, url, [], body⟩]) ∧ Leads url segments query

theorem Google.build_eq (h : BareEndpoint endpoint) (r : Google.Request)
    (hs : ∀ s ∈ r.segments, Argument s) :
    ∃ url, r.build endpoint = .ok ⟨r.method, url, [], r.body⟩ ∧ Leads url r.segments r.query := by
  obtain ⟨u, hu, hbare⟩ := h
  obtain ⟨v, special, hjoin, hv, hsplit⟩ := hbare.join hs
  unfold Request.build
  simp only [hu, hjoin, bind, Except.bind]
  cases hq : r.query with
  | nil => exact ⟨v, rfl, ⟨special, hsplit⟩, hbare.queryPairs hv⟩
  | cons p query => exact ⟨_, rfl, ⟨special, hsplit⟩, hbare.appendPairs hv _⟩

theorem Google.sent_execute {r : Request} {request : Http.Request}
    (h : r.build endpoint = .ok request) :
    (Client.execute ⟨endpoint, recorder answer⟩ r).sent = [request] := by
  unfold Client.execute
  rw [h]
  refine Calling.sent_send fun response => ?_
  split
  · exact .pure _
  · exact .throw _

theorem Google.withParams_eq (r : Request) (query : Url.Pairs) :
    r.withParams query = { r with query := r.query ++ query } := by
  induction query generalizing r with
  | nil => rw [List.append_nil]; rfl
  | cons p query ih =>
    show (r.param p.1 p.2).withParams query = _
    rw [ih, Request.param, List.append_assoc, List.singleton_append]

theorem Google.sends (h : BareEndpoint endpoint) (r : Request) (query : Url.Pairs)
    (hq : r.query = []) (hs : ∀ s ∈ r.segments, Argument s) :
    Sends (fun answer => (Client.execute ⟨endpoint, recorder answer⟩ (r.withParams query)).sent)
      r.method r.segments query := by
  simp only [withParams_eq, hq, List.nil_append]
  obtain ⟨url, hb, hl⟩ := build_eq h { r with query := query } hs
  exact ⟨url, r.body, fun answer => sent_execute hb, hl⟩

theorem Azure.machinesUrl_of_join {subscription group : String} {name : Option String} {u v : Url}
    (hu : Url.parse endpoint = .ok u)
    (hj : u.join (machineSegments subscription group name) = .ok v) :
    machinesUrl endpoint subscription group name =
      .ok (v.appendPairs [("api-version", apiVersion)]) := by
  unfold machinesUrl
  simp only [hu, hj, bind, Except.bind]
  rfl

theorem Azure.machinesUrl_eq (h : BareEndpoint endpoint) {subscription group : String}
    {name : Option String}
    (hs : ∀ s ∈ machineSegments subscription group name, Argument s) :
    ∃ url, machinesUrl endpoint subscription group name = .ok url ∧
      Leads url (machineSegments subscription group name) [("api-version", apiVersion)] := by
  obtain ⟨u, hu, hbare⟩ := h
  obtain ⟨v, special, hjoin, hv, hsplit⟩ := hbare.join hs
  exact ⟨_, machinesUrl_of_join hu hjoin, ⟨special, hsplit⟩, hbare.appendPairs hv _⟩

section

variable {subscription group : String} {url : Url}

theorem Azure.sent_beginCreate {name : String}
    (h : machinesUrl endpoint subscription group (some name) = .ok url) (machine : VirtualMachine) :
    (Client.beginCreate ⟨endpoint, subscription, recorder answer⟩ group name machine).sent =
      [request "PUT" url (some (machine.encode .ofFields))] := by
  unfold Client.beginCreate Client.machineUrl
  rw [h]
  refine Calling.sent_send fun response => ?_
  refine .bind (.ofUrl _) fun operation => ?_
  exact .bind (.readResponse _ _) fun initial => .pure _

theorem Azure.sent_get {name : String}
    (h : machinesUrl endpoint subscription group (some name) = .ok url) :
    (Client.get ⟨endpoint, subscription, recorder answer⟩ group name).sent =
      [request "GET" url none] := by
  unfold Client.get Client.machineUrl
  rw [h]
  exact Calling.sent_send fun response => .readResponse _ _

theorem Azure.sent_page (h : machinesUrl endpoint subscription group none = .ok url) :
    (Client.page ⟨endpoint, subscription, recorder answer⟩ group none).sent =
      [request "GET" url none] := by
  unfold Client.page
  simp only [h]
  refine Calling.sent_send fun response => ?_
  refine .bind (.readResponse _ _) fun list => ?_
  split
  · exact .pure _
  · exact .bind (.ofUrl _) fun next => .pure _

end

theorem Oracle.resourceUrl_eq (h : BareEndpoint endpoint) {path : List String}
    (query : List (String × Option String)) (hs : ∀ s ∈ apiVersion :: path, Argument s) :
    ∃ url, resourceUrl endpoint path query = .ok url ∧
      Leads url (apiVersion :: path) (query.filterMap fun p => p.2.map (p.1, ·)) := by
  obtain ⟨u, hu, hbare⟩ := h
  obtain ⟨v, special, hjoin, hv, hsplit⟩ := hbare.join hs
  unfold resourceUrl
  simp only [hu, hjoin, bind, Except.bind]
  cases hq : query.filterMap fun p => p.2.map (p.1, ·) with
  | nil => exact ⟨v, rfl, ⟨special, hsplit⟩, hbare.queryPairs hv⟩
  | cons p present => exact ⟨_, rfl, ⟨special, hsplit⟩, hbare.appendPairs hv _⟩

theorem Oracle.sent_call {α : Type} {decode : Json → Decoding α} {path : List String}
    {query : List (String × Option String)} {url : Url}
    (h : resourceUrl endpoint path query = .ok url) (method : String) (body : Option Json) :
    (Client.call ⟨endpoint, recorder answer⟩ decode method path query body).sent =
      [⟨method, url, [], body⟩] := by
  unfold Client.call
  rw [h]
  exact Calling.sent_send fun _ _ => rfl

theorem Oracle.sends {α : Type} {decode : Json → Decoding α} {path : List String}
    (h : BareEndpoint endpoint) (hs : ∀ s ∈ apiVersion :: path, Argument s) (method : String)
    (query : List (String × Option String)) (body : Option Json) :
    Sends
      (fun answer =>
        (Client.call ⟨endpoint, recorder answer⟩ decode method path query body).sent)
      method (apiVersion :: path) (ClientCall.query.given query) := by
  obtain ⟨url, hu, hl⟩ := resourceUrl_eq h query hs
  exact ⟨url, body, fun answer => sent_call hu method body, hl⟩

namespace ClientCall

theorem sends (h : BareEndpoint endpoint) (call : ClientCall)
    (hs : ∀ s ∈ call.segments, Argument s) :
    Sends (call.requests · endpoint) call.method call.segments call.query := by
  cases call with
  | listGoogleInstances project zone query =>
    exact Google.sends h (.listInstances project zone) query rfl hs
  | getGoogleInstance project zone name query =>
    exact Google.sends h (.getInstance project zone name) query rfl hs
  | insertGoogleInstance project zone body query =>
    exact Google.sends h (.insertInstance project zone body) query rfl hs
  | deleteGoogleInstance project zone name query =>
    exact Google.sends h (.deleteInstance project zone name) query rfl hs
  | listMachineTypes project zone query =>
    exact Google.sends h (.listMachineTypes project zone) query rfl hs
  | getMachineType project zone name query =>
    exact Google.sends h (.getMachineType project zone name) query rfl hs
  | beginCreate subscription group name machine =>
    obtain ⟨url, hu, hl⟩ := Azure.machinesUrl_eq h hs
    exact ⟨url, _, fun answer => Azure.sent_beginCreate hu machine, hl⟩
  | getMachine subscription group name =>
    obtain ⟨url, hu, hl⟩ := Azure.machinesUrl_eq h hs
    exact ⟨url, none, fun answer => Azure.sent_get hu, hl⟩
  | listMachines subscription group =>
    obtain ⟨url, hu, hl⟩ := Azure.machinesUrl_eq h hs
    exact ⟨url, none, fun answer => Azure.sent_page hu, hl⟩
  | launch | listOracleInstances | getOracleInstance | terminate | listAttachments | listShapes
  | getVnic => exact Oracle.sends h hs _ _ _

end ClientCall

/-! Where the requests are routed. -/

def Google.zoneTemplate : List TemplateSegment :=
  [.literal "compute", .literal "v1", .literal "projects", .param "project", .literal "zones",
    .param "zone"]

def Azure.groupTemplate : List TemplateSegment :=
  [.literal "subscriptions", .param "subscriptionId", .literal "resourceGroups",
    .param "resourceGroupName", .literal "providers", .literal "Microsoft.Compute",
    .literal "virtualMachines"]

theorem Google.routes_eq : routes =
    [⟨"POST", ⟨zoneTemplate ++ [.literal "instances"]⟩, "instances", .create⟩,
      ⟨"GET", ⟨zoneTemplate ++ [.literal "instances"]⟩, "instances", .list⟩,
      ⟨"GET", ⟨zoneTemplate ++ [.literal "instances", .param "instance"]⟩, "instances", .get⟩,
      ⟨"GET", ⟨zoneTemplate ++ [.literal "machineTypes"]⟩, "machineTypes", .list⟩,
      ⟨"GET", ⟨zoneTemplate ++ [.literal "machineTypes", .param "machineType"]⟩, "machineTypes",
        .get⟩] := by
  decide +kernel

theorem Azure.routes_eq : routes =
    [⟨"PUT", ⟨groupTemplate ++ [.param "vmName"]⟩, "virtualMachines", .create⟩,
      ⟨"GET", ⟨groupTemplate ++ [.param "vmName"]⟩, "virtualMachines", .get⟩,
      ⟨"GET", ⟨groupTemplate⟩, "virtualMachines", .list⟩] := by
  decide +kernel

theorem Oracle.routes_eq : routes =
    [⟨"POST", ⟨[.literal apiVersion, .literal "instances"]⟩, "instances", .create⟩,
      ⟨"GET", ⟨[.literal apiVersion, .literal "instances"]⟩, "instances", .list⟩,
      ⟨"GET", ⟨[.literal apiVersion, .literal "instances", .param "instanceId"]⟩, "instances",
        .get⟩,
      ⟨"GET", ⟨[.literal apiVersion, .literal "vnicAttachments"]⟩, "vnicAttachments", .list⟩,
      ⟨"GET", ⟨[.literal apiVersion, .literal "shapes"]⟩, "shapes", .list⟩,
      ⟨"GET", ⟨[.literal apiVersion, .literal "vnics", .param "vnicId"]⟩, "vnics", .get⟩] := by
  decide +kernel

section

variable {ts : List TemplateSegment} {ps : Params}

theorem Google.filled {project zone : String} (hp : Argument project) (hz : Argument zone)
    (h : PathTemplate.Filled ts ps segments) :
    PathTemplate.Filled (zoneTemplate ++ ts) (("project", project) :: ("zone", zone) :: ps)
      (zoneSegments project zone ++ segments) :=
  .literal (.literal (.literal (.param hp (.literal (.param hz h)))))

theorem Azure.filled {subscription group : String} {name : Option String}
    (hs : Argument subscription) (hg : Argument group)
    (h : PathTemplate.Filled ts ps name.toList) :
    PathTemplate.Filled (groupTemplate ++ ts)
      (("subscriptionId", subscription) :: ("resourceGroupName", group) :: ps)
      (machineSegments subscription group name) :=
  .literal (.param hs (.literal (.param hg (.literal (.literal (.literal h))))))

end

namespace ClientCall

/-- The route whose path a call takes. -/
def route : ClientCall → Route
  | listGoogleInstances .. =>
    ⟨"GET", ⟨Google.zoneTemplate ++ [.literal "instances"]⟩, "instances", .list⟩
  | insertGoogleInstance .. =>
    ⟨"POST", ⟨Google.zoneTemplate ++ [.literal "instances"]⟩, "instances", .create⟩
  | getGoogleInstance .. | deleteGoogleInstance .. =>
    ⟨"GET", ⟨Google.zoneTemplate ++ [.literal "instances", .param "instance"]⟩, "instances", .get⟩
  | listMachineTypes .. =>
    ⟨"GET", ⟨Google.zoneTemplate ++ [.literal "machineTypes"]⟩, "machineTypes", .list⟩
  | getMachineType .. =>
    ⟨"GET", ⟨Google.zoneTemplate ++ [.literal "machineTypes", .param "machineType"]⟩,
      "machineTypes", .get⟩
  | beginCreate .. =>
    ⟨"PUT", ⟨Azure.groupTemplate ++ [.param "vmName"]⟩, "virtualMachines", .create⟩
  | getMachine .. => ⟨"GET", ⟨Azure.groupTemplate ++ [.param "vmName"]⟩, "virtualMachines", .get⟩
  | listMachines .. => ⟨"GET", ⟨Azure.groupTemplate ++ []⟩, "virtualMachines", .list⟩
  | launch _ =>
    ⟨"POST", ⟨[.literal Oracle.apiVersion, .literal "instances"]⟩, "instances", .create⟩
  | listOracleInstances .. =>
    ⟨"GET", ⟨[.literal Oracle.apiVersion, .literal "instances"]⟩, "instances", .list⟩
  | getOracleInstance _ | terminate _ =>
    ⟨"GET", ⟨[.literal Oracle.apiVersion, .literal "instances", .param "instanceId"]⟩,
      "instances", .get⟩
  | listAttachments .. =>
    ⟨"GET", ⟨[.literal Oracle.apiVersion, .literal "vnicAttachments"]⟩, "vnicAttachments", .list⟩
  | listShapes _ =>
    ⟨"GET", ⟨[.literal Oracle.apiVersion, .literal "shapes"]⟩, "shapes", .list⟩
  | getVnic _ =>
    ⟨"GET", ⟨[.literal Oracle.apiVersion, .literal "vnics", .param "vnicId"]⟩, "vnics", .get⟩

variable {r : Http.Request} {verb : Verb} {resource : String}

theorem route_mem (call : ClientCall) : call.route ∈ call.provider.routes := by
  cases call <;>
    simp [route, provider, Provider.routes, Google.routes_eq, Azure.routes_eq, Oracle.routes_eq]

theorem route_filled (call : ClientCall) (h : ∀ p ∈ call.params, Argument p.2) :
    PathTemplate.Filled call.route.template.segments call.params call.segments := by
  cases call with
  | listGoogleInstances | insertGoogleInstance | listMachineTypes =>
    simp only [params, List.forall_mem_cons] at h
    exact Google.filled h.1 h.2.1 (.literal .nil)
  | getGoogleInstance | deleteGoogleInstance | getMachineType =>
    simp only [params, List.forall_mem_cons] at h
    exact Google.filled h.1 h.2.1 (.literal (.param h.2.2.1 .nil))
  | beginCreate | getMachine =>
    simp only [params, List.forall_mem_cons] at h
    exact Azure.filled h.1 h.2.1 (.param h.2.2.1 .nil)
  | listMachines =>
    simp only [params, List.forall_mem_cons] at h
    exact Azure.filled h.1 h.2.1 .nil
  | launch | listOracleInstances | listAttachments | listShapes => exact .literal (.literal .nil)
  | getOracleInstance | terminate | getVnic =>
    simp only [params, List.forall_mem_cons] at h
    exact .literal (.literal (.param h.1 .nil))

/-- A call for what some handler does uses the method of its route. -/
theorem target?_some {call : ClientCall} (h : call.target? = some (verb, resource)) :
    call.route.method = call.method ∧ call.route.verb = verb ∧ call.route.resource = resource := by
  cases call <;> cases h <;> exact ⟨rfl, rfl, rfl⟩

/-- A request that leads where a call leads is routed to what the call is for. -/
theorem routed {call : ClientCall} {url : Url} {query : Url.Pairs}
    (ht : call.target? = some (verb, resource)) (h : ∀ p ∈ call.params, Argument p.2)
    (hl : Leads url call.segments query) (body : Option Json) :
    call.provider.Routed ⟨call.method, url, [], body⟩ verb resource call.params := by
  obtain ⟨special, hpath⟩ := hl.path
  obtain ⟨hm, hverb, hresource⟩ := target?_some ht
  have hr := Emulator.route?_of_filled call.route_mem call.provider.routes_apart
    (call.route_filled h) (hpath ▸ PathTemplate.forall₂_stands call.segments)
  rw [hm] at hr
  exact ⟨call.route, hr, hverb, hresource⟩

theorem methods_ne_delete (p : Provider) : ∀ route ∈ p.routes, route.method ≠ "DELETE" := by
  cases p <;> decide +kernel

theorem target?_none {call : ClientCall} (h : call.target? = none) :
    ∀ route ∈ call.provider.routes, route.method ≠ call.method := by
  cases call <;> cases h <;> exact methods_ne_delete _

end ClientCall

def Provider.defaultEndpoint : Provider → String
  | .google => Google.defaultEndpoint
  | .azure => Azure.defaultEndpoint
  | .oracle => Oracle.endpointOf Oracle.defaultRegion

/-- The root of a host. -/
def rootUrl (host : String) : Url :=
  ⟨"https", some ⟨"", "", host, none⟩, .segments [""], none, none⟩

theorem bareEndpoint_of_parse {host : String} (h : Url.parse endpoint = .ok (rootUrl host)) :
    BareEndpoint endpoint :=
  ⟨rootUrl host, h, ⟨[""], rfl, fun _ hn => List.mem_singleton.mp hn⟩, .inl rfl, by
    show Url.kindOf "https" ≠ .file
    decide⟩

theorem Provider.bare_defaultEndpoint (p : Provider) : BareEndpoint p.defaultEndpoint := by
  cases p with
  | google =>
    have h : Url.parse Google.defaultEndpoint = .ok (rootUrl "compute.googleapis.com") := by
      with_unfolding_all rfl
    exact bareEndpoint_of_parse h
  | azure =>
    have h : Url.parse Azure.defaultEndpoint = .ok (rootUrl "management.azure.com") := by
      with_unfolding_all rfl
    exact bareEndpoint_of_parse h
  | oracle =>
    have h : Url.parse (Oracle.endpointOf Oracle.defaultRegion) =
        .ok (rootUrl "iaas.us-ashburn-1.oraclecloud.com") := by
      with_unfolding_all rfl
    exact bareEndpoint_of_parse h

/-- A call sends one request. It comes to the handler that the call is for, with the arguments as
they were given, or to none if no handler does what the call asks for. -/
theorem calls_reach_handlers :
    (∀ p : Provider, BareEndpoint p.defaultEndpoint) ∧
    ∀ (endpoint : String) (call : ClientCall), BareEndpoint endpoint →
      (∀ p ∈ call.params, Argument p.2) →
      ∃ r : Http.Request, (∀ answer, call.requests answer endpoint = [r]) ∧
        r.url.queryPairs = call.query ∧
        match call.target? with
        | some (verb, resource) =>
          call.provider.Routed r verb resource call.params ∧
          ∀ (config : Configuration) (now : Timestamp),
            (call.provider.emulator config).handle now r =
              (call.provider.emulator config).handler verb resource
                ⟨r.url, call.params, call.query, r.body, now⟩
        | none =>
          call.provider.route? r = none ∧
          ∀ (config : Configuration) (now : Timestamp),
            (call.provider.emulator config).handle now r =
              throw ((call.provider.emulator config).unrouted r) := by
  refine ⟨Provider.bare_defaultEndpoint, fun endpoint call he hargs => ?_⟩
  have hf := call.route_filled hargs
  obtain ⟨url, body, hsent, ⟨special, hpath⟩, hquery⟩ := call.sends he hf.argument
  refine ⟨_, hsent, hquery, ?_⟩
  cases ht : call.target? with
  | none =>
    have hr := Emulator.route?_of_method (ClientCall.target?_none ht) url.pathText
    exact ⟨hr, fun config now => Provider.handle_of_unrouted hr⟩
  | some target =>
    obtain ⟨verb, resource⟩ := target
    obtain ⟨hm, hverb, hresource⟩ := ClientCall.target?_some ht
    have hr := Emulator.route?_of_filled call.route_mem call.provider.routes_apart hf
      (hpath ▸ PathTemplate.forall₂_stands call.segments)
    rw [hm] at hr
    have hrouted : call.provider.Routed ⟨call.method, url, [], body⟩ verb resource call.params :=
      ⟨call.route, hr, hverb, hresource⟩
    refine ⟨hrouted, fun config now => ?_⟩
    rw [hrouted.handle config now, Http.Request.call, hquery]

/-- Reserved characters and characters beyond ASCII come to the handler as they were given. -/
theorem reserved_characters_arrive :
    let call := ClientCall.getGoogleInstance "a/b" "50%2F ü" "x?y#z+\\" [("filter", "a&b=%é")]
    ∃ r : Http.Request, (∀ answer, call.requests answer Google.defaultEndpoint = [r]) ∧
      r.url.queryPairs = [("filter", "a&b=%é")] ∧
      Provider.google.Routed r .get "instances"
        [("project", "a/b"), ("zone", "50%2F ü"), ("instance", "x?y#z+\\")] := by
  intro call
  have hargs : ∀ p ∈ call.params, Argument p.2 := by
    refine List.forall_mem_cons.mpr ⟨?_, List.forall_mem_cons.mpr ⟨?_, List.forall_mem_cons.mpr
      ⟨?_, fun _ hp => nomatch hp⟩⟩⟩
    all_goals decide
  obtain ⟨hbare, hcalls⟩ := calls_reach_handlers
  obtain ⟨r, hsent, hquery, hrouted, -⟩ :=
    hcalls Google.defaultEndpoint call (hbare .google) hargs
  exact ⟨r, hsent, hquery, hrouted⟩

end CloudEmulation
