import CloudEmulation.Json.Decode
/-!
Resources of the Google Compute API. Only what the service assigns is typed; further members of a
resource are kept as they are.
-/

namespace CloudEmulation.Google

/-- Where links to resources begin. -/
def linkBase : String := "https://www.googleapis.com/compute/v1"

def zoneLink (project zone : String) : String :=
  linkBase ++ "/projects/" ++ project ++ "/zones/" ++ zone

/-- A request for a new instance. -/
structure InsertRequest where
  name : String
  extra : Json.Members
  deriving Repr

def InsertRequest.decode : Json → Decoding InsertRequest :=
  Record.decodeOpen "InsertInstance" ["name"] fun r =>
    InsertRequest.mk <$> r.text "name" <*> .ok r.extra

structure Scheduling where
  onHostMaintenance : String
  automaticRestart : Bool
  preemptible : Bool
  nodeAffinities : List Json
  deriving Repr

namespace Scheduling

def standard : Scheduling := ⟨"MIGRATE", true, false, []⟩

def fields : List String :=
  ["onHostMaintenance", "automaticRestart", "preemptible", "nodeAffinities"]

def decode : Json → Decoding Scheduling :=
  Record.decode "Scheduling" fields fun r =>
    Scheduling.mk <$> r.text "onHostMaintenance" <*> r.required "automaticRestart" Json.asBool <*>
      r.required "preemptible" Json.asBool <*>
      r.required "nodeAffinities" (Json.asList Json.asAny)

def encode (assemble : Json.Assembly) (s : Scheduling) : Json :=
  .record assemble [.text "onHostMaintenance" s.onHostMaintenance,
    .of "automaticRestart" (.bool s.automaticRestart),
    .of "preemptible" (.bool s.preemptible),
    .of "nodeAffinities" (.array s.nodeAffinities)] []

end Scheduling

structure NetworkInterface where
  name : String
  networkIP : String
  extra : Json.Members
  deriving Repr

namespace NetworkInterface

/-- The members that the service assigns. -/
def fields : List String := ["name", "networkIP"]

def decode : Json → Decoding NetworkInterface :=
  Record.decodeOpen "NetworkInterface" fields fun r =>
    NetworkInterface.mk <$> r.text "name" <*> r.text "networkIP" <*> .ok r.extra

def encode (assemble : Json.Assembly) (n : NetworkInterface) : Json :=
  .record assemble [.text "name" n.name, .text "networkIP" n.networkIP] n.extra

end NetworkInterface

/-- An instance as the service shows it. -/
structure ComputeInstance where
  kind : String
  id : String
  name : String
  zone : String
  status : String
  tags : Json
  scheduling : Json
  networkInterfaces : List NetworkInterface
  creationTimestamp : String
  selfLink : String
  extra : Json.Members
  deriving Repr

namespace ComputeInstance

/-- The members that the service assigns. -/
def fields : List String :=
  ["kind", "id", "name", "zone", "status", "tags", "scheduling", "networkInterfaces",
    "creationTimestamp", "selfLink"]

def decode : Json → Decoding ComputeInstance :=
  Record.decodeOpen "Instance" fields fun r =>
    ComputeInstance.mk <$> r.text "kind" <*> r.text "id" <*> r.text "name" <*> r.text "zone" <*>
      r.text "status" <*> r.required "tags" Json.asAny <*> r.required "scheduling" Json.asAny <*>
      r.required "networkInterfaces" (Json.asList NetworkInterface.decode) <*>
      r.text "creationTimestamp" <*> r.text "selfLink" <*> .ok r.extra

def encode (assemble : Json.Assembly) (i : ComputeInstance) : Json :=
  .record assemble [.text "kind" i.kind, .text "id" i.id, .text "name" i.name,
    .text "zone" i.zone, .text "status" i.status, .of "tags" i.tags,
    .of "scheduling" i.scheduling,
    .list "networkInterfaces" (NetworkInterface.encode assemble) i.networkInterfaces,
    .text "creationTimestamp" i.creationTimestamp,
    .text "selfLink" i.selfLink] i.extra

end ComputeInstance

/-- A long-running operation. -/
structure Operation where
  kind : String
  id : String
  name : String
  zone : String
  operationType : String
  targetLink : String
  targetId : String
  status : String
  progress : Nat
  insertTime : String
  startTime : String
  endTime : String
  selfLink : String
  deriving DecidableEq, Repr

namespace Operation

def fields : List String :=
  ["kind", "id", "name", "zone", "operationType", "targetLink", "targetId", "status", "progress",
    "insertTime", "startTime", "endTime", "selfLink"]

def decode : Json → Decoding Operation :=
  Record.decode "Operation" fields fun r =>
    Operation.mk <$> r.text "kind" <*> r.text "id" <*> r.text "name" <*> r.text "zone" <*>
      r.text "operationType" <*> r.text "targetLink" <*> r.text "targetId" <*> r.text "status" <*>
      r.required "progress" Json.asWord32 <*> r.text "insertTime" <*> r.text "startTime" <*>
      r.text "endTime" <*> r.text "selfLink"

def encode (assemble : Json.Assembly) (o : Operation) : Json :=
  .record assemble [.text "kind" o.kind, .text "id" o.id, .text "name" o.name,
    .text "zone" o.zone, .text "operationType" o.operationType,
    .text "targetLink" o.targetLink, .text "targetId" o.targetId,
    .text "status" o.status, .of "progress" (.ofNat o.progress),
    .text "insertTime" o.insertTime, .text "startTime" o.startTime,
    .text "endTime" o.endTime, .text "selfLink" o.selfLink] []

end Operation

/-- A page of a list. -/
structure Listing (α : Type) where
  items : List α
  nextPageToken : Option String
  deriving Repr

namespace Listing

def fields : List String := ["items", "nextPageToken"]

def decode (item : Json → Decoding α) : Json → Decoding (Listing α) :=
  Record.decode "ListResponse" fields fun r =>
    Listing.mk <$> r.default "items" (Json.asList item) [] <*> r.text? "nextPageToken"

/-- A list without items has no member for them. -/
def encode (assemble : Json.Assembly) (item : α → Json) (l : Listing α) : Json :=
  .record assemble [
    ⟨"items", if l.items.isEmpty then none else some (.array (l.items.map item))⟩,
    .text? "nextPageToken" l.nextPageToken] []

end Listing

structure ErrorItem where
  domain : String
  reason : String
  message : String
  deriving DecidableEq, Repr

namespace ErrorItem

def decode : Json → Decoding ErrorItem :=
  Record.decode "ErrorItem" ["domain", "reason", "message"] fun r =>
    ErrorItem.mk <$> r.text "domain" <*> r.text "reason" <*> r.text "message"

def encode (assemble : Json.Assembly) (e : ErrorItem) : Json :=
  .record assemble [.text "domain" e.domain, .text "reason" e.reason,
    .text "message" e.message] []

end ErrorItem

structure ErrorBody where
  code : Nat
  message : String
  errors : List ErrorItem
  deriving DecidableEq, Repr

namespace ErrorBody

def decode : Json → Decoding ErrorBody :=
  Record.decode "ErrorBody" ["code", "message", "errors"] fun r =>
    ErrorBody.mk <$> r.required "code" Json.asWord16 <*> r.text "message" <*>
      r.default "errors" (Json.asList ErrorItem.decode) []

def encode (assemble : Json.Assembly) (e : ErrorBody) : Json :=
  .record assemble [.of "code" (.ofNat e.code), .text "message" e.message,
    .list "errors" (ErrorItem.encode assemble) e.errors] []

end ErrorBody

/-- The body of a refusal. -/
structure ErrorResponse where
  error : ErrorBody
  deriving DecidableEq, Repr

namespace ErrorResponse

def decode : Json → Decoding ErrorResponse :=
  Record.decode "ErrorResponse" ["error"] fun r =>
    ErrorResponse.mk <$> r.required "error" ErrorBody.decode

def encode (assemble : Json.Assembly) (e : ErrorResponse) : Json :=
  .record assemble [.of "error" (e.error.encode assemble)] []

end ErrorResponse

end CloudEmulation.Google
