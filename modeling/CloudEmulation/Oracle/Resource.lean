import CloudEmulation.Json.Decode
import CloudEmulation.Time.Reading
/-!
Resources of the Oracle Core Services API. Further members of launch details, instances and shapes
are kept as they are.
-/

namespace CloudEmulation

/-- Timestamps are read in RFC 3339. -/
def Json.asTimestamp : Json → Decoding Timestamp
  | .string s =>
    match Timestamp.parse s with
    | .ok t => .ok t
    | .error e => .error (.unreadable e.message)
  | j => mismatch "an RFC 3339 formatted date and time string" j

def Json.ofTimestamp (t : Timestamp) : Json := .string t.text

namespace Oracle

def apiVersion : String := "20160918"

/-- A request for a new instance. -/
structure LaunchDetails where
  compartmentId : String
  availabilityDomain : Option String
  displayName : Option String
  shape : Option String
  freeformTags : Dictionary String
  extra : Json.Members
  deriving Repr

namespace LaunchDetails

def fields : List String :=
  ["compartmentId", "availabilityDomain", "displayName", "shape", "freeformTags"]

def decode : Json → Decoding LaunchDetails :=
  Record.decodeOpen "LaunchInstanceDetails" fields fun r =>
    LaunchDetails.mk <$> r.text "compartmentId" <*> r.text? "availabilityDomain" <*>
      r.text? "displayName" <*> r.text? "shape" <*>
      r.default "freeformTags" Json.asStringMap [] <*> .ok r.extra

def encode (assemble : Json.Assembly) (d : LaunchDetails) : Json :=
  .record assemble [.text "compartmentId" d.compartmentId,
    .text? "availabilityDomain" d.availabilityDomain, .text? "displayName" d.displayName,
    .text? "shape" d.shape, .map? "freeformTags" d.freeformTags] d.extra

def new (compartment : String) : LaunchDetails := ⟨compartment, none, none, none, [], []⟩

def withName (d : LaunchDetails) (name : String) : LaunchDetails :=
  { d with displayName := some name }

def withDomain (d : LaunchDetails) (domain : String) : LaunchDetails :=
  { d with availabilityDomain := some domain }

def withShape (d : LaunchDetails) (shape : String) : LaunchDetails :=
  { d with shape := some shape }

def withTag (d : LaunchDetails) (key value : String) : LaunchDetails :=
  { d with freeformTags := Dictionary.insert d.freeformTags key value }

end LaunchDetails

/-- An instance as the service shows it. -/
structure ComputeInstance where
  id : String
  compartmentId : String
  availabilityDomain : String
  displayName : String
  shape : Option String
  region : String
  freeformTags : Dictionary String
  lifecycleState : String
  timeCreated : Timestamp
  extra : Json.Members
  deriving Repr

namespace ComputeInstance

/-- The members that the service assigns. -/
def fields : List String :=
  ["id", "compartmentId", "availabilityDomain", "displayName", "shape", "region", "freeformTags",
    "lifecycleState", "timeCreated"]

def decode : Json → Decoding ComputeInstance :=
  Record.decodeOpen "Instance" fields fun r =>
    ComputeInstance.mk <$> r.text "id" <*> r.text "compartmentId" <*>
      r.textOr "availabilityDomain" "" <*> r.textOr "displayName" "" <*> r.text? "shape" <*>
      r.textOr "region" "" <*> r.default "freeformTags" Json.asStringMap [] <*>
      r.text "lifecycleState" <*> r.required "timeCreated" Json.asTimestamp <*> .ok r.extra

def encode (assemble : Json.Assembly) (i : ComputeInstance) : Json :=
  .record assemble [.text "id" i.id, .text "compartmentId" i.compartmentId,
    .text "availabilityDomain" i.availabilityDomain, .text "displayName" i.displayName,
    .text? "shape" i.shape, .text "region" i.region, .map "freeformTags" i.freeformTags,
    .text "lifecycleState" i.lifecycleState,
    .of "timeCreated" (Json.ofTimestamp i.timeCreated)] i.extra

end ComputeInstance

/-- What joins a network interface to an instance. -/
structure VnicAttachment where
  id : String
  instanceId : String
  vnicId : String
  compartmentId : String
  availabilityDomain : String
  lifecycleState : String
  timeCreated : Timestamp
  deriving DecidableEq, Repr

namespace VnicAttachment

def fields : List String :=
  ["id", "instanceId", "vnicId", "compartmentId", "availabilityDomain", "lifecycleState",
    "timeCreated"]

def decode : Json → Decoding VnicAttachment :=
  Record.decode "VnicAttachment" fields fun r =>
    VnicAttachment.mk <$> r.text "id" <*> r.text "instanceId" <*> r.text "vnicId" <*>
      r.text "compartmentId" <*> r.textOr "availabilityDomain" "" <*> r.text "lifecycleState" <*>
      r.required "timeCreated" Json.asTimestamp

def encode (assemble : Json.Assembly) (a : VnicAttachment) : Json :=
  .record assemble [.text "id" a.id, .text "instanceId" a.instanceId, .text "vnicId" a.vnicId,
    .text "compartmentId" a.compartmentId, .text "availabilityDomain" a.availabilityDomain,
    .text "lifecycleState" a.lifecycleState,
    .of "timeCreated" (Json.ofTimestamp a.timeCreated)] []

end VnicAttachment

/-- A virtual network interface. -/
structure Vnic where
  id : String
  compartmentId : String
  availabilityDomain : String
  displayName : String
  privateIp : String
  isPrimary : Bool
  lifecycleState : String
  timeCreated : Timestamp
  deriving DecidableEq, Repr

namespace Vnic

def fields : List String :=
  ["id", "compartmentId", "availabilityDomain", "displayName", "privateIp", "isPrimary",
    "lifecycleState", "timeCreated"]

def decode : Json → Decoding Vnic :=
  Record.decode "Vnic" fields fun r =>
    Vnic.mk <$> r.text "id" <*> r.text "compartmentId" <*> r.textOr "availabilityDomain" "" <*>
      r.textOr "displayName" "" <*> r.text "privateIp" <*>
      r.default "isPrimary" Json.asBool false <*> r.text "lifecycleState" <*>
      r.required "timeCreated" Json.asTimestamp

def encode (assemble : Json.Assembly) (v : Vnic) : Json :=
  .record assemble [.text "id" v.id, .text "compartmentId" v.compartmentId,
    .text "availabilityDomain" v.availabilityDomain, .text "displayName" v.displayName,
    .text "privateIp" v.privateIp, .of "isPrimary" (.bool v.isPrimary),
    .text "lifecycleState" v.lifecycleState,
    .of "timeCreated" (Json.ofTimestamp v.timeCreated)] []

end Vnic

/-- What machines of a kind consist of. -/
structure Shape where
  shape : String
  ocpus : Option Double
  memoryInGBs : Option Double
  gpus : Option Nat
  processorDescription : Option String
  extra : Json.Members
  deriving Repr

namespace Shape

def fields : List String := ["shape", "ocpus", "memoryInGBs", "gpus", "processorDescription"]

def decode : Json → Decoding Shape :=
  Record.decodeOpen "Shape" fields fun r =>
    Shape.mk <$> r.text "shape" <*> r.optional "ocpus" Json.asDouble <*>
      r.optional "memoryInGBs" Json.asDouble <*> r.optional "gpus" Json.asWord32 <*>
      r.text? "processorDescription" <*> .ok r.extra

def ofDouble (d : Double) : Json := .number (.double d)

/-- A value that is not known is null. -/
def encode (assemble : Json.Assembly) (s : Shape) : Json :=
  .record assemble [.text "shape" s.shape, .of "ocpus" (.ofOption ofDouble s.ocpus),
    .of "memoryInGBs" (.ofOption ofDouble s.memoryInGBs), .of "gpus" (.ofOption .ofNat s.gpus),
    .of "processorDescription" (.ofOption .string s.processorDescription)] s.extra

end Shape

/-- The body of a refusal. -/
structure ErrorBody where
  code : String
  message : String
  deriving DecidableEq, Repr

namespace ErrorBody

def decode : Json → Decoding ErrorBody :=
  Record.decode "ErrorBody" ["code", "message"] fun r =>
    ErrorBody.mk <$> r.text "code" <*> r.text "message"

def encode (assemble : Json.Assembly) (e : ErrorBody) : Json :=
  .record assemble [.text "code" e.code, .text "message" e.message] []

end ErrorBody

end Oracle

end CloudEmulation
