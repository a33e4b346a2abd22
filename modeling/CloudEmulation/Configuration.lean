import CloudEmulation.Network.Pool
/-!
The configuration of an emulated cloud: how identifiers are seeded, which network addresses come
from, and which instances exist from the start.
-/

namespace CloudEmulation

/-- An instance to create when a cloud is built. -/
inductive SeedInstance where
  | google (project zone : String) (body : Json)
  | azure (subscription group name : String) (body : Json)
  | oracle (body : Json)
  deriving Repr

structure Configuration where
  idSeed : Option Nat
  networkCidr : String
  startInstances : Bool
  azurePageSize : Nat
  oracleRegion : String
  seed : List SeedInstance
  deriving Repr

namespace Configuration

def standard : Configuration := ⟨none, "10.0.0.0/24", true, 50, "", []⟩

def withSeed (c : Configuration) (seed : Nat) : Configuration := { c with idSeed := some seed }

inductive Invalid where
  | pageSize
  | network (f : Fault)
  deriving Repr

def Invalid.message : Invalid → String
  | .pageSize => "azure_page_size must be at least 1"
  | .network f => f.message

/-- A page holds at least one machine and the network is one that addresses can come from. -/
def validate (c : Configuration) : Except Invalid Unit :=
  if c.azurePageSize = 0 then .error .pageSize
  else match AddressPool.parse c.networkCidr with
    | .error f => .error (.network f)
    | .ok _ => .ok ()

end Configuration

namespace SeedInstance

def variants : List String := ["google", "azure", "oracle"]

def googleFields : List String := ["project", "zone", "body"]

def azureFields : List String := ["subscription", "resource_group", "name", "body"]

def oracleFields : List String := ["body"]

def fieldsOf (variant : String) : List String :=
  match variant with
  | "google" => googleFields
  | "azure" => azureFields
  | _ => oracleFields

def ofGoogle (r : Record) : Ranked SeedInstance :=
  .google <$> r.text "project" <*> r.text "zone" <*> r.required "body" Json.asAny

def ofAzure (r : Record) : Ranked SeedInstance :=
  .azure <$> r.text "subscription" <*> r.text "resource_group" <*> r.text "name" <*>
    r.required "body" Json.asAny

def ofOracle (r : Record) : Ranked SeedInstance := .oracle <$> r.required "body" Json.asAny

def asVariant : Json → Decoding String
  | .string s =>
    if s ∈ variants then .ok s else .error (.unknownVariant s variants)
  | j => Json.mismatch "variant identifier" j

def ofSource (variant : String) (source : RecordSource) : Decoding SeedInstance :=
  match variant with
  | "google" => (ofGoogle ⟨"variant SeedInstance::Google", googleFields, source⟩).result
  | "azure" => (ofAzure ⟨"variant SeedInstance::Azure", azureFields, source⟩).result
  | _ => (ofOracle ⟨"variant SeedInstance::Oracle", oracleFields, source⟩).result

def elements (n : Nat) : String :=
  toString n ++ (if n = 1 then " element" else " elements") ++ " in sequence"

/-- The first item says which items follow. -/
def ofItems (variant : String) (items : List Json) : Decoding SeedInstance := do
  let s ← ofSource variant (.items items)
  let n := (fieldsOf variant).length
  if n < items.length then .error (.invalidLength items.length (elements n)) else return s

/-- The member `provider` says which other members are read. -/
def decode : Json → Decoding SeedInstance
  | .object m =>
    match Dictionary.get? m "provider" with
    | none => .error (.missingField "provider")
    | some v => do ofSource (← asVariant v) (.members (Dictionary.erase m "provider"))
  | .array [] => .error (.missingField "provider")
  | .array (v :: items) => do ofItems (← asVariant v) items
  | j => Json.mismatch "internally tagged enum SeedInstance" j

def encode : SeedInstance → Json
  | .google p z body =>
    .ofFields [("provider", .string "google"), ("project", .string p), ("zone", .string z),
      ("body", body)]
  | .azure s g n body =>
    .ofFields [("provider", .string "azure"), ("subscription", .string s),
      ("resource_group", .string g), ("name", .string n), ("body", body)]
  | .oracle body => .ofFields [("provider", .string "oracle"), ("body", body)]

end SeedInstance

namespace Configuration

/-- The names that the fields of a configuration are read by. -/
def fields : List String :=
  ["id_seed", "network_cidr", "start_instances", "azure_page_size", "oracle_region", "seed"]

def ofRecord (r : Record) : Ranked Configuration :=
  Configuration.mk <$> r.default "id_seed" (Json.asOption Json.asWord64) standard.idSeed <*>
    r.default "network_cidr" Json.asString standard.networkCidr <*>
    r.default "start_instances" Json.asBool standard.startInstances <*>
    r.default "azure_page_size" Json.asSize standard.azurePageSize <*>
    r.default "oracle_region" Json.asString standard.oracleRegion <*>
    r.default "seed" (Json.asList SeedInstance.decode) standard.seed

/-- A configuration from JSON; what is absent keeps its standard value. -/
def decode : Json → Decoding Configuration := Record.decode "EmulatorConfig" fields ofRecord

def encode (c : Configuration) : Json :=
  .ofFields [("id_seed", Json.ofOption Json.ofNat c.idSeed),
    ("network_cidr", .string c.networkCidr), ("start_instances", .bool c.startInstances),
    ("azure_page_size", Json.ofNat c.azurePageSize), ("oracle_region", .string c.oracleRegion),
    ("seed", .array (c.seed.map SeedInstance.encode))]

end Configuration

end CloudEmulation
