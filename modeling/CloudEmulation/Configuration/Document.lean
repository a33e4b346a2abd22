import CloudEmulation.Configuration
import CloudEmulation.Yaml.Value
/-!
Configurations written in YAML. Fields without a value keep their standard one, a field must not
occur twice, and what is no field is ignored.
-/

namespace CloudEmulation

open Yaml

/-- Whether some names each occur at most once. -/
def atMostOnce (names : List String) (pairs : List (String × α)) : Bool :=
  names.all fun n => (pairs.filter (·.1 = n)).length ≤ 1

namespace SeedInstance

/-- The names of the pairs that a mapping is written with. -/
def writtenNames : Node → List (String × Unit)
  | .mapping _ pairs => pairs.filterMap fun p => p.1.text?.map (·, ())
  | _ => []

def ofNode? (depth : Nat) (n : Node) : Option SeedInstance := do
  let j ← n.value? depth
  let s ← (SeedInstance.decode j).toOption
  let variant := ((j.member? "provider").bind Json.string?).getD ""
  if atMostOnce ("provider" :: fieldsOf variant) (writtenNames n) then return s else none

end SeedInstance

namespace Configuration

def seedOf? (n : Node) : Option (Option Nat) :=
  if n.isNothing then some none else (n.plain?.bind (natural? Numeral.word64Limit)).map some

/-- A field of a mapping, or its standard value. -/
def field (pairs : List (String × Node)) (name : String) (read : Node → Option α) (standard : α) :
    Option α :=
  match pairs.lookup name with
  | some n => read n
  | none => some standard

def ofPairs? (pairs : List (String × Node)) : Option Configuration := do
  if !atMostOnce fields pairs then none
  let s := standard
  return {
    idSeed := ← field pairs "id_seed" seedOf? s.idSeed
    networkCidr := ← field pairs "network_cidr" Node.text? s.networkCidr
    startInstances :=
      ← field pairs "start_instances" (fun n => n.plain?.bind bool?) s.startInstances
    azurePageSize :=
      ← field pairs "azure_page_size" (fun n => n.plain?.bind (natural? Numeral.word64Limit))
        s.azurePageSize
    oracleRegion := ← field pairs "oracle_region" Node.text? s.oracleRegion
    seed := ← field pairs "seed"
      (fun n => do (← n.items?).mapM (SeedInstance.ofNode? (Node.depthLimit - 2))) s.seed }

/-- The configuration that a text holds, unless it is not of the form of one. -/
def ofYaml? (text : String) : Option Configuration := do
  match ← Node.parse text with
  | none => return standard
  | some n => ofPairs? (← n.fields?)

/-- Why a configuration cannot be used. -/
inductive LoadError where
  | file (path reason : String)
  | form
  | invalid (e : Invalid)
  deriving Repr

/-- Stands for what is wrong with the form of a text. -/
def formDetail : String := "not a valid document"

def LoadError.message : LoadError → String
  | .file path reason => "failed to read config file " ++ path ++ ": " ++ reason
  | .form => "failed to parse config: " ++ formDetail
  | .invalid e => "invalid config: " ++ e.message

/-- A configuration that can be used. -/
def ofText (text : String) : Except LoadError Configuration :=
  match ofYaml? text with
  | none => .error .form
  | some c =>
    match c.validate with
    | .ok () => .ok c
    | .error e => .error (.invalid e)

end Configuration

end CloudEmulation
