import CloudEmulation.Scope
import CloudEmulation.Filter.Expression
import CloudEmulation.Network.Address
import CloudEmulation.Json.Decode
/-!
Faults: why an emulated cloud refuses a call.
-/

namespace CloudEmulation

/-- What is wrong with an argument. -/
inductive Reason where
  | network (cidr : String)
  | notAssignable (address : Address) (cidr : String)
  | inUse (address : Address)
  | missingPathParameter (name : String)
  | missingParameter (name : String)
  | notPositive (name raw : String)
  | bodyNotObject
  | pageToken (raw : String)
  | undecodable (what : String) (e : DecodeError)
  | required (what : String)
  | noLaunchDetails
  | emptyName
  | privateAddress (raw : String)
  | filter (raw : String) (e : Filter.ReadError)
  | order (name raw : String)
  | other (text : String)
  deriving DecidableEq, Repr

def Reason.message : Reason → String
  | .network cidr => "invalid network CIDR '" ++ cidr ++ "'"
  | .notAssignable a cidr => "address " ++ a.text ++ " is not an assignable host of " ++ cidr
  | .inUse a => "address " ++ a.text ++ " is already in use"
  | .missingPathParameter name => "missing path parameter '" ++ name ++ "'"
  | .missingParameter name => "missing required parameter '" ++ name ++ "'"
  | .notPositive name raw =>
    "parameter '" ++ name ++ "' must be a positive integer, got '" ++ raw ++ "'"
  | .bodyNotObject => "request body must be a JSON object"
  | .pageToken raw => "invalid page token '" ++ raw ++ "'"
  | .undecodable what e => "invalid " ++ what ++ ": " ++ e.message
  | .required what => what ++ " is required"
  | .noLaunchDetails => "launch details are required"
  | .emptyName => "instance name must not be empty"
  | .privateAddress raw => "invalid networkIP " ++ Text.quoted raw
  | .filter raw e => "invalid filter '" ++ raw ++ "': " ++ e.message
  | .order name raw => "invalid " ++ name ++ " '" ++ raw ++ "'"
  | .other text => text

inductive Fault where
  | duplicateIdentity (identity : String) (scope : Scope)
  | notFound (identity : String) (scope : Scope)
  | unsupported (operation : String)
  | alreadyActive (provider : Provider)
  | invalidArgument (reason : Reason)
  | internal (text : String)
  deriving DecidableEq, Repr

namespace Fault

def message : Fault → String
  | .duplicateIdentity identity scope =>
    "resource '" ++ identity ++ "' already exists in " ++ scope.text
  | .notFound identity scope => "resource '" ++ identity ++ "' was not found in " ++ scope.text
  | .unsupported operation => "unsupported operation: " ++ operation
  | .alreadyActive provider => provider.name ++ " interception is already active"
  | .invalidArgument reason => "invalid argument: " ++ reason.message
  | .internal text => "internal emulator error: " ++ text

/-- The HTTP status that reports a fault. -/
def status : Fault → Nat
  | .duplicateIdentity .. => 409
  | .notFound .. => 404
  | .unsupported _ => 501
  | .invalidArgument _ => 400
  | .alreadyActive _ => 500
  | .internal _ => 500

def exhausted (cidr : String) : Fault := .internal ("address pool " ++ cidr ++ " exhausted")

def unreadableRecord (e : DecodeError) : Fault :=
  .internal ("serialization failed: " ++ e.message)

theorem status_ne_success (f : Fault) : ¬ (200 ≤ f.status ∧ f.status < 300) := by
  cases f <;> simp [status]

end Fault

end CloudEmulation
