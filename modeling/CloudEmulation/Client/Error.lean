import CloudEmulation.Fault
import CloudEmulation.Http.Message
import CloudEmulation.Json.Printer
/-!
Errors that callers of a client see.
-/

namespace CloudEmulation

inductive ClientError where
  /-- A response whose status is no success. -/
  | api (provider : Provider) (status : Nat) (code message : String)
  /-- No response at all. -/
  | transport (text : String)
  /-- A response that is not of the expected form. -/
  | decode (e : DecodeError)
  | credential (text : String)
  | url (e : UrlError)
  /-- A refusal by an emulated cloud that is no response. -/
  | emulator (f : Fault)
  deriving DecidableEq, Repr

namespace ClientError

def message : ClientError → String
  | .api p status code text =>
    p.name ++ " API error " ++ toString status ++ " (" ++ code ++ "): " ++ text
  | .transport text => "transport error: " ++ text
  | .decode e => "failed to decode response: " ++ e.message
  | .credential text => "credential error: " ++ text
  | .url e => "invalid request URL: " ++ e.message
  | .emulator f => f.message

def status? : ClientError → Option Nat
  | .api _ status _ _ => some status
  | _ => none

def code? : ClientError → Option String
  | .api _ _ code _ => some code
  | _ => none

def isNotFound (e : ClientError) : Bool := e.status? = some 404

def isConflict (e : ClientError) : Bool := e.status? = some 409

def isUnsupported (e : ClientError) : Bool := e.status? = some 501

/-- What a body says when it has not the form of the provider's refusals. -/
def bodyText : Option Json → String
  | some (.string s) => s
  | some j => j.compact
  | none => ""

/-- A failed response that has not the form of the provider's refusals. -/
def unrecognized (p : Provider) (r : Http.Response) : ClientError :=
  .api p r.status ((Http.reason? r.status).getD "Unknown") (bodyText r.body)

end ClientError

end CloudEmulation
