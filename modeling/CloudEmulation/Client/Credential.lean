import CloudEmulation.Client.Transport
/-!
Credentials: where a client gets the token of a request from.
-/

namespace CloudEmulation

inductive Credential (m : Type → Type) where
  | anonymous
  | bearer (token : String)
  /-- The token is asked for when a request needs it. -/
  | source (fetch : Calling m String)

namespace Credential

variable {m : Type → Type}

def token [Monad m] : Credential m → Calling m (Option String)
  | .anonymous => return none
  | .bearer token => return some token
  | .source fetch => do return some (← fetch)

/-- A description that never shows a token. -/
def text : Credential m → String
  | .anonymous => "Anonymous"
  | .bearer _ => "Bearer([REDACTED])"
  | .source _ => "Source(..)"

end Credential

end CloudEmulation
