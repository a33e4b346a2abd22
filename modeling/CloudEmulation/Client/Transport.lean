import CloudEmulation.Client.Error
/-!
Transports bring a request to whatever answers it. Clients send through one and do not see which.
-/

namespace CloudEmulation

/-- Answers requests, with effects in `m`. -/
abbrev Transport (m : Type → Type) := Http.Request → m (Except ClientError Http.Response)

/-- A computation of a client. -/
abbrev Calling (m : Type → Type) := ExceptT ClientError m

namespace Calling

variable {m : Type → Type} [Monad m] {α : Type}

def ofUrl (r : Except UrlError α) : Calling m α :=
  match r with
  | .ok a => pure a
  | .error e => throw (.url e)

def ofDecoding (r : Decoding α) : Calling m α :=
  match r with
  | .ok a => pure a
  | .error e => throw (.decode e)

def send (t : Transport m) (r : Http.Request) : Calling m Http.Response := ExceptT.mk (t r)

end Calling

end CloudEmulation
