import CloudEmulation.Emulation.Template
import CloudEmulation.Fault
import CloudEmulation.Time.Timestamp
import CloudEmulation.Url.Query
/-!
Calls: what a handler is given of a request.
-/

namespace CloudEmulation

structure Call where
  url : Url
  params : Params
  query : Url.Pairs
  body : Option Json
  now : Timestamp
  deriving Repr

namespace Call

def refusal (r : Reason) : Except Fault α := .error (.invalidArgument r)

/-- A parameter of the path. -/
def param (c : Call) (name : String) : Except Fault String :=
  match c.params.get? name with
  | some v => .ok v
  | none => refusal (.missingPathParameter name)

/-- The first value of a query parameter. -/
def query? (c : Call) (name : String) : Option String :=
  (c.query.find? (·.1 = name)).map (·.2)

def requireQuery (c : Call) (name : String) : Except Fault String :=
  match c.query? name with
  | some v => if v = "" then refusal (.missingParameter name) else .ok v
  | none => refusal (.missingParameter name)

/-- A query parameter that counts something. -/
def queryCount (c : Call) (name : String) : Except Fault (Option Nat) :=
  match c.query? name with
  | none => .ok none
  | some raw =>
    match (Numeral.word64? raw).filter (0 < ·) with
    | some n => .ok (some n)
    | none => refusal (.notPositive name raw)

def bodyObject (c : Call) : Except Fault Json.Members :=
  match c.body with
  | some (.object m) => .ok m
  | _ => refusal .bodyNotObject

end Call

end CloudEmulation
