import CloudEmulation.Cloud
import CloudEmulation.Emulation.Call
import CloudEmulation.Http.Message
/-!
Emulators: a request is routed to a handler of its provider, and a fault is answered as the
provider would.
-/

namespace CloudEmulation

inductive Verb where
  | create
  | list
  | get
  deriving DecidableEq, Repr

def Verb.name : Verb → String
  | .create => "Create"
  | .list => "List"
  | .get => "Get"

structure Route where
  method : String
  template : PathTemplate
  resource : String
  verb : Verb
  deriving DecidableEq, Repr

def Route.of (method template resource : String) (verb : Verb) : Route :=
  ⟨method, .parse template, resource, verb⟩

/-- A verb that is not modelled for a resource. -/
def Fault.unmodelled (p : Provider) (v : Verb) (resource : String) : Fault :=
  .unsupported (p.name ++ " " ++ v.name ++ " on '" ++ resource ++ "'")

/-- How one provider's requests are routed, handled and refused. -/
structure Emulator where
  provider : Provider
  routes : List Route
  handler : Verb → String → Call → Handler Http.Response
  refusal : Fault → Program CloudState Http.Response

namespace Emulator

/-- The first route for a method and a path, with the parameters of the path. -/
def route? (routes : List Route) (method path : String) : Option (Route × Params) :=
  routes.findSome? fun r =>
    if r.method = method then (r.template.matches? path).map (r, ·) else none

def unrouted (e : Emulator) (r : Http.Request) : Fault :=
  .unsupported (e.provider.name ++ " " ++ r.method ++ " " ++ r.url.pathText)

def handle (e : Emulator) (now : Timestamp) (r : Http.Request) : Handler Http.Response :=
  match route? e.routes r.method r.url.pathText with
  | none => throw (e.unrouted r)
  | some (route, params) =>
    e.handler route.verb route.resource ⟨r.url, params, r.url.queryPairs, r.body, now⟩

/-- Every request has a response: a fault becomes the provider's refusal. -/
def respond (e : Emulator) (now : Timestamp) (r : Http.Request) :
    Program CloudState Http.Response := do
  match ← (e.handle now r).run with
  | .ok response => return response
  | .error f => e.refusal f

end Emulator

end CloudEmulation
