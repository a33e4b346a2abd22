import CloudEmulation.Proofs.Execution
/-!
Where requests are routed, which no configuration changes, and how emulators refuse.
-/

namespace CloudEmulation

namespace Provider

def routes : Provider → List Route
  | .google => Google.routes
  | .azure => Azure.routes
  | .oracle => Oracle.routes

/-- What instances are called in the routes. -/
def machines : Provider → String
  | .google => "instances"
  | .azure => Azure.resource
  | .oracle => "instances"

def route? (p : Provider) (r : Http.Request) : Option (Route × Params) :=
  Emulator.route? p.routes r.method r.url.pathText

/-- Whether a request is routed to a verb of a resource, with parameters from its path. -/
def Routed (p : Provider) (r : Http.Request) (verb : Verb) (resource : String) (params : Params) :
    Prop :=
  ∃ route, p.route? r = some (route, params) ∧ route.verb = verb ∧ route.resource = resource

end Provider

def Http.Request.call (r : Http.Request) (params : Params) (now : Timestamp) : Call :=
  ⟨r.url, params, r.url.queryPairs, r.body, now⟩

variable {p : Provider} {r : Http.Request} {route : Route} {params : Params} {c : Configuration}
  {now : Timestamp}

theorem Provider.mem_routes (h : p.route? r = some (route, params)) :
    route ∈ p.routes ∧ route.method = r.method := by
  obtain ⟨other, hm, hr⟩ := List.exists_of_findSome?_eq_some h
  split at hr
  · rename_i he
    obtain ⟨ps, -, hp⟩ := Option.map_eq_some_iff.mp hr
    cases hp
    exact ⟨hm, he⟩
  · cases hr

/-- Only creating is no `GET`. -/
theorem Provider.routes_get (p : Provider) :
    ∀ route ∈ p.routes, route.method = "GET" ↔ route.verb ≠ .create := by
  cases p <;> simp [routes, Google.routes, Azure.routes, Oracle.routes, Route.of]

/-- Only instances are created. -/
theorem Provider.routes_create (p : Provider) :
    ∀ route ∈ p.routes, route.verb = .create → route.resource = p.machines := by
  cases p <;> simp [routes, machines, Google.routes, Azure.routes, Oracle.routes, Route.of]

theorem Provider.get_iff (h : p.route? r = some (route, params)) :
    r.method = "GET" ↔ route.verb ≠ .create := by
  obtain ⟨hm, he⟩ := mem_routes h
  rw [← he]
  exact p.routes_get route hm

theorem Provider.handle_of_unrouted (h : p.route? r = none) :
    (p.emulator c).handle now r = throw ((p.emulator c).unrouted r) := by
  have hr : Emulator.route? (p.emulator c).routes r.method r.url.pathText = none := by
    cases p <;> exact h
  rw [Emulator.handle, hr]

theorem Provider.handle_of_routed (h : p.route? r = some (route, params)) :
    (p.emulator c).handle now r =
      (p.emulator c).handler route.verb route.resource (r.call params now) := by
  have hr : Emulator.route? (p.emulator c).routes r.method r.url.pathText =
      some (route, params) := by
    cases p <;> exact h
  rw [Emulator.handle, hr]
  rfl

theorem Provider.Routed.handle {verb : Verb} {resource : String}
    (h : p.Routed r verb resource params) (c : Configuration) (now : Timestamp) :
    (p.emulator c).handle now r = (p.emulator c).handler verb resource (r.call params now) := by
  obtain ⟨route, hr, rfl, rfl⟩ := h
  exact handle_of_routed hr

end CloudEmulation
