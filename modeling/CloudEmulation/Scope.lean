import CloudEmulation.Provider
/-!
Scopes: what addresses a set of resources whose names must differ.
-/

namespace CloudEmulation

inductive Scope where
  | google (project zone : String)
  | azure (subscription group : String)
  | oracle (compartment : String)
  /-- All of a provider, for identifiers that are unique across scopes. -/
  | tenancy (provider : Provider)
  deriving DecidableEq, Repr, Inhabited

namespace Scope

def provider : Scope → Provider
  | .google .. => .google
  | .azure .. => .azure
  | .oracle .. => .oracle
  | .tenancy p => p

/-- The named parts of a scope's address, in order. -/
def keys : Scope → List (String × String)
  | .google p z => [("project", p), ("zone", z)]
  | .azure s g => [("subscription", s), ("resourceGroup", g)]
  | .oracle c => [("compartment", c)]
  | .tenancy _ => []

def get? (s : Scope) (key : String) : Option String :=
  (s.keys.find? (·.1 = key)).map (·.2)

def text (s : Scope) : String :=
  s.provider.name ++ ":" ++
    (if s.keys.isEmpty then "tenancy"
    else "/".intercalate (s.keys.map fun k => k.1 ++ "=" ++ k.2))

end Scope

end CloudEmulation
