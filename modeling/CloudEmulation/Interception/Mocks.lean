import CloudEmulation.Emulation.Seeding
import CloudEmulation.Interception.Harness
/-!
Mocks: while a provider is mocked, its requests are answered by an emulated cloud. Several mocks may
share one cloud.
-/

namespace CloudEmulation

/-- All clouds that were made, and the slots of the providers. A slot holds the place of its cloud
in the list. -/
structure Mocks where
  clouds : List Cloud
  google : Harness Nat
  azure : Harness Nat
  oracle : Harness Nat
  deriving Repr

/-- Stands for a mock that was entered; it is left by dropping it. -/
structure MockGuard where
  provider : Provider
  cloud : Nat
  token : Token
  deriving DecidableEq, Repr

/-- Where the cloud of a mock comes from. -/
inductive MockSource where
  | shared (cloud : Nat)
  | fresh (config : Configuration)
  deriving Repr

namespace Mocks

def none : Mocks := ⟨[], .new .google, .new .azure, .new .oracle⟩

def harness (m : Mocks) : Provider → Harness Nat
  | .google => m.google
  | .azure => m.azure
  | .oracle => m.oracle

def setHarness (m : Mocks) (p : Provider) (h : Harness Nat) : Mocks :=
  match p with
  | .google => { m with google := h }
  | .azure => { m with azure := h }
  | .oracle => { m with oracle := h }

def isActive (m : Mocks) (p : Provider) : Bool := (m.harness p).isActive

/-- Adds a cloud, and tells its place. -/
def addCloud (m : Mocks) (c : Cloud) : Nat × Mocks :=
  (m.clouds.length, { m with clouds := m.clouds ++ [c] })

/-- Makes a fresh cloud with the instances that its configuration lists. -/
def create (m : Mocks) (now : Timestamp) (config : Configuration) : Except Fault Nat × Mocks :=
  match Cloud.fresh config now with
  | .ok c =>
    let (i, m) := m.addCloud c
    (.ok i, m)
  | .error f => (.error f, m)

def source (m : Mocks) (now : Timestamp) : MockSource → Except Fault Nat × Mocks
  | .shared cloud => (.ok cloud, m)
  | .fresh config => m.create now config

/-- Mocks a provider that is not mocked yet. -/
def enter (m : Mocks) (now : Timestamp) (p : Provider) (s : MockSource) :
    Except Fault MockGuard × Mocks :=
  match m.source now s with
  | (.error f, m) => (.error f, m)
  | (.ok cloud, m) =>
    match (m.harness p).activate cloud with
    | (.ok token, h) => (.ok ⟨p, cloud, token⟩, m.setHarness p h)
    | (.error f, _) => (.error f, m)

def leave (m : Mocks) (g : MockGuard) : Mocks :=
  m.setHarness g.provider ((m.harness g.provider).deactivate g.token)

/-- Something done with one of the clouds. -/
def withCloud (m : Mocks) (i : Nat) (f : Cloud → α × Cloud) : Option α × Mocks :=
  match m.clouds[i]? with
  | some c =>
    let (a, c) := f c
    (some a, { m with clouds := m.clouds.set i c })
  | .none => (.none, m)

/-- The response of the provider's mock, if it is mocked. -/
def dispatch (m : Mocks) (now : Timestamp) (p : Provider) (r : Http.Request) :
    Option Http.Response × Mocks :=
  match (m.harness p).current? with
  | some i => m.withCloud i (·.respond p now r)
  | .none => (.none, m)

end Mocks

end CloudEmulation
