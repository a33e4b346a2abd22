import CloudEmulation.Azure.Service
import CloudEmulation.Google.Service
import CloudEmulation.Oracle.Service
/-!
Clouds answer requests of every provider, and begin with the instances that their configuration
lists.
-/

namespace CloudEmulation

def Provider.emulator (c : Configuration) : Provider → Emulator
  | .google => Google.emulator c
  | .azure => Azure.emulator c
  | .oracle => Oracle.emulator c

namespace SeedInstance

def create (c : Configuration) (now : Timestamp) : SeedInstance → Handler Unit
  | .google project zone body => do
    let _ ← Google.insert c now project zone body
  | .azure subscription group name body => do
    let _ ← Azure.put c now subscription group name body
  | .oracle body => do
    let _ ← Oracle.launch c now body

end SeedInstance

namespace Cloud

def run (c : Cloud) (p : Program CloudState α) : α × Cloud :=
  let (a, state) := p.run c.state
  (a, { c with state })

/-- Creates instances one after another, up to the first fault. -/
def seed (c : Cloud) (now : Timestamp) (instances : List SeedInstance) :
    Except Fault Unit × Cloud :=
  c.run (ExceptT.run (instances.forM (SeedInstance.create c.config now)))

/-- A new cloud with the instances that its configuration lists. -/
def fresh (config : Configuration) (now : Timestamp) : Except Fault Cloud := do
  let c ← new config
  match c.seed now config.seed with
  | (.ok (), c) => return c
  | (.error f, _) => throw f

def handle (c : Cloud) (p : Provider) (now : Timestamp) (r : Http.Request) :
    Except Fault Http.Response × Cloud :=
  c.run (ExceptT.run ((p.emulator c.config).handle now r))

def respond (c : Cloud) (p : Provider) (now : Timestamp) (r : Http.Request) :
    Http.Response × Cloud :=
  c.run ((p.emulator c.config).respond now r)

end Cloud

end CloudEmulation
