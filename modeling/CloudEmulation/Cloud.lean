import CloudEmulation.Configuration
import CloudEmulation.Identifier
import CloudEmulation.Instance
import CloudEmulation.Program
/-!
An emulated cloud: its configuration and everything it remembers.
-/

namespace CloudEmulation

/-- What a cloud remembers. -/
structure CloudState where
  instances : Store Instance
  locators : Store Locator
  generator : Generator
  pool : AddressPool
  deriving Repr

namespace CloudState

/-- A text drawn from the generator. -/
def draw (f : Generator → String × Generator) (s : CloudState) : String × CloudState :=
  let (t, g) := f s.generator
  (t, { s with generator := g })

def allocate (s : CloudState) : Except Fault Address × CloudState :=
  let (r, p) := s.pool.allocate
  (r, { s with pool := p })

def reserve (s : CloudState) (a : Address) : Except Fault Unit × CloudState :=
  let (r, p) := s.pool.reserve a
  (r, { s with pool := p })

def release (s : CloudState) (a : Address) : CloudState :=
  { s with pool := s.pool.release a }

/-- The address that is asked for, or the next free one. -/
def assign (s : CloudState) : Option Address → Except Fault Address × CloudState
  | some a =>
    let (r, s) := s.reserve a
    (r.map fun _ => a, s)
  | none => s.allocate

/-- A fault unless an identity is free in a scope. -/
def vacant (s : CloudState) (scope : Scope) (id : String) : Except Fault Unit :=
  if s.instances.has scope id then .error (.duplicateIdentity id scope) else .ok ()

def addInstance (s : CloudState) (scope : Scope) (i : Instance) : CloudState :=
  { s with instances := s.instances.append scope i }

def addLocator (s : CloudState) (scope : Scope) (l : Locator) : CloudState :=
  { s with locators := s.locators.append scope l }

end CloudState

structure Cloud where
  config : Configuration
  state : CloudState
  deriving Repr

namespace Cloud

/-- A cloud without instances; its generator starts from 0 unless the configuration says
otherwise. -/
def new (config : Configuration) : Except Fault Cloud :=
  match AddressPool.parse config.networkCidr with
  | .error f => .error f
  | .ok pool => .ok ⟨config, .empty, .empty, Generator.ofSeed (config.idSeed.getD 0), pool⟩

end Cloud

/-- The status of new instances. -/
def Configuration.initialStatus (c : Configuration) : InstanceStatus :=
  if c.startInstances then .running else .created

/-- A handler of calls: atomic steps on a cloud's state that end in a result or a fault. -/
abbrev Handler := ExceptT Fault (Program CloudState)

namespace Handler

/-- One atomic step that may fail; what it changed stays changed. -/
def atomically (f : CloudState → Except Fault α × CloudState) : Handler α :=
  ExceptT.mk (Program.step f)

/-- Reads the state. -/
def look (f : CloudState → α) : Handler α := ExceptT.mk (Program.look fun s => .ok (f s))

/-- Reads the state, which may fail. -/
def lookup (f : CloudState → Except Fault α) : Handler α := ExceptT.mk (Program.look f)

def draw (f : Generator → String × Generator) : Handler String :=
  ExceptT.mk (Program.step fun s => let (t, s) := s.draw f; (.ok t, s))

def liftExcept (r : Except Fault α) : Handler α := ExceptT.mk (.done r)

def refuse (reason : Reason) : Handler α := throw (.invalidArgument reason)

end Handler

end CloudEmulation
