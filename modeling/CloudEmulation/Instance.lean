import CloudEmulation.Store
import CloudEmulation.Time.Timestamp
/-!
Records of instances, of their network interfaces, and of where identifiers live.
-/

namespace CloudEmulation

inductive InstanceStatus where
  | created
  | running
  deriving DecidableEq, Repr

def InstanceStatus.name : InstanceStatus → String
  | .created => "Created"
  | .running => "Running"

/-- A network interface; `attachment` names what joins it to its instance. -/
structure Nic where
  id : String
  attachment : Option String
  name : String
  address : Address
  deriving DecidableEq, Repr

/-- A virtual instance. `metadata` is what the caller asked for, unchanged. -/
structure Instance where
  identity : String
  id : String
  name : String
  placement : String
  status : InstanceStatus
  createdAt : Timestamp
  nics : List Nic
  metadata : Json.Members
  deriving Repr

instance : Identified Instance := ⟨Instance.identity⟩

def Instance.addresses (i : Instance) : List Address := i.nics.map Nic.address

/-- The scope that an identifier lives in, and the instance it belongs to unless it is one. -/
structure Locator where
  identity : String
  home : Scope
  owner : Option String
  deriving DecidableEq, Repr

instance : Identified Locator := ⟨Locator.identity⟩

end CloudEmulation
