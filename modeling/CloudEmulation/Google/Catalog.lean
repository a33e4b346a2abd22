import CloudEmulation.Google.Resource
/-!
The machine types that exist in every zone.
-/

namespace CloudEmulation.Google

structure MachineType where
  id : String
  name : String
  description : String
  cpus : Nat
  memoryMb : Nat
  imageSpaceGb : Nat
  isSharedCpu : Bool
  deriving DecidableEq, Repr

namespace MachineType

def catalog : List MachineType := [
  ⟨"3001", "n1-standard-1", "1 vCPU, 3.75 GB RAM", 1, 3840, 10, false⟩,
  ⟨"3002", "n1-standard-2", "2 vCPUs, 7.5 GB RAM", 2, 7680, 10, false⟩,
  ⟨"334002", "e2-medium", "Efficient Instance, 2 vCPU (1/2 shared physical core) and 4 GB RAM",
    2, 4096, 0, true⟩]

def find? (name : String) : Option MachineType := catalog.find? (·.name = name)

/-- The members that do not depend on where the machine type is looked up. -/
def members (m : MachineType) : List (String × Json) :=
  [("id", .string m.id), ("creationTimestamp", .string "1969-12-31T16:00:00.000-08:00"),
    ("name", .string m.name), ("description", .string m.description),
    ("guestCpus", .ofNat m.cpus), ("memoryMb", .ofNat m.memoryMb),
    ("imageSpaceGb", .ofNat m.imageSpaceGb), ("maximumPersistentDisks", .ofNat 128),
    ("maximumPersistentDisksSizeGb", .string "263168"), ("isSharedCpu", .bool m.isSharedCpu),
    ("kind", .string "compute#machineType")]

def encode (m : MachineType) : Json := .ofFields m.members

/-- A machine type as a zone shows it. -/
def encodeIn (project zone : String) (m : MachineType) : Json :=
  .ofFields (m.members ++ [("zone", .string zone),
    ("selfLink", .string (zoneLink project zone ++ "/machineTypes/" ++ m.name))])

end MachineType

end CloudEmulation.Google
