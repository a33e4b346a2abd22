import CloudEmulation.Json.Decode
/-!
Virtual machines of the Azure Compute API, and how a client builds one. Further members of a
virtual machine and of its profiles are kept as they are, except in references to images.
-/

namespace CloudEmulation.Azure

def apiVersion : String := "2019-03-01"

def machineType : String := "Microsoft.Compute/virtualMachines"

structure HardwareProfile where
  vmSize : Option String
  extra : Json.Members
  deriving Repr

namespace HardwareProfile

def fields : List String := ["vmSize"]

def decode : Json → Decoding HardwareProfile :=
  Record.decodeOpen "HardwareProfile" fields fun r =>
    HardwareProfile.mk <$> r.text? "vmSize" <*> .ok r.extra

def encode (assemble : Json.Assembly) (p : HardwareProfile) : Json :=
  .record assemble [.text? "vmSize" p.vmSize] p.extra

end HardwareProfile

structure ImageReference where
  publisher : Option String
  offer : Option String
  sku : Option String
  version : Option String
  deriving Repr

namespace ImageReference

def fields : List String := ["publisher", "offer", "sku", "version"]

def decode : Json → Decoding ImageReference :=
  Record.decode "ImageReference" fields fun r =>
    ImageReference.mk <$> r.text? "publisher" <*> r.text? "offer" <*> r.text? "sku" <*>
      r.text? "version"

def encode (assemble : Json.Assembly) (i : ImageReference) : Json :=
  .record assemble [.text? "publisher" i.publisher, .text? "offer" i.offer, .text? "sku" i.sku,
    .text? "version" i.version] []

end ImageReference

structure StorageProfile where
  imageReference : Option ImageReference
  extra : Json.Members
  deriving Repr

namespace StorageProfile

def fields : List String := ["imageReference"]

def decode : Json → Decoding StorageProfile :=
  Record.decodeOpen "StorageProfile" fields fun r =>
    StorageProfile.mk <$> r.optional "imageReference" ImageReference.decode <*> .ok r.extra

def encode (assemble : Json.Assembly) (p : StorageProfile) : Json :=
  .record assemble [.of? "imageReference" (ImageReference.encode assemble) p.imageReference]
    p.extra

end StorageProfile

structure OsProfile where
  computerName : Option String
  adminUsername : Option String
  adminPassword : Option String
  extra : Json.Members
  deriving Repr

namespace OsProfile

def fields : List String := ["computerName", "adminUsername", "adminPassword"]

def decode : Json → Decoding OsProfile :=
  Record.decodeOpen "OsProfile" fields fun r =>
    OsProfile.mk <$> r.text? "computerName" <*> r.text? "adminUsername" <*>
      r.text? "adminPassword" <*> .ok r.extra

def encode (assemble : Json.Assembly) (p : OsProfile) : Json :=
  .record assemble [.text? "computerName" p.computerName, .text? "adminUsername" p.adminUsername,
    .text? "adminPassword" p.adminPassword] p.extra

end OsProfile

structure MachineProperties where
  vmId : Option String
  provisioningState : Option String
  hardwareProfile : Option HardwareProfile
  storageProfile : Option StorageProfile
  osProfile : Option OsProfile
  networkProfile : Option Json
  extra : Json.Members
  deriving Repr

namespace MachineProperties

def empty : MachineProperties := ⟨none, none, none, none, none, none, []⟩

def fields : List String :=
  ["vmId", "provisioningState", "hardwareProfile", "storageProfile", "osProfile",
    "networkProfile"]

def decode : Json → Decoding MachineProperties :=
  Record.decodeOpen "VirtualMachineProperties" fields fun r =>
    MachineProperties.mk <$> r.text? "vmId" <*> r.text? "provisioningState" <*>
      r.optional "hardwareProfile" HardwareProfile.decode <*>
      r.optional "storageProfile" StorageProfile.decode <*>
      r.optional "osProfile" OsProfile.decode <*>
      r.optional "networkProfile" Json.asAny <*> .ok r.extra

def encode (assemble : Json.Assembly) (p : MachineProperties) : Json :=
  .record assemble [.text? "vmId" p.vmId, .text? "provisioningState" p.provisioningState,
    .of? "hardwareProfile" (HardwareProfile.encode assemble) p.hardwareProfile,
    .of? "storageProfile" (StorageProfile.encode assemble) p.storageProfile,
    .of? "osProfile" (OsProfile.encode assemble) p.osProfile,
    .of? "networkProfile" id p.networkProfile] p.extra

end MachineProperties

structure VirtualMachine where
  id : Option String
  name : Option String
  resourceType : Option String
  location : String
  tags : Dictionary String
  properties : Option MachineProperties
  extra : Json.Members
  deriving Repr

namespace VirtualMachine

def fields : List String := ["id", "name", "type", "location", "tags", "properties"]

def decode : Json → Decoding VirtualMachine :=
  Record.decodeOpen "VirtualMachine" fields fun r =>
    VirtualMachine.mk <$> r.text? "id" <*> r.text? "name" <*> r.text? "type" <*>
      r.textOr "location" "" <*> r.default "tags" Json.asStringMap [] <*>
      r.optional "properties" MachineProperties.decode <*> .ok r.extra

def encode (assemble : Json.Assembly) (m : VirtualMachine) : Json :=
  .record assemble [.text? "id" m.id, .text? "name" m.name, .text? "type" m.resourceType,
    .text "location" m.location, .map? "tags" m.tags,
    .of? "properties" (MachineProperties.encode assemble) m.properties] m.extra

/-- A machine of which only the location is given. -/
def new (location : String) : VirtualMachine := ⟨none, none, none, location, [], none, []⟩

/-- The properties, empty where there are none yet. -/
def given (m : VirtualMachine) : MachineProperties := m.properties.getD .empty

def withProperties (m : VirtualMachine) (p : MachineProperties) : VirtualMachine :=
  { m with properties := some p }

def withHardware (m : VirtualMachine) (size : String) : VirtualMachine :=
  m.withProperties { m.given with hardwareProfile := some ⟨some size, []⟩ }

def withImage (m : VirtualMachine) (image : ImageReference) : VirtualMachine :=
  m.withProperties { m.given with storageProfile := some ⟨some image, []⟩ }

def withOs (m : VirtualMachine) (profile : OsProfile) : VirtualMachine :=
  m.withProperties { m.given with osProfile := some profile }

def withTag (m : VirtualMachine) (key value : String) : VirtualMachine :=
  { m with tags := Dictionary.insert m.tags key value }

def provisioningState (m : VirtualMachine) : Option String :=
  m.properties.bind (·.provisioningState)

end VirtualMachine

end CloudEmulation.Azure
