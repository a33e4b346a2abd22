import CloudEmulation.Azure.VirtualMachine
/-!
What the Azure Compute API answers beside single machines: pages of them, the states of long-running
operations, and refusals.
-/

namespace CloudEmulation.Azure

structure MachineList where
  value : List VirtualMachine
  nextLink : Option String
  deriving Repr

namespace MachineList

def fields : List String := ["value", "nextLink"]

def decode : Json → Decoding MachineList :=
  Record.decode "VirtualMachineListResult" fields fun r =>
    MachineList.mk <$> r.default "value" (Json.asList VirtualMachine.decode) [] <*>
      r.text? "nextLink"

def encode (assemble : Json.Assembly) (l : MachineList) : Json :=
  .record assemble [.list "value" (VirtualMachine.encode assemble) l.value,
    .text? "nextLink" l.nextLink] []

end MachineList

structure CloudErrorBody where
  code : String
  message : String
  deriving DecidableEq, Repr

namespace CloudErrorBody

def decode : Json → Decoding CloudErrorBody :=
  Record.decode "CloudErrorBody" ["code", "message"] fun r =>
    CloudErrorBody.mk <$> r.text "code" <*> r.text "message"

def encode (assemble : Json.Assembly) (e : CloudErrorBody) : Json :=
  .record assemble [.text "code" e.code, .text "message" e.message] []

end CloudErrorBody

/-- The body of a refusal. -/
structure CloudError where
  error : CloudErrorBody
  deriving DecidableEq, Repr

namespace CloudError

def decode : Json → Decoding CloudError :=
  Record.decode "CloudError" ["error"] fun r =>
    CloudError.mk <$> r.required "error" CloudErrorBody.decode

def encode (assemble : Json.Assembly) (e : CloudError) : Json :=
  .record assemble [.of "error" (e.error.encode assemble)] []

end CloudError

/-- How far a long-running operation is. -/
structure OperationStatus where
  status : String
  error : Option CloudErrorBody
  deriving DecidableEq, Repr

def OperationStatus.decode : Json → Decoding OperationStatus :=
  Record.decode "OperationStatus" ["status", "error"] fun r =>
    OperationStatus.mk <$> r.text "status" <*> r.optional "error" CloudErrorBody.decode

end CloudEmulation.Azure
