import CloudEmulation.Oracle.Resource
/-!
The shapes that exist in every compartment.
-/

namespace CloudEmulation.Oracle

namespace Shape

def processor : String := "2.0 GHz Intel® Xeon® Platinum 8167M (Skylake)"

/-- The further members of a shape. Its cores and its memory cannot be chosen, and it has no local
disks. -/
def details (gpus : Option String) (migratable : Bool) (attachments bandwidth : Nat) :
    Json.Members :=
  .ofList [("baselineOcpuUtilizations", .null), ("gpuDescription", .ofOption .string gpus),
    ("isLiveMigrationSupported", .bool migratable), ("localDiskDescription", .null),
    ("localDisks", .ofNat 0), ("localDisksTotalSizeInGBs", .null),
    ("maxVnicAttachmentOptions", .null), ("maxVnicAttachments", .ofNat attachments),
    ("memoryOptions", .null), ("minTotalBaselineOcpusRequired", .null),
    ("networkingBandwidthInGbps", ofDouble (.ofNat bandwidth)),
    ("networkingBandwidthOptions", .null), ("ocpuOptions", .null)]

def catalog : List Shape := [
  ⟨"VM.GPU2.1", some (.ofNat 12), some (.ofNat 72), some 1, some processor,
    details (some "NVIDIA® Tesla® P100") false 12 8⟩,
  ⟨"VM.Standard2.1", some (.ofNat 1), some (.ofNat 15), some 0, some processor,
    details none true 2 1⟩]

end Shape

end CloudEmulation.Oracle
