import CloudEmulation.Client.Transport
import CloudEmulation.Emulation.Seeding
/-!
A transport that leads to an emulated cloud.
-/

namespace CloudEmulation

/-- Requests to a provider are answered by the cloud, at one moment. -/
def Cloud.transport (now : Timestamp) (p : Provider) : Transport (StateM Cloud) := fun r c =>
  let (response, c) := c.respond p now r
  (.ok response, c)

end CloudEmulation
