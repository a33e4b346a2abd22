import CloudEmulation.Proofs.Client.Errors
import CloudEmulation.Proofs.Google.Resources
import CloudEmulation.Proofs.Oracle.Machines
/-!
What the clients and the emulators exchange, which each side reads as the other one wrote it.
-/

namespace CloudEmulation

open Json (Lossless Level)

theorem Azure.CloudError.lossless : Lossless decode encode (fun _ => []) fun _ => True :=
  .closed fun _ e _ _ => e.decode_encode

theorem Oracle.ErrorBody.lossless : Lossless decode encode (fun _ => []) fun _ => True :=
  .closed fun _ e _ _ => e.decode_encode

theorem Google.ErrorBody.code_of_decode {j : Json} {e : ErrorBody} (h : decode j = .ok e) :
    e.code ≤ Numeral.word16Limit := by
  obtain ⟨source, hb⟩ := Record.decode_eq_ok h
  simp only [Ranked.ap_eq_ok, Ranked.map_eq_ok] at hb
  obtain ⟨_, _, ⟨_, _, ⟨code, hcode, rfl⟩, -, rfl⟩, -, rfl⟩ := hb
  obtain ⟨j, hj⟩ := Record.required_eq_ok hcode
  exact Json.le_of_asNatural (show Json.asNatural _ _ j = .ok code from hj)

theorem Google.ErrorResponse.lossless : Lossless decode encode (fun _ => []) fun _ => True := by
  refine .closed fun v e h _ => decode_encode ?_
  obtain ⟨source, hb⟩ := Record.decode_eq_ok h
  obtain ⟨_, herror, rfl⟩ := Ranked.map_eq_ok.mp hb
  obtain ⟨j, hj⟩ := Record.required_eq_ok herror
  exact ErrorBody.code_of_decode hj

/-- All that decodes is read back as it was written, at every level; a resource that tells a point
in time, if that can be read. A page is read back if its items are. -/
theorem wire_types_lossless :
    (Lossless Azure.VirtualMachine.decode Azure.VirtualMachine.encode Azure.VirtualMachine.levels
        (fun _ => True) ∧
      Lossless Azure.MachineProperties.decode Azure.MachineProperties.encode
        Azure.MachineProperties.levels (fun _ => True) ∧
      Lossless Azure.HardwareProfile.decode Azure.HardwareProfile.encode
        Azure.HardwareProfile.levels (fun _ => True) ∧
      Lossless Azure.StorageProfile.decode Azure.StorageProfile.encode
        Azure.StorageProfile.levels (fun _ => True) ∧
      Lossless Azure.ImageReference.decode Azure.ImageReference.encode (fun _ => [])
        (fun _ => True) ∧
      Lossless Azure.OsProfile.decode Azure.OsProfile.encode Azure.OsProfile.levels
        (fun _ => True) ∧
      Lossless Azure.MachineList.decode Azure.MachineList.encode Azure.MachineList.levels
        (fun _ => True) ∧
      Lossless Azure.CloudError.decode Azure.CloudError.encode (fun _ => []) fun _ => True) ∧
    (Lossless Oracle.LaunchDetails.decode Oracle.LaunchDetails.encode Oracle.LaunchDetails.levels
        (fun _ => True) ∧
      Lossless Oracle.ComputeInstance.decode Oracle.ComputeInstance.encode
        Oracle.ComputeInstance.levels (fun i => i.timeCreated.Readable) ∧
      Lossless Oracle.VnicAttachment.decode Oracle.VnicAttachment.encode (fun _ => [])
        (fun a => a.timeCreated.Readable) ∧
      Lossless Oracle.Vnic.decode Oracle.Vnic.encode (fun _ => [])
        (fun v => v.timeCreated.Readable) ∧
      Lossless Oracle.ErrorBody.decode Oracle.ErrorBody.encode (fun _ => []) fun _ => True) ∧
    (Lossless Google.ComputeInstance.decode Google.ComputeInstance.encode
        Google.ComputeInstance.levels (fun _ => True) ∧
      Lossless Google.NetworkInterface.decode Google.NetworkInterface.encode
        Google.NetworkInterface.levels (fun _ => True) ∧
      Lossless Google.Operation.decode Google.Operation.encode (fun _ => []) (fun _ => True) ∧
      Lossless Google.ErrorResponse.decode Google.ErrorResponse.encode (fun _ => [])
        (fun _ => True) ∧
      ∀ (α : Type) (read : Json → Decoding α) (write : Json.Assembly → α → Json)
        (levels : α → List Level) (readable : α → Prop), Lossless read write levels readable →
        Lossless (Google.Listing.decode read)
          (fun assemble => Google.Listing.encode assemble (write assemble))
          (fun l => l.items.flatMap levels) fun l => ∀ a ∈ l.items, readable a) :=
  ⟨⟨Azure.VirtualMachine.lossless, Azure.MachineProperties.lossless, Azure.HardwareProfile.lossless,
      Azure.StorageProfile.lossless, Azure.ImageReference.lossless, Azure.OsProfile.lossless,
      Azure.MachineList.lossless, Azure.CloudError.lossless⟩,
    ⟨Oracle.LaunchDetails.lossless, Oracle.ComputeInstance.lossless,
      Oracle.VnicAttachment.lossless, Oracle.Vnic.lossless, Oracle.ErrorBody.lossless⟩,
    Google.ComputeInstance.lossless, Google.NetworkInterface.lossless, Google.Operation.lossless,
    Google.ErrorResponse.lossless, fun _ _ _ _ _ h => Google.Listing.lossless h⟩

def coloured : Json :=
  .object [("colour", .string "red"), ("compartmentId", .string "c"), ("id", .string "i"),
    ("lifecycleState", .string "RUNNING"), ("timeCreated", .string "2024-05-01T00:30:00+01:00")]

theorem coloured_lossless :
    ∃ i, Oracle.ComputeInstance.decode coloured = .ok i ∧
      Oracle.ComputeInstance.decode (i.encode .ofFields) = .ok i ∧
      ∀ p ∈ i.extra, p.1 ∉ Oracle.ComputeInstance.fields := by
  obtain ⟨-, ⟨-, hlossless, -⟩, -⟩ := wire_types_lossless
  have hcreated : (Oracle.ComputeInstance.decode coloured).toOption.map (·.timeCreated) =
      some ⟨1714519800, 0⟩ := by decide +kernel
  have hread : (⟨1714519800, 0⟩ : Timestamp).Readable := by
    show Timestamp.parse _ = _
    decide +kernel
  cases hi : Oracle.ComputeInstance.decode coloured with
  | error e =>
    rw [hi] at hcreated
    cases hcreated
  | ok i =>
    rw [hi] at hcreated
    have ht : i.timeCreated = ⟨1714519800, 0⟩ := Option.some.inj hcreated
    rw [← ht] at hread
    exact ⟨i, rfl, hlossless.decodes_again coloured i hi hread,
      hlossless.apart coloured i hi _ (List.mem_singleton_self _)⟩

end CloudEmulation
