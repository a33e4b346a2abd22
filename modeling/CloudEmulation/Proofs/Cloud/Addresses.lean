import CloudEmulation.Proofs.Cloud.Runs
/-!
Addresses of interfaces: no two are the same, each is a host of the configured network, and the pool
holds no others.
-/

namespace CloudEmulation

/-- The cloud that the standard configuration begins with. -/
def Cloud.initial : Cloud :=
  ⟨.standard, .empty, .empty, ⟨0⟩, ⟨0x0A000000, 0x0A0000FF, 0x0A000002, [], "10.0.0.0/24"⟩⟩

theorem Cloud.new_standard : Cloud.new .standard = .ok Cloud.initial := by
  have hp : AddressPool.parse? Configuration.standard.networkCidr =
    some ⟨0x0A000000, 0x0A0000FF, 0x0A000002, [], "10.0.0.0/24"⟩ := by decide +kernel
  rw [new, AddressPool.parse, hp]
  rfl

theorem Cloud.reachable_initial (ops : List (Timestamp × Operation)) :
    Cloud.Reachable .standard (Cloud.initial.after ops) :=
  ⟨Cloud.initial, ops, .new Cloud.new_standard, rfl⟩

namespace Cloud

variable {config : Configuration} {c : Cloud}

/-- However a cloud was used, its pool holds just the addresses of all interfaces. -/
theorem addresses_held_exactly (h : Reachable config c) :
    ∃ pool, AddressPool.parse config.networkCidr = .ok pool ∧
      c.state.addresses.Nodup ∧
      (∀ a ∈ c.state.addresses, pool.network + 1 < a.number ∧ a.number < pool.broadcast) ∧
      ∀ a, a ∈ c.state.pool.held ↔ a ∈ c.state.addresses := by
  obtain ⟨-, hs, pool, hp, hn, hb⟩ := h.consistent
  refine ⟨pool, hp, hs.apart, ?_, hs.held⟩
  intro a ha
  have hc := hs.pool.hosts a ((hs.held a).mpr ha)
  rw [← hn, ← hb]
  exact AddressPool.contains_iff.mp hc

/-- A name that is taken costs no address. -/
theorem addresses_of_conflict :
    let body := Json.object [("name", .string "web")]
    let c := initial.after [(⟨0, 0⟩, .insert "shop" "eu" body), (⟨1, 0⟩, .insert "shop" "eu" body)]
    ∃ pool, AddressPool.parse Configuration.standard.networkCidr = .ok pool ∧
      c.state.addresses.Nodup ∧
      (∀ a ∈ c.state.addresses, pool.network + 1 < a.number ∧ a.number < pool.broadcast) ∧
      ∀ a, a ∈ c.state.pool.held ↔ a ∈ c.state.addresses :=
  addresses_held_exactly (reachable_initial _)

end Cloud

end CloudEmulation
