import CloudEmulation.Proofs.Cloud.Runs
import Mathlib.Algebra.BigOperators.Group.List.Basic
import Mathlib.Data.List.Perm.Subperm
/-!
What a cloud remembers is what was accepted, in order; and it cannot be more than there are
addresses.
-/

namespace CloudEmulation

open Numeral (word64Limit)

theorem Configuration.Makes.nics_ne_nil {c : Configuration} {scope : Scope} {i : Instance}
    (h : c.Makes scope i) : i.nics ≠ [] := by
  cases h with
  | google hd hc =>
    have ha := (Google.Draft.ofBody_eq_ok hd).2.2
    exact hc.ne_nil (Google.requestedAddresses_ne_nil ha)
  | azure => exact List.cons_ne_nil _ _
  | oracle => exact List.cons_ne_nil _ _

namespace CloudState

variable {c : Configuration} {s s' : CloudState} {scope : Scope} {i : Instance}

/-- The scope and the identity of every instance, oldest first. -/
def identities (s : CloudState) : List (Scope × String) :=
  s.instances.entries.map fun e => (e.1, e.2.identity)

theorem identities_list (s : CloudState) (scope : Scope) :
    (s.instances.list scope).map Instance.identity =
      (s.identities.filter (·.1 = scope)).map Prod.snd := by
  rw [Store.list_eq_filter, identities, List.filter_map, List.map_map, List.map_map]
  rfl

theorem Takes.identities {as : List Address} (h : s.Takes as s') :
    s'.identities = s.identities := by
  rw [CloudState.identities, h.instances]
  rfl

theorem Added.identities (h : s.Added c scope i s') :
    s'.identities = s.identities ++ [(scope, i.identity)] := by
  simp [CloudState.identities, h.instances, Store.append]

/-- Every instance has an address of its own. -/
theorem Sound.size_le (h : s.Sound c) : s.instances.size ≤ s.addresses.length := by
  have hone : ∀ n ∈ s.instances.entries.map (·.2.addresses.length), 1 ≤ n := by
    intro n hn
    obtain ⟨⟨scope, i⟩, hm, rfl⟩ := List.mem_map.mp hn
    have hi := (h.made scope i (Store.mem_list.mpr hm)).nics_ne_nil
    have hl := List.length_pos_iff.mpr hi
    rw [← List.length_map Nic.address] at hl
    exact hl
  have hle := List.length_le_sum_of_one_le _ hone
  rwa [List.length_map, ← List.length_flatMap] at hle

theorem length_list_le (s : CloudState) (scope : Scope) :
    (s.instances.list scope).length ≤ s.instances.size :=
  List.length_filterMap_le _ _

end CloudState

namespace Cloud

variable {c c' : Cloud} {config : Configuration} {ops : List (Timestamp × Operation)}
  {created : Option (Scope × String)} {scope : Scope}

theorem Step.identities (k : c.Step created c') :
    c'.state.identities = c.state.identities ++ created.toList := by
  cases k with
  | kept _ hn hk => simp [hn, hk.identities]
  | added _ hn ha => simp [hn, ha.identities]

theorem Consistent.identities_after (h : Consistent config c) (ops : List (Timestamp × Operation)) :
    (c.after ops).state.identities = c.state.identities ++ c.accepted ops := by
  -- Each operation keeps what is remembered or adds one identity at its end.
  induction ops generalizing c with
  | nil => simp [Cloud.after, accepted]
  | cons step ops ih =>
    have k := h.step_perform step.1 step.2
    rw [Cloud.after, ih (h.step k), k.identities, accepted, List.append_assoc]

/-- The identities of a scope that some operations created, in order. -/
def acceptedIn (c : Cloud) (ops : List (Timestamp × Operation)) (scope : Scope) : List String :=
  ((c.accepted ops).filter (·.1 = scope)).map Prod.snd

theorem identities_of_new (h : new config = .ok c) : c.state.identities = [] := by
  unfold new at h
  split at h
  · cases h
  · cases h
    rfl

def identitiesIn (c : Cloud) (scope : Scope) : List String :=
  (c.state.instances.list scope).map Instance.identity

theorem identitiesIn_after (h : new config = .ok c) (ops : List (Timestamp × Operation))
    (scope : Scope) : (c.after ops).identitiesIn scope = c.acceptedIn ops scope := by
  have hi := (consistent_of_new h).identities_after ops
  rw [identities_of_new h, List.nil_append] at hi
  rw [identitiesIn, CloudState.identities_list, hi, acceptedIn]

theorem nodup_acceptedIn (h : new config = .ok c) (ops : List (Timestamp × Operation))
    (scope : Scope) : (c.acceptedIn ops scope).Nodup := by
  rw [← identitiesIn_after h]
  exact ((consistent_of_new h).after ops).sound.named scope

/-- There are fewer addresses than words. -/
theorem Consistent.length_list_le (h : Consistent config c) (scope : Scope) :
    (c.state.instances.list scope).length ≤ word64Limit := by
  obtain ⟨-, hs, pool, hp, -, hb⟩ := h
  have hnodup : (c.state.addresses.map Address.number).Nodup :=
    hs.apart.map fun a b hab => by
      cases a
      cases b
      exact congrArg Address.mk hab
  have hsub : c.state.addresses.map Address.number ⊆ List.range 0x200000000 := by
    intro n hn
    obtain ⟨a, ha, rfl⟩ := List.mem_map.mp hn
    have hc := hs.pool.hosts a ((hs.held a).mpr ha)
    have hlt := (AddressPool.contains_iff.mp hc).2
    have hbound := (AddressPool.bounds_of_parse hp).2
    rw [List.mem_range]
    omega
  -- The addresses are apart and bounded, and every instance has one.
  have hle := (hnodup.subperm hsub).length_le
  rw [List.length_map, List.length_range] at hle
  have hsize := hs.size_le
  have hlist := CloudState.length_list_le c.state scope
  have hword : 0x200000000 ≤ word64Limit := by decide
  omega

end Cloud

end CloudEmulation
