import CloudEmulation.Proofs.Cloud.Concealing
import CloudEmulation.Proofs.Concurrency.Sections
/-!
Records without what is generated for them. States that are the same without it give and take the
same addresses, and have the same names taken.
-/

namespace CloudEmulation

def Nic.bare (n : Nic) : Nic := { n with id := "", attachment := n.attachment.map fun _ => "" }

/-- The name that a launch asked for, if it asked for one. -/
def Instance.asked? (i : Instance) : Option String :=
  match Oracle.LaunchDetails.decode (.object i.metadata) with
  | .ok d => d.displayName
  | .error _ => none

/-- A record without generated identifiers and times. Oracle instances are addressed by a generated
identifier, and those that no name was asked for are named after the time. -/
def Scope.bare (scope : Scope) (i : Instance) : Instance :=
  match scope with
  | .oracle _ => { i with
      identity := "", id := "", createdAt := ⟨0, 0⟩, nics := i.nics.map Nic.bare
      name := if i.asked? = none then "" else i.name }
  | _ => { i with id := "", createdAt := ⟨0, 0⟩, nics := i.nics.map Nic.bare }

namespace Scope

variable {scope : Scope} {i j : Instance}

theorem nics_bare (scope : Scope) (i : Instance) : (scope.bare i).nics = i.nics.map Nic.bare := by
  cases scope <;> rfl

theorem addresses_bare (scope : Scope) (i : Instance) :
    (scope.bare i).addresses = i.addresses := by
  rw [Instance.addresses, nics_bare, List.map_map]
  rfl

theorem addresses_of_bare (h : scope.bare i = scope.bare j) : i.addresses = j.addresses := by
  rw [← addresses_bare scope i, h, addresses_bare]

end Scope

namespace CloudState

variable {c : Configuration} {s s' t t' : CloudState} {scope : Scope} {i j : Instance}

/-- Sound states of one network that differ at most in what was generated. -/
structure Twins (c : Configuration) (s s' : CloudState) : Prop where
  left : s.Sound c
  right : s'.Sound c
  instances : s.instances.mapScoped Scope.bare = s'.instances.mapScoped Scope.bare
  pool : s.pool.Same s'.pool

namespace Twins

theorem refl (h : s.Sound c) : s.Twins c s := ⟨h, h, rfl, (AddressPool.Grown.refl h.pool).same⟩

theorem list (h : s.Twins c s') (scope : Scope) :
    (s.instances.list scope).map scope.bare = (s'.instances.list scope).map scope.bare := by
  rw [← Store.list_mapScoped, h.instances, Store.list_mapScoped]

theorem forall₂ (h : s.Twins c s') (scope : Scope) :
    List.Forall₂ (fun i j => scope.bare i = scope.bare j) (s.instances.list scope)
      (s'.instances.list scope) := by
  have hl := List.forall₂_eq_eq_eq ▸ h.list scope
  exact List.forall₂_map_left_iff.mp (List.forall₂_map_right_iff.mp hl)

theorem length_list (h : s.Twins c s') (scope : Scope) :
    (s.instances.list scope).length = (s'.instances.list scope).length :=
  (h.forall₂ scope).length_eq

theorem has (h : s.Twins c s') (hs : scope.provider ≠ .oracle) (id : String) :
    s.instances.has scope id = s'.instances.has scope id := by
  have hi : ∀ k, identity (scope.bare k) = identity k := fun k => by
    cases scope with
    | oracle => exact absurd rfl hs
    | _ => rfl
  have hany : ∀ l : List Instance, l.any (identity · = id) =
      (l.map scope.bare).any (identity · = id) := by
    intro l
    rw [List.any_map]
    simp [Function.comp_def, hi]
  rw [Store.has, Store.has, hany, h.list, ← hany]

theorem kept (h : s.Twins c s') (k : s.Kept t) (k' : s'.Kept t') : t.Twins c t' where
  left := h.left.kept k
  right := h.right.kept k'
  instances := by rw [k.instances, k'.instances, h.instances]
  pool := h.pool.grown k.pool k'.pool

theorem added (h : s.Twins c s') (k : s.Added c scope i t) (k' : s'.Added c scope j t')
    (hb : scope.bare i = scope.bare j) : t.Twins c t' where
  left := h.left.added k
  right := h.right.added k'
  instances := by
    rw [k.instances, k'.instances, Store.mapScoped_append, Store.mapScoped_append, h.instances, hb]
  pool := h.pool.grown k.pool (Scope.addresses_of_bare hb ▸ k'.pool)

end Twins

/-! What pools that hold the same addresses give. -/

theorem allocate_same (h : s.pool.Same s'.pool) (hp : s.pool.Valid) (hp' : s'.pool.Valid) :
    s.allocate.1 = s'.allocate.1 ∧ s.allocate.2.pool.Same s'.allocate.2.pool := by
  obtain ⟨ha, hs⟩ := h.allocate hp hp'
  exact ⟨ha.symm, hs⟩

theorem assign_same (h : s.pool.Same s'.pool) (hp : s.pool.Valid) (hp' : s'.pool.Valid)
    (request : Option Address) : (s.assign request).1 = (s'.assign request).1 ∧
      (s.assign request).2.pool.Same (s'.assign request).2.pool := by
  cases request with
  | none => exact allocate_same h hp hp'
  | some a =>
    obtain ⟨ha, hs⟩ := h.reserve a
    refine ⟨?_, hs⟩
    show (s.pool.reserve a).1.map _ = (s'.pool.reserve a).1.map _
    rw [ha]

end CloudState

end CloudEmulation
