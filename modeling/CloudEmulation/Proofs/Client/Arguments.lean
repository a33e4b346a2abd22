import CloudEmulation.Proofs.Client.Requests
import CloudEmulation.Proofs.Url.Path
/-!
Any texts as arguments of the clients. What is ignored in them does not matter, and where one of
them stands for no segment the path is too short for what is asked.
-/

namespace CloudEmulation

open Url (Argument stripped)

variable {endpoint : String}

/-- Whether none of some arguments vanishes from a path. -/
def Addressable (arguments : List String) : Prop := ∀ s ∈ arguments, Argument (stripped s)

instance (arguments : List String) : Decidable (Addressable arguments) :=
  inferInstanceAs (Decidable (∀ s ∈ arguments, _))

theorem stripped_words : ∀ s ∈ ["compute", "v1", "projects", "zones", "instances", "subscriptions",
    "resourceGroups", "providers", "Microsoft.Compute", "virtualMachines"],
    stripped s = s ∧ Argument s := by
  decide

namespace Google

variable {project zone name : String}

def instanceSegments (project zone name : String) : List String :=
  zoneSegments project zone ++ ["instances", name]

theorem segments_addressable : (∀ s ∈ instanceSegments project zone name, Argument (stripped s)) ↔
    Addressable [project, zone, name] := by
  have hw := stripped_words
  simp only [List.forall_mem_cons] at hw
  simp only [instanceSegments, zoneSegments, Addressable, List.cons_append, List.nil_append,
    List.forall_mem_cons, hw, true_and]

theorem stripped_segments : (instanceSegments project zone name).map stripped =
    instanceSegments (stripped project) (stripped zone) (stripped name) := by
  have hw := stripped_words
  simp only [List.forall_mem_cons] at hw
  simp only [instanceSegments, zoneSegments, List.cons_append, List.nil_append, List.map_cons,
    List.map_nil, hw]

/-- The URL at which an instance is asked for. -/
theorem build_of_join {u v : Url} (hu : Url.parse endpoint = .ok u)
    (hj : u.join (instanceSegments project zone name) = .ok v) :
    (Request.getInstance project zone name).build endpoint = .ok ⟨"GET", v, [], none⟩ := by
  have hj : u.join (Request.getInstance project zone name).segments = .ok v := hj
  unfold Request.build
  simp only [hu, hj, bind, Except.bind]
  rfl

theorem build_addressable (he : BareEndpoint endpoint) (ha : Addressable [project, zone, name]) :
    ∃ url, (Request.getInstance project zone name).build endpoint = .ok ⟨"GET", url, [], none⟩ ∧
      Leads url (instanceSegments (stripped project) (stripped zone) (stripped name)) [] := by
  obtain ⟨u, hu, hbare⟩ := he
  obtain ⟨v, special, hjoin, hquery, hsplit⟩ :=
    hbare.join_of_stripped (segments_addressable.mpr ha)
  rw [stripped_segments] at hsplit
  exact ⟨v, build_of_join hu hjoin, ⟨special, hsplit⟩, hbare.queryPairs hquery⟩

theorem build_short (he : BareEndpoint endpoint) (ha : ¬Addressable [project, zone, name]) :
    ∃ url, (Request.getInstance project zone name).build endpoint = .ok ⟨"GET", url, [], none⟩ ∧
      (PathTemplate.split url.pathText).length < 8 := by
  obtain ⟨u, hu, hbare⟩ := he
  obtain ⟨v, hjoin, -, hlt⟩ := hbare.join_short (mt segments_addressable.mp ha)
  exact ⟨v, build_of_join hu hjoin, hlt⟩

end Google

namespace Azure

variable {subscription group : String} {name : Option String}

theorem segments_addressable :
    (∀ s ∈ machineSegments subscription group name, Argument (stripped s)) ↔
      Addressable (subscription :: group :: name.toList) := by
  have hw := stripped_words
  simp only [List.forall_mem_cons] at hw
  simp only [machineSegments, Addressable, List.cons_append, List.nil_append, List.forall_mem_cons,
    hw, true_and]

theorem stripped_segments : (machineSegments subscription group name).map stripped =
    machineSegments (stripped subscription) (stripped group) (name.map stripped) := by
  have hw := stripped_words
  simp only [List.forall_mem_cons] at hw
  have hname : name.toList.map stripped = (name.map stripped).toList := by
    cases name <;> rfl
  simp only [machineSegments, List.cons_append, List.nil_append, List.map_cons, hw, hname]

theorem machinesUrl_stripped (he : BareEndpoint endpoint)
    (ha : Addressable (subscription :: group :: name.toList)) :
    machinesUrl endpoint subscription group name =
      machinesUrl endpoint (stripped subscription) (stripped group) (name.map stripped) := by
  obtain ⟨u, hu, hbare⟩ := he
  have hstripped := Url.join_stripped (segments_addressable.mpr ha) hbare.kind
  obtain ⟨v, -, hjoin, -⟩ := hbare.join_of_stripped (segments_addressable.mpr ha)
  rw [hjoin, stripped_segments] at hstripped
  rw [machinesUrl_of_join hu hjoin, machinesUrl_of_join hu hstripped]

theorem machinesUrl_short (he : BareEndpoint endpoint)
    (ha : ¬Addressable (subscription :: group :: name.toList)) :
    ∃ url, machinesUrl endpoint subscription group name = .ok url ∧
      (PathTemplate.split url.pathText).length <
        (machineSegments subscription group name).length := by
  obtain ⟨u, hu, hbare⟩ := he
  obtain ⟨v, hjoin, -, hlt⟩ := hbare.join_short (mt segments_addressable.mp ha)
  exact ⟨_, machinesUrl_of_join hu hjoin, hlt⟩

end Azure

end CloudEmulation
