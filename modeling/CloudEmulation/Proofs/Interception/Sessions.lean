import CloudEmulation.Interception.Mocks
import CloudEmulation.Proofs.Cloud.History
/-!
Mocks that are entered, used and left in any order: which cloud answers the requests of a provider,
and what is in it.
-/

namespace CloudEmulation

/-! What a fresh cloud begins with. -/

theorem Google.Draft.connected {c : Configuration} {now : Timestamp} {project zone : String}
    {body : Json} {d : Draft} {id : String} {nics : List Nic}
    (hd : ofBody c now project zone body = .ok d) (h : c.Makes d.scope (d.record id nics)) :
    Connected 0 d.addresses nics := by
  obtain ⟨_, _, _, _, d', id', nics', hd', hc, he⟩ := h.google_draft
  have hextra : d.request.extra = d'.request.extra := congrArg Instance.metadata he
  have haddresses := (ofBody_eq_ok hd).2.2
  rw [hextra, (ofBody_eq_ok hd').2.2] at haddresses
  have hnics : nics = nics' := congrArg Instance.nics he
  rw [hnics, ← Except.ok.inj haddresses]
  exact hc

/-- Whether an entry of a cloud is the record of an instance that a configuration lists. -/
inductive SeedInstance.Recorded (config : Configuration) (now : Timestamp) :
    SeedInstance → Scope × Instance → Prop
  | google {project zone body d id nics} :
    Google.Draft.ofBody config now project zone body = .ok d →
    Google.Connected 0 d.addresses nics →
    Recorded config now (.google project zone body) (d.scope, d.record id nics)
  | azure {subscription group name body d id nic a} :
    Azure.Draft.ofBody config now subscription group name body = .ok d →
    Recorded config now (.azure subscription group name body) (d.scope, d.record id nic a)
  | oracle {body d id vnic attachment a} :
    Oracle.Draft.ofBody config now body = .ok d →
    Recorded config now (.oracle body) (d.scope, d.record id vnic attachment a)

namespace SeedInstance

variable {config : Configuration} {now : Timestamp} {s s' : CloudState}

/-- Creating a listed instance adds its record. -/
theorem added_of_create {seed : SeedInstance} (h : s.Sound config)
    (hx : (seed.create config now).exec s = (.ok (), s')) :
    ∃ scope i, seed.Recorded config now (scope, i) ∧ s.Added config scope i s' := by
  cases seed with
  | google project zone body =>
    obtain ⟨_, s₁, hx, hdone⟩ := Handler.exec_bind_eq_ok.mp hx
    cases hdone
    rcases Google.insert_cases h.pool config now project zone body with
      ⟨d, id, nics, s₂, hd, hx', ha⟩ | ⟨f, s₂, hx', -, -⟩
    · cases hx'.symm.trans hx
      exact ⟨_, _, .google hd (Google.Draft.connected hd ha.made), ha⟩
    · cases hx'.symm.trans hx
  | azure subscription group name body =>
    obtain ⟨_, s₁, hx, hdone⟩ := Handler.exec_bind_eq_ok.mp hx
    cases hdone
    rcases Azure.put_cases h.pool config now subscription group name body with
      ⟨d, id, nic, a, m, s₂, hd, hx', ha⟩ | ⟨f, s₂, hx', -, -⟩
    · cases hx'.symm.trans hx
      exact ⟨_, _, .azure hd, ha⟩
    · cases hx'.symm.trans hx
  | oracle body =>
    obtain ⟨_, s₁, hx, hdone⟩ := Handler.exec_bind_eq_ok.mp hx
    cases hdone
    rcases Oracle.launch_cases h now body with
      ⟨d, id, vnic, attachment, a, s₂, hd, hx', ha⟩ | ⟨f, s₂, hx', -⟩
    · cases hx'.symm.trans hx
      exact ⟨_, _, .oracle hd, ha⟩
    · cases hx'.symm.trans hx

theorem recorded_of_forM {seeds : List SeedInstance} (h : s.Sound config)
    (hx : (seeds.forM (create config now)).exec s = (.ok (), s')) :
    ∃ entries, s'.instances.entries = s.instances.entries ++ entries ∧
      List.Forall₂ (Recorded config now) seeds entries := by
  induction seeds generalizing s with
  | nil =>
    cases hx
    exact ⟨[], (List.append_nil _).symm, .nil⟩
  | cons seed seeds ih =>
    obtain ⟨_, s₁, hseed, hrest⟩ := Handler.exec_bind_eq_ok.mp hx
    obtain ⟨scope, i, hr, ha⟩ := added_of_create h hseed
    obtain ⟨entries, he, hall⟩ := ih (h.added ha) hrest
    refine ⟨(scope, i) :: entries, ?_, .cons hr hall⟩
    rw [he, ha.instances, Store.append, List.append_assoc, List.singleton_append]

end SeedInstance

theorem Cloud.recorded_of_fresh {config : Configuration} {now : Timestamp} {c : Cloud}
    (h : fresh config now = .ok c) :
    List.Forall₂ (SeedInstance.Recorded config now) config.seed c.state.instances.entries := by
  obtain ⟨c₀, hnew, hseed⟩ := Except.bind_eq_ok.mp h
  cases hs : c₀.seed now config.seed with
  | mk result c₁ =>
    rw [hs] at hseed
    cases result with
    | error f => cases hseed
    | ok u =>
      cases hseed
      obtain ⟨rfl, hsound, -⟩ := consistent_of_new hnew
      obtain ⟨hx, -⟩ := exec_of_seed hs
      obtain ⟨entries, he, hall⟩ := SeedInstance.recorded_of_forM hsound hx
      have hempty : c₀.state.instances.entries = [] :=
        List.map_eq_nil_iff.mp (identities_of_new hnew)
      rw [he, hempty]
      exact hall

/-! Mocks over time. -/

theorem Except.toOption_eq_some {ε α : Type} {x : Except ε α} {a : α} :
    x.toOption = some a ↔ x = .ok a := by
  cases x <;> simp [Except.toOption]

/-- Something done with mocks, at some moment. -/
inductive MockCall where
  /-- A cloud is made outside of mocks. -/
  | make (config : Configuration)
  | enter (now : Timestamp) (p : Provider) (source : MockSource)
  /-- The guard at a place among those alive is dropped. -/
  | drop (place : Nat)
  | send (now : Timestamp) (p : Provider) (r : Http.Request)
  /-- A cloud is used without a mock. -/
  | use (cloud : Nat) (now : Timestamp) (op : Operation)

/-- Mocks, with the guards alive, the clouds as they were made, and what has been done with which
cloud since. -/
structure MockSession where
  mocks : Mocks
  guards : List MockGuard
  made : List Cloud
  done : List (Nat × Timestamp × Operation)

namespace MockSession

def start : MockSession := ⟨.none, [], [], []⟩

/-- The guard of a provider, if one is alive. -/
def guard? (s : MockSession) (p : Provider) : Option MockGuard :=
  s.guards.find? (·.provider = p)

/-- What of all that has been done was done with a cloud. -/
def doneWith (done : List (Nat × Timestamp × Operation)) (cloud : Nat) :
    List (Timestamp × Operation) :=
  done.filterMap fun e => if e.1 = cloud then some e.2 else none

/-- A cloud after all that has been done with it. -/
def cloud? (s : MockSession) (cloud : Nat) : Option Cloud :=
  s.made[cloud]?.map (·.after (doneWith s.done cloud))

/-- The clouds that are made for a mock. -/
def freshFor (now : Timestamp) : MockSource → List Cloud
  | .shared _ => []
  | .fresh config => (Cloud.fresh config now).toOption.toList

/-- The cloud that a mock is to have, if it can be built. -/
def sourced? (s : MockSession) (now : Timestamp) : MockSource → Option Cloud
  | .shared cloud => s.cloud? cloud
  | .fresh config => (Cloud.fresh config now).toOption

/-- Whether a source is one that callers have: a cloud to be shared has been made. -/
def has (s : MockSession) : MockSource → Bool
  | .shared cloud => cloud < s.made.length
  | .fresh _ => true

def addClouds (s : MockSession) (clouds : List Cloud) : MockSession :=
  { s with mocks := { s.mocks with clouds := s.mocks.clouds ++ clouds }, made := s.made ++ clouds }

def make (s : MockSession) (config : Configuration) : MockSession :=
  s.addClouds (Cloud.new config).toOption.toList

def enter (s : MockSession) (now : Timestamp) (p : Provider) (source : MockSource) : MockSession :=
  let entered := s.mocks.enter now p source
  ⟨entered.2, s.guards ++ entered.1.toOption.toList, s.made ++ freshFor now source, s.done⟩

def drop (s : MockSession) (place : Nat) : MockSession :=
  match s.guards[place]? with
  | some g => { s with mocks := s.mocks.leave g, guards := s.guards.erase g }
  | none => s

def send (s : MockSession) (now : Timestamp) (p : Provider) (r : Http.Request) : MockSession :=
  let served := (s.guard? p).map fun g => (g.cloud, now, Operation.request p r)
  { s with mocks := (s.mocks.dispatch now p r).2, done := s.done ++ served.toList }

def use (s : MockSession) (cloud : Nat) (now : Timestamp) (op : Operation) : MockSession :=
  { s with
    mocks := (s.mocks.withCloud cloud (·.perform now op)).2
    done := s.done ++ [(cloud, now, op)] }

def perform (s : MockSession) : MockCall → MockSession
  | .make config => s.make config
  | .enter now p source => if s.has source then s.enter now p source else s
  | .drop place => s.drop place
  | .send now p r => s.send now p r
  | .use cloud now op => if cloud < s.made.length then s.use cloud now op else s

def after (s : MockSession) (calls : List MockCall) : MockSession := calls.foldl perform s

/-- What is kept at every moment: slots are those of the guards alive, and clouds are what became of
those that were made. -/
structure Coherent (s : MockSession) : Prop where
  clouds : s.mocks.clouds = s.made.mapIdx fun i c => c.after (doneWith s.done i)
  built : ∀ c ∈ s.made, ∃ config, Cloud.Built config c
  done : ∀ e ∈ s.done, e.1 < s.made.length
  placed : ∀ g ∈ s.guards, g.cloud < s.made.length
  apart : (s.guards.map (·.provider)).Nodup
  named : ∀ p, (s.mocks.harness p).provider = p
  tokens : ∀ g ∈ s.guards, g.token.provider = g.provider
  slots : ∀ p, (s.mocks.harness p).slot = (s.guard? p).map fun g => ⟨g.token.id, g.cloud⟩

end MockSession

namespace Mocks

variable {m : Mocks} {p q : Provider} {h : Harness Nat}

@[simp] theorem harness_setHarness : (m.setHarness p h).harness p = h := by
  cases p <;> rfl

theorem harness_setHarness_of_ne (hq : q ≠ p) : (m.setHarness p h).harness q = m.harness q := by
  cases p <;> cases q <;> first | rfl | exact absurd rfl hq

@[simp] theorem harness_withClouds (clouds : List Cloud) (p : Provider) :
    harness { m with clouds } p = m.harness p := by
  cases p <;> rfl

@[simp] theorem clouds_setHarness : (m.setHarness p h).clouds = m.clouds := by
  cases p <;> rfl

end Mocks

namespace MockSession

variable {s : MockSession} {p : Provider} {g : MockGuard} {now : Timestamp} {source : MockSource}
  {i : Nat}

theorem doneWith_concat (done : List (Nat × Timestamp × Operation))
    (e : Nat × Timestamp × Operation) : doneWith (done ++ [e]) i =
      doneWith done i ++ if e.1 = i then [e.2] else [] := by
  by_cases h : e.1 = i
  · simp [doneWith, h]
  · simp [doneWith, h]

theorem exists_cloud (hi : i < s.made.length) : ∃ c, s.cloud? i = some c :=
  ⟨_, by rw [cloud?, List.getElem?_eq_getElem hi, Option.map_some]⟩

theorem find?_eq_some_iff {guards : List MockGuard} (hn : (guards.map (·.provider)).Nodup) :
    guards.find? (·.provider = p) = some g ↔ g ∈ guards ∧ g.provider = p := by
  constructor
  · intro h
    have hp := List.find?_some h
    exact ⟨List.mem_of_find?_eq_some h, by simpa using hp⟩
  · rintro ⟨hg, rfl⟩
    cases hf : guards.find? (·.provider = g.provider) with
    | none => simpa using List.find?_eq_none.mp hf g hg
    | some g' =>
      have hm := List.mem_of_find?_eq_some hf
      have hp := List.find?_some hf
      have hp : g'.provider = g.provider := by simpa using hp
      exact congrArg some (List.inj_on_of_nodup_map hn hm hg hp)

namespace Coherent

theorem start : start.Coherent := by
  constructor
  · rfl
  · simp [MockSession.start]
  · simp [MockSession.start]
  · simp [MockSession.start]
  · simp [MockSession.start]
  · intro p
    cases p <;> rfl
  · simp [MockSession.start]
  · intro p
    cases p <;> rfl

theorem guard?_eq_some_iff (k : s.Coherent) :
    s.guard? p = some g ↔ g ∈ s.guards ∧ g.provider = p := find?_eq_some_iff k.apart

theorem find?_erase (k : s.Coherent) (hg : g ∈ s.guards) (p : Provider) :
    (s.guards.erase g).find? (·.provider = p) = if p = g.provider then none else s.guard? p := by
  have hn : s.guards.Nodup := k.apart.of_map
  split
  · rename_i hp
    refine List.find?_eq_none.mpr fun g' hg' => ?_
    obtain ⟨hne, hmem⟩ := hn.mem_erase_iff.mp hg'
    intro hp'
    exact hne (List.inj_on_of_nodup_map k.apart hmem hg ((of_decide_eq_true hp').trans hp))
  · rename_i hp
    refine Option.ext fun g' => ?_
    rw [find?_eq_some_iff (k.apart.sublist (List.erase_sublist.map _)), k.guard?_eq_some_iff,
      hn.mem_erase_iff]
    constructor
    · exact fun h => ⟨h.1.2, h.2⟩
    · rintro ⟨hmem, rfl⟩
      refine ⟨⟨?_, hmem⟩, rfl⟩
      rintro rfl
      exact hp rfl

theorem getElem?_clouds (k : s.Coherent) (i : Nat) : s.mocks.clouds[i]? = s.cloud? i := by
  rw [k.clouds, List.getElem?_mapIdx]
  rfl

theorem length_clouds (k : s.Coherent) : s.mocks.clouds.length = s.made.length := by
  rw [k.clouds, List.length_mapIdx]

theorem doneWith_eq_nil (k : s.Coherent) (h : s.made.length ≤ i) : doneWith s.done i = [] := by
  refine List.filterMap_eq_nil_iff.mpr fun e he => if_neg ?_
  have hlt := k.done e he
  omega

theorem addClouds (k : s.Coherent) {clouds : List Cloud}
    (h : ∀ c ∈ clouds, ∃ config, Cloud.Built config c) : (s.addClouds clouds).Coherent where
  clouds := by
    refine List.ext_getElem? fun i => ?_
    show (s.mocks.clouds ++ clouds)[i]? =
      ((s.made ++ clouds).mapIdx fun i c => c.after (doneWith s.done i))[i]?
    rw [List.getElem?_mapIdx, List.getElem?_append, List.getElem?_append, k.length_clouds]
    split
    · exact k.getElem?_clouds i
    · -- Nothing has been done with the clouds that are new.
      rename_i hge
      rw [k.doneWith_eq_nil (Nat.le_of_not_lt hge)]
      simp [Cloud.after]
  built c hc := by
    rcases List.mem_append.mp hc with hc | hc
    · exact k.built c hc
    · exact h c hc
  done e he := Nat.lt_of_lt_of_le (k.done e he) (by simp [MockSession.addClouds])
  placed g hg := Nat.lt_of_lt_of_le (k.placed g hg) (by simp [MockSession.addClouds])
  apart := k.apart
  named p := by
    rw [MockSession.addClouds, Mocks.harness_withClouds, k.named]
  tokens := k.tokens
  slots p := by
    rw [MockSession.addClouds, Mocks.harness_withClouds, k.slots]
    rfl

theorem provider_ne_of_unguarded (k : s.Coherent) (hnone : s.guard? p = none) (hg : g ∈ s.guards) :
    g.provider ≠ p := by
  intro he
  rw [k.guard?_eq_some_iff.mpr ⟨hg, he⟩] at hnone
  cases hnone

/-- A provider whose slot is empty gets a guard. -/
theorem addGuard (k : s.Coherent) (hnone : s.guard? p = none) (hi : i < s.made.length) (n m : Nat) :
    Coherent { s with
      mocks := s.mocks.setHarness p ⟨p, some ⟨n, i⟩, m⟩
      guards := s.guards ++ [⟨p, i, ⟨p, n⟩⟩] } where
  clouds := by rw [Mocks.clouds_setHarness, k.clouds]
  built := k.built
  done := k.done
  placed := List.forall_mem_append.mpr ⟨k.placed, List.forall_mem_singleton.mpr hi⟩
  apart := by
    rw [List.map_append, List.map_singleton]
    refine List.nodup_append.mpr ⟨k.apart, List.nodup_singleton _, ?_⟩
    rintro _ hq q hp rfl
    obtain ⟨g, hg, he⟩ := List.mem_map.mp hq
    exact k.provider_ne_of_unguarded hnone hg (he.trans (List.mem_singleton.mp hp))
  named q := by
    by_cases hq : q = p
    · rw [hq, Mocks.harness_setHarness]
    · rw [Mocks.harness_setHarness_of_ne hq, k.named]
  tokens := List.forall_mem_append.mpr ⟨k.tokens, List.forall_mem_singleton.mpr rfl⟩
  slots q := by
    have hfind : guard? { s with
        mocks := s.mocks.setHarness p ⟨p, some ⟨n, i⟩, m⟩
        guards := s.guards ++ [⟨p, i, ⟨p, n⟩⟩] } q =
          (s.guard? q).or (if p = q then some ⟨p, i, ⟨p, n⟩⟩ else none) := by
      simp [guard?, List.find?_append, List.find?_singleton]
    rw [hfind]
    by_cases hq : q = p
    · subst hq
      simp [hnone]
    · rw [Mocks.harness_setHarness_of_ne hq, if_neg (Ne.symm hq), Option.or_none, k.slots]

/-- Of the guard that is dropped nothing stays, and nothing else is lost. -/
theorem leave (k : s.Coherent) (hg : g ∈ s.guards) :
    s.mocks.leave g = s.mocks.setHarness g.provider
      { s.mocks.harness g.provider with slot := none } := by
  have hslot := k.slots g.provider
  rw [k.guard?_eq_some_iff.mpr ⟨hg, rfl⟩] at hslot
  have haccepts : (s.mocks.harness g.provider).accepts g.token = true := by
    simp [Harness.accepts, hslot, k.tokens g hg, k.named]
  rw [Mocks.leave, Harness.deactivate, if_pos haccepts]

theorem drop (k : s.Coherent) (place : Nat) : (s.drop place).Coherent := by
  unfold MockSession.drop
  cases hplace : s.guards[place]? with
  | none => exact k
  | some g =>
    have hg := List.mem_of_getElem? hplace
    have hmem : ∀ g' ∈ s.guards.erase g, g' ∈ s.guards := fun g' => List.mem_of_mem_erase
    have hapart : ((s.guards.erase g).map (·.provider)).Nodup :=
      k.apart.sublist (List.erase_sublist.map _)
    simp only [k.leave hg]
    constructor
    · rw [Mocks.clouds_setHarness, k.clouds]
    · exact k.built
    · exact k.done
    · exact fun g' hg' => k.placed g' (hmem g' hg')
    · exact hapart
    · intro q
      by_cases hq : q = g.provider
      · rw [hq, Mocks.harness_setHarness, k.named]
      · rw [Mocks.harness_setHarness_of_ne hq, k.named]
    · exact fun g' hg' => k.tokens g' (hmem g' hg')
    · intro q
      show _ = Option.map _ ((s.guards.erase g).find? (·.provider = q))
      rw [k.find?_erase hg]
      by_cases hq : q = g.provider
      · rw [if_pos hq, hq, Mocks.harness_setHarness, Option.map_none]
      · rw [if_neg hq, Mocks.harness_setHarness_of_ne hq, k.slots]

/-- Something is done with a cloud, and written down. -/
theorem record (k : s.Coherent) {c : Cloud} (hc : s.cloud? i = some c) (now : Timestamp)
    (op : Operation) :
    Coherent { s with
      mocks := { s.mocks with clouds := s.mocks.clouds.set i (c.perform now op).2 }
      done := s.done ++ [(i, now, op)] } := by
  obtain ⟨c₀, hmade, rfl⟩ := Option.map_eq_some_iff.mp hc
  obtain ⟨hi, rfl⟩ := List.getElem?_eq_some_iff.mp hmade
  constructor
  · refine List.ext_getElem? fun j => ?_
    rw [List.getElem?_mapIdx, List.getElem?_set, k.length_clouds, k.getElem?_clouds,
      doneWith_concat]
    by_cases hj : i = j
    · subst hj
      simp [hi, Cloud.after_append, Cloud.after]
    · simp [hj, cloud?]
  · exact k.built
  · intro e he
    rcases List.mem_append.mp he with he | he
    · exact k.done e he
    · rw [List.mem_singleton.mp he]
      exact hi
  · exact k.placed
  · exact k.apart
  · intro p
    rw [Mocks.harness_withClouds, k.named]
  · exact k.tokens
  · intro p
    rw [Mocks.harness_withClouds, k.slots]
    rfl

theorem activate_cases (k : s.Coherent) (p : Provider) (i : Nat) :
    (s.guard? p ≠ none ∧ (s.mocks.harness p).activate i =
      (.error (.alreadyActive p), s.mocks.harness p)) ∨
    (s.guard? p = none ∧ ∃ n, (s.mocks.harness p).activate i =
      (.ok ⟨p, n⟩, ⟨p, some ⟨n, i⟩, n + 1⟩)) := by
  have hslot := k.slots p
  have hname := k.named p
  unfold Harness.activate
  rw [hslot, hname]
  cases hg : s.guard? p with
  | some g => exact .inl ⟨Option.some_ne_none g, rfl⟩
  | none => exact .inr ⟨rfl, (s.mocks.harness p).next, by simp⟩

/-- A mock is entered if its cloud can be built and its provider has no guard; what it has then is
the cloud from its source. -/
theorem enter_cases (k : s.Coherent) (hs : s.has source = true) (now : Timestamp) (p : Provider) :
    (s.sourced? now source = none ∧ freshFor now source = [] ∧
      ∃ f, s.mocks.enter now p source = (.error f, s.mocks)) ∨
    ∃ c i, s.sourced? now source = some c ∧
      (s.addClouds (freshFor now source)).mocks.clouds[i]? = some c ∧
      ((s.guard? p ≠ none ∧ s.mocks.enter now p source =
        (.error (.alreadyActive p), (s.addClouds (freshFor now source)).mocks)) ∨
      (s.guard? p = none ∧ ∃ n, s.mocks.enter now p source = (.ok ⟨p, i, ⟨p, n⟩⟩,
        (s.addClouds (freshFor now source)).mocks.setHarness p ⟨p, some ⟨n, i⟩, n + 1⟩))) := by
  cases source with
  | shared i =>
    right
    obtain ⟨c, hc⟩ := exists_cloud (of_decide_eq_true hs)
    have hnone : s.addClouds (freshFor now (.shared i)) = s := by
      simp [freshFor, MockSession.addClouds]
    rw [hnone]
    refine ⟨c, i, hc, by rw [k.getElem?_clouds, hc], ?_⟩
    rcases k.activate_cases p i with ⟨hg, ha⟩ | ⟨hg, n, ha⟩
    · exact .inl ⟨hg, by simp only [Mocks.enter, Mocks.source, ha]⟩
    · exact .inr ⟨hg, n, by simp only [Mocks.enter, Mocks.source, ha]⟩
  -- A cloud of its own is made before the slot is asked for, so it stays where that is taken.
  | fresh config =>
    cases hf : Cloud.fresh config now with
    | error f =>
      exact .inl ⟨by simp [sourced?, hf, Except.toOption], by simp [freshFor, hf, Except.toOption],
        f, by simp only [Mocks.enter, Mocks.source, Mocks.create, hf]⟩
    | ok c =>
      right
      have hnew : freshFor now (.fresh config) = [c] := by simp [freshFor, hf, Except.toOption]
      rw [hnew]
      refine ⟨c, s.mocks.clouds.length, by simp [sourced?, hf, Except.toOption],
        by simp [MockSession.addClouds], ?_⟩
      rcases k.activate_cases p s.mocks.clouds.length with ⟨hg, ha⟩ | ⟨hg, n, ha⟩
      · refine .inl ⟨hg, ?_⟩
        simp only [Mocks.enter, Mocks.source, Mocks.create, hf, Mocks.addCloud,
          Mocks.harness_withClouds, ha]
        rfl
      · refine .inr ⟨hg, n, ?_⟩
        simp only [Mocks.enter, Mocks.source, Mocks.create, hf, Mocks.addCloud,
          Mocks.harness_withClouds, ha]
        rfl

theorem addFresh (k : s.Coherent) (now : Timestamp) (source : MockSource) :
    (s.addClouds (freshFor now source)).Coherent := by
  refine k.addClouds ?_
  intro c hc
  cases source with
  | shared i => exact absurd hc List.not_mem_nil
  | fresh config => exact ⟨config, .fresh (Except.toOption_eq_some.mp (Option.mem_toList.mp hc))⟩

theorem enter (k : s.Coherent) (hs : s.has source = true) (now : Timestamp) (p : Provider) :
    (s.enter now p source).Coherent := by
  have k' := k.addFresh now source
  unfold MockSession.enter
  rcases k.enter_cases hs now p with ⟨-, hnew, f, he⟩ | ⟨c, i, -, hi, h⟩
  · rw [he, hnew]
    simpa [Except.toOption] using k
  · rcases h with ⟨-, he⟩ | ⟨hg, n, he⟩
    · rw [he]
      show Coherent ⟨_, s.guards ++ [], _, _⟩
      rw [List.append_nil]
      exact k'
    · rw [he]
      have hlt : i < (s.addClouds (freshFor now source)).made.length := by
        rw [← k'.length_clouds]
        exact (List.getElem?_eq_some_iff.mp hi).1
      exact k'.addGuard hg hlt n (n + 1)

theorem dispatch_eq (k : s.Coherent) (now : Timestamp) (p : Provider) (r : Http.Request) :
    s.mocks.dispatch now p r = match s.guard? p with
      | none => (none, s.mocks)
      | some g => s.mocks.withCloud g.cloud (·.respond p now r) := by
  have hcurrent : (s.mocks.harness p).current? = (s.guard? p).map (·.cloud) := by
    rw [Harness.current?, k.slots, Option.map_map]
    rfl
  rw [Mocks.dispatch, hcurrent]
  cases s.guard? p <;> rfl

theorem send (k : s.Coherent) (now : Timestamp) (p : Provider) (r : Http.Request) :
    (s.send now p r).Coherent := by
  unfold MockSession.send
  rw [k.dispatch_eq]
  cases hg : s.guard? p with
  | none => simpa using k
  | some g =>
    obtain ⟨c, hc⟩ := exists_cloud (k.placed g (k.guard?_eq_some_iff.mp hg).1)
    have hcloud := k.getElem?_clouds g.cloud
    rw [hc] at hcloud
    have k' := k.record hc now (.request p r)
    simp only [Mocks.withCloud, hcloud]
    exact k'

theorem use (k : s.Coherent) (hi : i < s.made.length) (now : Timestamp) (op : Operation) :
    (s.use i now op).Coherent := by
  obtain ⟨c, hc⟩ := exists_cloud hi
  have hcloud := k.getElem?_clouds i
  rw [hc] at hcloud
  have k' := k.record hc now op
  unfold MockSession.use
  simp only [Mocks.withCloud, hcloud]
  exact k'

theorem make (k : s.Coherent) (config : Configuration) : (s.make config).Coherent := by
  refine k.addClouds ?_
  intro c hc
  exact ⟨config, .new (Except.toOption_eq_some.mp (Option.mem_toList.mp hc))⟩

theorem perform (k : s.Coherent) (call : MockCall) : (s.perform call).Coherent := by
  cases call with
  | make config => exact k.make config
  | enter now p source =>
    simp only [MockSession.perform]
    split
    · rename_i hs
      exact k.enter hs now p
    · exact k
  | drop place => exact k.drop place
  | send now p r => exact k.send now p r
  | use i now op =>
    simp only [MockSession.perform]
    split
    · rename_i hi
      exact k.use hi now op
    · exact k

theorem after (k : s.Coherent) (calls : List MockCall) : (s.after calls).Coherent := by
  induction calls generalizing s with
  | nil => exact k
  | cons call calls ih => exact ih (k.perform call)

theorem entered_iff (k : s.Coherent) (hs : s.has source = true) :
    (∃ g m, s.mocks.enter now p source = (.ok g, m)) ↔
      s.sourced? now source ≠ none ∧ s.guard? p = none := by
  rcases k.enter_cases hs now p with ⟨hc, -, f, he⟩ | ⟨c, i, hc, -, ⟨hg, he⟩ | ⟨hg, n, he⟩⟩
  · simp [he, hc]
  · simp [he, hg]
  · simp [he, hc, hg]

theorem slots_of_refused (k : s.Coherent) (hs : s.has source = true) (f : Fault) (m : Mocks)
    (h : s.mocks.enter now p source = (.error f, m)) : m.harness = s.mocks.harness := by
  funext q
  rcases k.enter_cases hs now p with ⟨-, -, f', he⟩ | ⟨c, i, -, -, ⟨-, he⟩ | ⟨-, n, he⟩⟩
  · cases he.symm.trans h
    rfl
  · cases he.symm.trans h
    rw [MockSession.addClouds, Mocks.harness_withClouds]
  · cases he.symm.trans h

theorem slots_of_entered (k : s.Coherent) (hs : s.has source = true) (g : MockGuard) (m : Mocks)
    (h : s.mocks.enter now p source = (.ok g, m)) :
    g.provider = p ∧ m.clouds[g.cloud]? = s.sourced? now source ∧
      ∀ q, q ≠ p → m.harness q = s.mocks.harness q := by
  rcases k.enter_cases hs now p with ⟨-, -, f, he⟩ | ⟨c, i, hc, hi, ⟨-, he⟩ | ⟨-, n, he⟩⟩
  · cases he.symm.trans h
  · cases he.symm.trans h
  · cases he.symm.trans h
    refine ⟨rfl, ?_, ?_⟩
    · rw [Mocks.clouds_setHarness, hi, hc]
    · intro q hq
      rw [Mocks.harness_setHarness_of_ne hq, MockSession.addClouds, Mocks.harness_withClouds]

theorem answer_of_dispatch (k : s.Coherent) (now : Timestamp) (p : Provider) (r : Http.Request) :
    match s.guard? p with
    | none => s.mocks.dispatch now p r = (none, s.mocks)
    | some g => ∃ c, s.cloud? g.cloud = some c ∧
      (s.mocks.dispatch now p r).1 = some (c.respond p now r).1 := by
  rw [k.dispatch_eq]
  cases hg : s.guard? p with
  | none => rfl
  | some g =>
    obtain ⟨c, hc⟩ := exists_cloud (k.placed g (k.guard?_eq_some_iff.mp hg).1)
    have hcloud := k.getElem?_clouds g.cloud
    rw [hc] at hcloud
    exact ⟨c, hc, by simp only [Mocks.withCloud, hcloud]⟩

end Coherent

end MockSession

/-- However mocks are entered, used and left: a mock is entered just where its cloud can be built and
its provider has no guard, and no slot changes where it is not; a request is answered by the cloud of
its provider's guard, or by no mock if there is none; dropping a guard frees its provider's slot
alone. A fresh cloud begins with the instances that its configuration lists, and a shared one is what
everything that was done with it has made of it. -/
theorem mocks_answer_while_guarded (calls : List MockCall) :
    let s := MockSession.start.after calls
    (s.guards.map (·.provider)).Nodup ∧
    (∀ i, s.mocks.clouds[i]? = s.cloud? i) ∧
    (∀ now p source, s.has source = true →
      ((∃ g m, s.mocks.enter now p source = (.ok g, m)) ↔
        s.sourced? now source ≠ none ∧ s.guard? p = none) ∧
      (∀ f m, s.mocks.enter now p source = (.error f, m) → m.harness = s.mocks.harness) ∧
      ∀ g m, s.mocks.enter now p source = (.ok g, m) →
        g.provider = p ∧ m.clouds[g.cloud]? = s.sourced? now source ∧
        ∀ q, q ≠ p → m.harness q = s.mocks.harness q) ∧
    (∀ now p r, match s.guard? p with
      | none => s.mocks.dispatch now p r = (none, s.mocks)
      | some g => ∃ c, s.cloud? g.cloud = some c ∧
        (s.mocks.dispatch now p r).1 = some (c.respond p now r).1) ∧
    (∀ g ∈ s.guards, ((s.mocks.leave g).harness g.provider).current? = none ∧
      (s.mocks.leave g).clouds = s.mocks.clouds ∧
      ∀ q, q ≠ g.provider → (s.mocks.leave g).harness q = s.mocks.harness q) ∧
    (∀ now config c, s.sourced? now (.fresh config) = some c →
      List.Forall₂ (SeedInstance.Recorded config now) config.seed c.state.instances.entries) ∧
    ∀ i c, s.made[i]? = some c → ∃ c', s.cloud? i = some c' ∧
      c'.state.identities = c.state.identities ++ c.accepted (MockSession.doneWith s.done i) := by
  intro s
  -- Guards, slots and clouds fit together after any calls; each part reads that off.
  have k : s.Coherent := MockSession.Coherent.start.after calls
  refine ⟨k.apart, k.getElem?_clouds, ?_, ?_, ?_, ?_, ?_⟩
  · intro now p source hs
    exact ⟨k.entered_iff hs, k.slots_of_refused hs, k.slots_of_entered hs⟩
  · exact fun now p r => k.answer_of_dispatch now p r
  · intro g hg
    rw [k.leave hg]
    refine ⟨by simp [Harness.current?], Mocks.clouds_setHarness, ?_⟩
    exact fun q hq => Mocks.harness_setHarness_of_ne hq
  · intro now config c hc
    apply Cloud.recorded_of_fresh
    exact Except.toOption_eq_some.mp hc
  · intro i c hc
    obtain ⟨config, hb⟩ := k.built c (List.mem_of_getElem? hc)
    refine ⟨_, by rw [MockSession.cloud?, hc, Option.map_some], ?_⟩
    exact hb.consistent.identities_after _

/-- Of two mocks of one cloud one is left: its provider can be mocked again, the other cannot. -/
theorem entered_after_drop :
    let s := MockSession.start.after [.enter ⟨0, 0⟩ .google (.fresh .standard),
      .enter ⟨1, 0⟩ .azure (.shared 0), .drop 0]
    (∃ g m, s.mocks.enter ⟨3, 0⟩ .google (.shared 0) = (.ok g, m)) ∧
      ¬∃ g m, s.mocks.enter ⟨3, 0⟩ .azure (.shared 0) = (.ok g, m) := by
  intro s
  have hs : s.has (.shared 0) = true := by decide +kernel
  have hc : (s.sourced? ⟨3, 0⟩ (.shared 0)).isSome = true := by decide +kernel
  have hgoogle : s.guard? .google = none := by decide +kernel
  have hazure : s.guard? .azure ≠ none := by decide +kernel
  obtain ⟨-, -, hentered, -⟩ := mocks_answer_while_guarded
    [.enter ⟨0, 0⟩ .google (.fresh .standard), .enter ⟨1, 0⟩ .azure (.shared 0), .drop 0]
  constructor
  · refine (hentered ⟨3, 0⟩ .google _ hs).1.mpr ⟨?_, hgoogle⟩
    exact Option.isSome_iff_ne_none.mp hc
  · intro h
    exact hazure ((hentered ⟨3, 0⟩ .azure _ hs).1.mp h).2

end CloudEmulation
