import CloudEmulation.Proofs.Cloud.Addresses
import CloudEmulation.Proofs.Concurrency.Conflicts
import Mathlib.Data.Finset.Dedup
import Mathlib.Data.Fintype.Basic
/-!
Requests that emulators of one cloud handle at once. They are answered and leave the cloud as if
they had been handled one after another.
-/

namespace CloudEmulation

variable {ι : Type} {c : Configuration} {s : CloudState} {b : Batch ι} {times : ι → Timestamp}
  {crew crew₁ : Crew ι Http.Response} {answers : ι → Http.Response} {order : List ι} {scope : Scope}
  {id : String} {i j : ι}

namespace Verdict

variable {v : Verdict} {a a' : Http.Response}

theorem exists_admits (a : Http.Response) : ∃ v : Verdict, v.Admits a := ⟨.plain a, rfl⟩

/-- A verdict settles the status, and unless that tells of success also the body. -/
theorem comparable_of_admits (h : v.Admits a) (h' : v.Admits a') : a.Comparable a' := by
  cases v with
  | plain answer =>
    rw [show a = answer from h, show a' = answer from h']
    exact .refl _
  | operation now project zone target =>
    obtain ⟨_, _, rfl⟩ := h
    obtain ⟨_, _, rfl⟩ := h'
    exact .json rfl _ _
  | numbered status body further =>
    obtain ⟨_, rfl⟩ := h
    obtain ⟨_, rfl⟩ := h'
    exact ⟨rfl, fun _ => rfl⟩

end Verdict

/-- Whether responses have the same verdict: they differ at most in the identifiers of an operation
and of the request. -/
def Http.Response.Agrees (a a' : Http.Response) : Prop := ∃ v : Verdict, v.Admits a ∧ v.Admits a'

theorem Http.Response.Agrees.comparable {a a' : Http.Response} (h : a.Agrees a') :
    a.Comparable a' := by
  obtain ⟨v, hv, hv'⟩ := h
  exact Verdict.comparable_of_admits hv hv'

namespace Batch

theorem serves (b : Batch ι) (c : Configuration) (times : ι → Timestamp) (i : ι) :
    (b.programs c times i).Serves c Verdict.Admits :=
  (b.provider i).respond_serves c (times i) (b.request i)

end Batch

section Creating

variable {seed : ι → Generator → Generator} {e : ι × Generator × Http.Response}

theorem Batch.accepted_of_chosen (h : b.chosen? e.1 = some (scope, id))
    (hs : e.2.2.isSuccess = true) : b.accepted? e = some (scope, id) :=
  (Provider.chosen_iff hs (Provider.not_oracle_of_chosen h)).mp h

theorem Batch.chosen_of_accepted (h : b.accepted? e = some (scope, id))
    (hc : b.chosen? i = some (scope, id)) : b.chosen? e.1 = some (scope, id) := by
  refine (Provider.chosen_iff (Provider.exists_create h).1 ?_).mpr h
  have hp : scope.provider = b.provider e.1 := Provider.provider_of_accepted h
  have hp' : scope.provider = b.provider i := Provider.provider_of_chosen hc
  rw [← hp, hp']
  exact Provider.not_oracle_of_chosen hc

/-- Of requests that choose one identity at most one succeeds, and only where it is new. One does
where it is new and another one is refused for it. -/
theorem Batch.creates_once (hs : s.Sound c) (hall : ∀ i, i ∈ order) (scope : Scope) (id : String)
    (ha : ∀ e ∈ (serve (b.programs c times) seed order s).1, (answers e.1).status = e.2.2.status) :
    (∀ i j, b.chosen? i = some (scope, id) → b.chosen? j = some (scope, id) →
      (answers i).isSuccess = true → (answers j).isSuccess = true → i = j) ∧
    (∀ i, b.chosen? i = some (scope, id) → (answers i).isSuccess = true →
      s.instances.has scope id = false) ∧
    ∀ i, b.chosen? i = some (scope, id) → (answers i).status = 409 →
      s.instances.has scope id = true ∨
        ∃ j, b.chosen? j = some (scope, id) ∧ (answers j).isSuccess = true := by
  -- No program is left out of the order, so every answer has its entry in it.
  have hentry (i : ι) : ∃ e ∈ (serve (b.programs c times) seed order s).1, e.1 = i := by
    have hi := hall i
    rw [← map_serve (b.programs c times) seed order s] at hi
    exact List.mem_map.mp hi
  have hsuccess : ∀ e ∈ (serve (b.programs c times) seed order s).1,
      (answers e.1).isSuccess = e.2.2.isSuccess := fun e he => by
    rw [Http.Response.isSuccess, ha e he]
    rfl
  refine ⟨?_, ?_, ?_⟩
  · intro i j hi hj hsi hsj
    obtain ⟨e, he, rfl⟩ := hentry i
    obtain ⟨e', he', rfl⟩ := hentry j
    have hae := accepted_of_chosen hi ((hsuccess e he).symm.trans hsi)
    have hae' := accepted_of_chosen hj ((hsuccess e' he').symm.trans hsj)
    exact congrArg Prod.fst (accepted_once hs he he' hae hae')
  · intro i hi hsi
    obtain ⟨e, he, rfl⟩ := hentry i
    exact vacant_of_accepted hs he (accepted_of_chosen hi ((hsuccess e he).symm.trans hsi))
  · intro i hi h409
    obtain ⟨e, he, rfl⟩ := hentry i
    refine (exists_of_conflict hs he hi ((ha e he).symm.trans h409)).imp_right ?_
    rintro ⟨e', he', hae'⟩
    refine ⟨e'.1, chosen_of_accepted hae' hi, ?_⟩
    exact (hsuccess e' he').trans (Provider.exists_create hae').1

end Creating

namespace Batch

variable [DecidableEq ι]

theorem tracks (hs : s.Sound c) (h : (Crew.waiting (b.programs c times) s).Reaches crew) :
    ∃ v, crew.Tracks c Verdict.Admits (b.programs c times) s v :=
  (Crew.Tracks.start hs fun _ => .plain ⟨0, [], none⟩).reaches (b.serves c times) h

omit [DecidableEq ι] in
/-- The identifiers generated for requests at once, each from what its first section found. -/
def generatedBy (b : Batch ι) (c : Configuration) (times : ι → Timestamp)
    (crew : Crew ι Http.Response) (order : List ι) : List String :=
  order.flatMap fun i => ((crew.source i).map (b.ocids c times i)).getD []

theorem generated_serve (hs : s.Sound c)
    (h : (Crew.waiting (b.programs c times) s).Reaches crew) (hf : crew.Finished answers)
    (order : List ι) (t : CloudState) :
    b.generated c times (serve (b.programs c times) crew.seed order t).1 =
      b.generatedBy c times crew order := by
  obtain ⟨v, k⟩ := b.tracks hs h
  induction order generalizing t with
  | nil => rfl
  | cons i rest ih =>
    have hrest := ih ((b.programs c times i).run
      { t with generator := crew.seed i t.generator }).2
    simp only [generated, generatedBy] at hrest
    simp only [serve, generated, generatedBy, List.flatMap_cons, hrest]
    congr 1
    cases hsource : crew.source i with
    | none =>
      have hdone := (k.waiting i hsource).symm.trans (hf i)
      exact Provider.ocids_of_done hdone _
    | some g => simp [Crew.seed, hsource]

/-- Whether identifiers that are generated for requests coincide with no others, and no request asks
for anything by what is generated. -/
structure Indifferent (b : Batch ι) (c : Configuration) (s : CloudState) (ids : List String) :
    Prop where
  apart : s.Apart ids
  impartial : ∀ i, (b.provider i).Impartial c (b.request i)
  unnamed : ∀ i, ∀ x ∈ b.named i, x ∉ ids

omit [DecidableEq ι] in
/-- Requests that ask for nothing by what is generated are answered alike at other times and with
other identifiers, and leave alike instances. -/
theorem rerun_of_indifferent {times' : ι → Timestamp} {seed seed' : ι → Generator → Generator}
    (hs : s.Sound c)
    (h : b.Indifferent c s
      (b.generated c times (serve (b.programs c times) seed order s).1))
    (h' : b.Indifferent c s
      (b.generated c times' (serve (b.programs c times') seed' order s).1)) :
    (∀ e' ∈ (serve (b.programs c times') seed' order s).1,
      ∃ e ∈ (serve (b.programs c times) seed order s).1, e.1 = e'.1 ∧ e.2.2.Comparable e'.2.2) ∧
    (serve (b.programs c times) seed order s).2.Twins c
      (serve (b.programs c times') seed' order s).2 := by
  obtain ⟨hanswers, htwins⟩ := b.rerun (.refl hs) (.refl hs) (.refl hs)
    (fun i _ => h.impartial i) h.apart h'.apart
    (fun i _ x hx => ⟨h.unnamed i x hx, h'.unnamed i x hx⟩)
  refine ⟨fun e' he' => ?_, htwins⟩
  obtain ⟨n, hn, rfl⟩ := List.mem_iff_getElem.mp he'
  rw [List.forall₂_iff_get] at hanswers
  have hn' := hanswers.1 ▸ hn
  exact ⟨_, List.getElem_mem hn', hanswers.2 n hn' hn⟩

end Batch

/-- Whether a request asks Oracle for an instance, or for an interface of it, by its identifier. -/
def Oracle.Seeks (r : Http.Request) (i : Instance) : Prop :=
  (∃ params, Provider.oracle.Routed r .get "instances" params ∧
    params.get? "instanceId" = some i.identity) ∨
  ∃ params, Provider.oracle.Routed r .get "vnics" params ∧
    ∃ nic ∈ i.nics, params.get? "vnicId" = some nic.id

theorem Oracle.Seeks.settled {r : Http.Request} {inst : Instance} {compartment : String}
    (h : Oracle.Seeks r inst) (hs : s.Sound c)
    (hi : inst ∈ s.instances.list (.oracle compartment)) (now : Timestamp) : ∃ body,
    ((Provider.oracle.emulator c).respond now r).Settled c
      (Verdict.numbered 200 body []).Admits s := by
  rcases h with ⟨params, hr, hx⟩ | ⟨params, hr, nic, hn, hx⟩
  · obtain ⟨body, hset⟩ : ∃ body, Handler.Settled c (.ok (.numbered 200 body []))
        (getInstance c (r.call params now)) s := getInstance_settled hs hx hi
    refine ⟨body, Provider.respond_settled hs ?_⟩
    rw [hr.handle]
    exact hset
  · obtain ⟨body, hset⟩ : ∃ body, Handler.Settled c (.ok (.numbered 200 body []))
        (getVnic (r.call params now)) s := getVnic_settled hs hx hi hn
    refine ⟨body, Provider.respond_settled hs ?_⟩
    rw [hr.handle]
    exact hset

namespace Batch

variable [DecidableEq ι]

/-- What was recorded before a request for it began is found, whatever comes between. -/
theorem seek_succeeds (hs : s.Sound c)
    (h₁ : (Crew.waiting (b.programs c times) s).Reaches crew₁) (h : crew₁.Reaches crew)
    (hf : crew.Finished answers) (hj : crew₁.source j = none) (hp : b.provider j = .oracle)
    {compartment : String} {inst : Instance}
    (hi : inst ∈ crew₁.state.instances.list (.oracle compartment))
    (hr : Oracle.Seeks (b.request j) inst) : (answers j).isSuccess = true := by
  obtain ⟨v, k⟩ := b.tracks hs h₁
  obtain ⟨body, hset⟩ := hr.settled k.sound hi (times j)
  have hprogram : crew₁.programs j =
      (Provider.oracle.emulator c).respond (times j) (b.request j) := by
    rw [k.waiting j hj, programs, hp]
  rw [← hprogram] at hset
  have hend := k.settled_reaches (b.serves c times) h hset
  rw [hf j] at hend
  obtain ⟨_, he⟩ := hend
  rw [he]
  rfl

end Batch

/-- Whether an order of all programs has those that touched something as they first did. -/
structure Crew.InOrder (crew : Crew ι Http.Response) (order : List ι) : Prop where
  touched : crew.touched.Sublist order
  nodup : order.Nodup
  complete : ∀ i, i ∈ order

variable [DecidableEq ι]

theorem Crew.exists_inOrder [Fintype ι] {crew : Crew ι Http.Response} (h : crew.touched.Nodup) :
    ∃ order, crew.InOrder order := by
  refine ⟨crew.touched ++ (Finset.univ.filter (· ∉ crew.touched)).toList, ?_, ?_, ?_⟩
  · exact List.sublist_append_left _ _
  · refine List.nodup_append.mpr ⟨h, Finset.nodup_toList _, ?_⟩
    rintro a ha b hb rfl
    simp only [Finset.mem_toList, Finset.mem_filter] at hb
    exact hb.2 ha
  · intro i
    by_cases hi : i ∈ crew.touched
    · exact List.mem_append_left _ hi
    · exact List.mem_append_right _ (by simp [hi])

/-- Requests that emulators of one cloud handle at once are answered, and leave the cloud, as if
they were handled one after another in the order in which they first read or write its stores: from
the generators that they find, and but for what is generated from any others. Of requests that choose
one identity one succeeds at most, and one does where the identity is new and one is refused for it.
What was recorded before a request for it began is found. -/
theorem requests_serializable [Fintype ι] {cloud : Cloud} (hreach : Cloud.Reachable c cloud)
    (b : Batch ι) (times : ι → Timestamp)
    (h : (Crew.waiting (b.programs c times) cloud.state).Reaches crew)
    (hf : crew.Finished answers) :
    (∃ order, crew.InOrder order) ∧
    (∀ order, crew.InOrder order →
      ((∀ e ∈ (serve (b.programs c times) crew.seed order cloud.state).1,
          (answers e.1).Agrees e.2.2) ∧
        (serve (b.programs c times) crew.seed order cloud.state).2.Redrawn crew.state) ∧
      ∀ (times' : ι → Timestamp) (seed : ι → Generator → Generator),
        let rerun := serve (b.programs c times') seed order cloud.state
        b.Indifferent c cloud.state (b.generatedBy c times crew order) →
        b.Indifferent c cloud.state (b.generated c times' rerun.1) →
        (∀ e ∈ rerun.1, (answers e.1).Comparable e.2.2) ∧
        ∀ scope, (crew.state.instances.list scope).map scope.bare =
          (rerun.2.instances.list scope).map scope.bare) ∧
    (∀ scope id,
      (∀ i j, b.chosen? i = some (scope, id) → b.chosen? j = some (scope, id) →
        (answers i).isSuccess = true → (answers j).isSuccess = true → i = j) ∧
      (∀ i, b.chosen? i = some (scope, id) → (answers i).isSuccess = true →
        cloud.state.instances.has scope id = false) ∧
      (cloud.state.instances.has scope id = false →
        (∃ i, b.chosen? i = some (scope, id) ∧
          ((answers i).isSuccess = true ∨ (answers i).status = 409)) →
        ∃! i, b.chosen? i = some (scope, id) ∧ (answers i).isSuccess = true)) ∧
    (∀ crew₁ : Crew ι Http.Response,
      (Crew.waiting (b.programs c times) cloud.state).Reaches crew₁ → crew₁.Reaches crew →
      ∀ j, crew₁.source j = none → b.provider j = .oracle →
      ∀ compartment, ∀ i ∈ crew₁.state.instances.list (.oracle compartment),
        Oracle.Seeks (b.request j) i → (answers j).isSuccess = true) := by
  have hs := hreach.consistent.sound
  -- Programs are ordered as they first touched something; those that never did may stand anywhere.
  obtain ⟨v, k⟩ := b.tracks hs h
  obtain ⟨order₀, ho₀⟩ := Crew.exists_inOrder k.nodup
  have hserial (order : List ι) (ho : crew.InOrder order) :=
    hf.serializable hs (b.serves c times) Verdict.exists_admits h ho.touched ho.nodup
  refine ⟨⟨order₀, ho₀⟩, fun order ho => ⟨(hserial order ho).symm, ?_⟩, fun scope id => ?_, ?_⟩
  · intro times' seed rerun hi hi'
    obtain ⟨hstate, hanswers⟩ := hserial order ho
    rw [← b.generated_serve hs h hf order cloud.state] at hi
    obtain ⟨halike, htwins⟩ := b.rerun_of_indifferent hs hi hi'
    refine ⟨fun e' he' => ?_, fun scope => ?_⟩
    · obtain ⟨e, he, hindex, hcomparable⟩ := halike e' he'
      rw [← hindex]
      exact (Http.Response.Agrees.comparable (hanswers e he)).trans hcomparable
    · rw [hstate.instances]
      exact htwins.list scope
  · obtain ⟨hstate, hanswers⟩ := hserial order₀ ho₀
    obtain ⟨honce, hnew, hconflict⟩ := b.creates_once hs ho₀.complete scope id
      fun e he => (Http.Response.Agrees.comparable (hanswers e he)).status
    refine ⟨honce, hnew, ?_⟩
    rintro hvacant ⟨i, hi, hsuccess | h409⟩
    · exact ⟨i, ⟨hi, hsuccess⟩, fun j hj => honce j i hj.1 hi hj.2 hsuccess⟩
    · rcases hconflict i hi h409 with hhas | ⟨j, hj, hsuccess⟩
      · rw [hvacant] at hhas
        cases hhas
      · exact ⟨j, ⟨hj, hsuccess⟩, fun k hk => honce k j hk.1 hj hk.2 hsuccess⟩
  · intro crew₁ h₁ h₂ j hj hp compartment i hi hseeks
    exact b.seek_succeeds hs h₁ h₂ hf hj hp hi hseeks

/-- Two requests to create one instance. -/
def Batch.twice : Batch Bool :=
  ⟨fun _ => .google, fun _ => ⟨"POST", ⟨"https", none, .segments ["compute", "v1", "projects",
    "shop", "zones", "eu", "instances"], none, none⟩, [], some (.object [("name", .string "web")])⟩⟩

theorem Batch.chosen_twice (i : Bool) : twice.chosen? i = some (.google "shop" "eu", "web") := by
  cases i <;> decide +kernel

/-- Google's requests generate nothing that others are found by. -/
theorem Batch.indifferent_twice : twice.Indifferent .standard Cloud.initial.state [] := by
  refine ⟨List.nodup_nil, fun i scope j k hp _ _ _ => ?_, by simp⟩
  have hp : scope.provider = .google := hp
  have hall : (twice.request i).condition? = .ok fun _ => true := rfl
  simp only [Scope.condition, hp, hall, Except.toOption, Option.getD_some]

theorem Batch.ocids_twice (times : Bool → Timestamp) (i : Bool) (g : Generator) :
    twice.ocids .standard times i g = [] :=
  Provider.ocids_of_ne (show Provider.google ≠ .oracle by decide) _ _ _ g

theorem one_of_two_creates : ∃ crew answers order,
    (Crew.waiting (Batch.twice.programs .standard fun _ => ⟨0, 0⟩)
      Cloud.initial.state).Reaches crew ∧
    crew.Finished answers ∧ crew.InOrder order ∧
    (answers true).status = 200 ∧ (answers false).status = 409 ∧
    (∃! i, Batch.twice.chosen? i = some (.google "shop" "eu", "web") ∧
      (answers i).isSuccess = true) ∧
    ∀ (times : Bool → Timestamp) (seed : Bool → Generator → Generator),
      ∀ e ∈ (serve (Batch.twice.programs .standard times) seed order Cloud.initial.state).1,
        (answers e.1).Comparable e.2.2 := by
  have hend (i : Bool) : ((interleave (Batch.twice.programs .standard fun _ => ⟨0, 0⟩)
      Cloud.initial.state [true, false, true]).1 i).result?.map (·.status) =
        some (if i then 200 else 409) := by
    cases i <;> decide +kernel
  choose answers hanswers hstatus using fun i => Option.map_eq_some_iff.mp (hend i)
  obtain ⟨crew, hr, hf⟩ := Crew.exists_finished hanswers
  obtain ⟨⟨order, ho⟩, hserial, hcreates, -⟩ :=
    requests_serializable (Cloud.reachable_initial []) Batch.twice _ hr hf
  refine ⟨crew, answers, order, hr, hf, ho, hstatus true, hstatus false, ?_, fun times seed => ?_⟩
  · refine (hcreates _ _).2.2 (by decide +kernel) ⟨true, Batch.chosen_twice true, .inl ?_⟩
    rw [Http.Response.isSuccess, hstatus true]
    rfl
  · refine ((hserial order ho).2 times seed ?_ ?_).1
    · have hnone : Batch.twice.generatedBy .standard (fun _ => ⟨0, 0⟩) crew order = [] := by
        refine List.flatMap_eq_nil_iff.mpr fun i _ => ?_
        cases crew.source i with
        | none => rfl
        | some g => exact Batch.ocids_twice (fun _ => ⟨0, 0⟩) i g
      rw [hnone]
      exact Batch.indifferent_twice
    · have hnone (entries : List (Bool × Generator × Http.Response)) :
          Batch.twice.generated .standard times entries = [] :=
        List.flatMap_eq_nil_iff.mpr fun e _ => Batch.ocids_twice times e.1 e.2.1
      rw [hnone]
      exact Batch.indifferent_twice

/-- Creates of a new name at once that all fail, where one address was left and is taken. -/
theorem creates_without_addresses :
    let c : Configuration := { Configuration.standard with networkCidr := "10.0.0.0/30" }
    let cloud := Cloud.after ⟨c, .empty, .empty, ⟨0⟩,
        ⟨0x0A000000, 0x0A000003, 0x0A000002, [], "10.0.0.0/30"⟩⟩
      [(⟨0, 0⟩, .insert "shop" "eu" (.object [("name", .string "db")]))]
    Cloud.Reachable c cloud ∧
    (∀ i, Batch.twice.chosen? i = some (.google "shop" "eu", "web")) ∧
    cloud.state.instances.has (.google "shop" "eu") "web" = false ∧
    ∃ crew answers,
      (Crew.waiting (Batch.twice.programs c fun _ => ⟨1, 0⟩) cloud.state).Reaches crew ∧
      crew.Finished answers ∧ (∀ i, (answers i).status = 500) ∧
      ¬∃! i, (answers i).isSuccess = true := by
  intro c cloud
  have hp : AddressPool.parse? c.networkCidr =
      some ⟨0x0A000000, 0x0A000003, 0x0A000002, [], "10.0.0.0/30"⟩ := by decide +kernel
  have hnew : Cloud.new c = .ok ⟨c, .empty, .empty, ⟨0⟩,
      ⟨0x0A000000, 0x0A000003, 0x0A000002, [], "10.0.0.0/30"⟩⟩ := by
    rw [Cloud.new, AddressPool.parse, hp]
    rfl
  have hend (i : Bool) : ((interleave (Batch.twice.programs c fun _ => ⟨1, 0⟩) cloud.state
      [true, false]).1 i).result?.map (·.status) = some 500 := by
    cases i <;> decide +kernel
  choose answers hanswers hstatus using fun i => Option.map_eq_some_iff.mp (hend i)
  obtain ⟨crew, hr, hf⟩ := Crew.exists_finished hanswers
  refine ⟨⟨_, _, .new hnew, rfl⟩, Batch.chosen_twice, by decide +kernel, crew, answers, hr, hf,
    hstatus, ?_⟩
  rintro ⟨i, hi, -⟩
  rw [Http.Response.isSuccess, hstatus i] at hi
  cases hi

end CloudEmulation
