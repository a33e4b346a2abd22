import CloudEmulation.Proofs.Cloud.Names
import CloudEmulation.Proofs.Oracle.Order
/-!
Tours from page to page with other operations between the requests: instances are only ever added,
at the end, so nothing that was there at the start is missed.
-/

namespace CloudEmulation

open Numeral (word64Limit)

variable {scope : Scope} {config : Configuration} {c c' : Cloud} {r r' : Http.Request}
  {l l' : List Instance}

/-! Growth. -/

theorem CloudState.Added.list_grows {s s' : CloudState} {i : Instance} {created : Scope}
    (h : s.Added config created i s') (scope : Scope) :
    s.instances.list scope <+: s'.instances.list scope := by
  rw [h.instances, Store.list_append]
  exact List.prefix_append _ _

theorem Cloud.Step.list_grows {created : Option (Scope × String)} (k : c.Step created c')
    (scope : Scope) : c.state.instances.list scope <+: c'.state.instances.list scope := by
  cases k with
  | kept _ _ hk => exact hk.instances ▸ List.prefix_rfl
  | added _ _ ha => exact ha.list_grows scope

theorem Cloud.Consistent.list_grows (h : Consistent config c)
    (ops : List (Timestamp × Operation)) (scope : Scope) :
    c.state.instances.list scope <+: (c.after ops).state.instances.list scope := by
  induction ops generalizing c with
  | nil => exact List.prefix_rfl
  | cons step ops ih =>
    have k := h.step_perform step.1 step.2
    exact (k.list_grows scope).trans (ih (h.step k))

namespace Scope

/-- Whether a request leaves instances in the order of their creation. -/
def Unsorted (scope : Scope) (r : Http.Request) : Prop :=
  scope.provider = .oracle → r.query? "sortBy" = none

theorem arranged_unsorted (h : scope.Unsorted r) (l : List Instance) : scope.arranged r l = l := by
  unfold Unsorted at h
  unfold arranged
  generalize scope.provider = p at h ⊢
  cases p with
  | google => rfl
  | azure => rfl
  | oracle => simp only [h rfl, Option.bind_none, Oracle.arranged]

theorem arranged_sublist (scope : Scope) (r : Http.Request) (h : l <+: l') :
    (scope.arranged r l).Sublist (scope.arranged r l') := by
  unfold arranged Oracle.arranged
  split
  · split
    · exact h.sublist
    · exact Oracle.sorted_sublist _ _ h.sublist
  · exact h.sublist

theorem length_arranged (scope : Scope) (r : Http.Request) (l : List Instance) :
    (scope.arranged r l).length = l.length := by
  unfold arranged Oracle.arranged
  split
  · split
    · rfl
    · exact List.length_mergeSort _
  · rfl

theorem sought_sublist (h : l <+: l') :
    (scope.sought config r l).Sublist (scope.sought config r l') :=
  ((scope.arranged_sublist r h).map _).filter _

theorem sought_unsorted (h : scope.Unsorted r) (l : List Instance) :
    scope.sought config r l = (l.map (scope.view config)).filter (scope.condition r) := by
  rw [sought, arranged_unsorted h]

theorem sought_grows (hu : scope.Unsorted r) (h : l <+: l') :
    scope.sought config r l <+: scope.sought config r l' := by
  obtain ⟨t, rfl⟩ := h
  rw [sought_unsorted hu, sought_unsorted hu, List.map_append, List.filter_append]
  exact List.prefix_append _ _

theorem mem_sought {j : Json} :
    j ∈ scope.sought config r l ↔ j ∈ (l.map (scope.view config)).filter (scope.condition r) := by
  simp only [sought, List.mem_filter, List.mem_map, mem_arranged]

theorem length_sought_le : (scope.sought config r l).length ≤ l.length := by
  have h := List.length_filter_le (scope.condition r) ((scope.arranged r l).map (scope.view config))
  rwa [List.length_map, length_arranged] at h

theorem Unsorted.of_selectors (h : scope.Unsorted r)
    (hs : ∀ name ∈ scope.provider.selectors, r'.query? name = r.query? name) :
    scope.Unsorted r' := by
  intro hp
  rw [hs "sortBy" (by rw [hp]; decide)]
  exact h hp

end Scope

/-! Visits. -/

/-- A request for a page, with the cloud and the time that it meets. -/
structure Visit where
  cloud : Cloud
  now : Timestamp
  request : Http.Request

namespace Visit

variable {v v' : Visit} {n : Nat}

def answer (v : Visit) (p : Provider) : Http.Response := (v.cloud.respond p v.now v.request).1

/-- The cloud that is left after the answer. -/
def left (v : Visit) (p : Provider) : Cloud := (v.cloud.respond p v.now v.request).2

/-- Whether one visit asks for the page that the answer to the other told of, whatever happens in
between. -/
def Precedes (scope : Scope) (v v' : Visit) : Prop :=
  (∃ link, scope.provider.next? (v.answer scope.provider) = some link ∧
    scope.Continues v.request link v'.request) ∧
  ∃ ops, v'.cloud = (v.left scope.provider).after ops

/-- What a visit asks for, on all pages together. -/
def sought (v : Visit) (config : Configuration) (scope : Scope) : List Json :=
  scope.sought config v.request (v.cloud.state.instances.list scope)

/-- The views of a scope's instances that meet the condition of a request. -/
def matching (v : Visit) (config : Configuration) (scope : Scope) (r : Http.Request) : List Json :=
  ((v.cloud.state.instances.list scope).map (scope.view config)).filter (scope.condition r)

/-- A visit that asks for what comes after the first items. -/
structure At (config : Configuration) (scope : Scope) (v : Visit) (n : Nat) : Prop where
  consistent : Cloud.Consistent config v.cloud
  selects : scope.Selects v.request
  offset : Page.offset (v.sought config scope).length
    (v.request.query? scope.provider.tokenName) = .ok n

theorem At.displays (h : v.At config scope n) :
    scope.Displays v.request (v.answer scope.provider)
      (Page.slice (v.sought config scope) (scope.limit config v.request) n) :=
  (Cloud.respond_selects h.consistent h.selects v.now h.offset).1

theorem At.last (h : v.At config scope n)
    (hnext : scope.provider.next? (v.answer scope.provider) = none) :
    scope.provider.shown (v.answer scope.provider) = (v.sought config scope).drop n := by
  have hd := h.displays
  rw [hd.next] at hnext
  rw [hd.shown]
  rcases Page.slice_cases (v.sought config scope) (scope.limit config v.request) n with
    hs | ⟨m, -, -, hs⟩
  · rw [hs]
  · rw [hs] at hnext
    cases hnext

theorem At.more (h : v.At config scope n) {link : String}
    (hnext : scope.provider.next? (v.answer scope.provider) = some link) :
    ∃ m, scope.limit config v.request = some m ∧ n + m < (v.sought config scope).length ∧
      scope.provider.shown (v.answer scope.provider) = ((v.sought config scope).drop n).take m ∧
      link = scope.provider.link v.request (toString (n + m)) := by
  have hd := h.displays
  rw [hd.next] at hnext
  rw [hd.shown]
  rcases Page.slice_cases (v.sought config scope) (scope.limit config v.request) n with
    hs | ⟨m, hlimit, hm, hs⟩
  · rw [hs] at hnext
    cases hnext
  · rw [hs] at hnext ⊢
    cases hnext
    exact ⟨m, hlimit, hm, rfl, rfl⟩

/-- What is sought stays where it is in what is sought later. -/
structure Grows (config : Configuration) (scope : Scope) (v v' : Visit) : Prop where
  list : v.cloud.state.instances.list scope <+: v'.cloud.state.instances.list scope
  selectors : ∀ name ∈ scope.provider.selectors,
    v'.request.query? name = v.request.query? name

theorem Grows.refl (v : Visit) : v.Grows config scope v := ⟨List.prefix_rfl, fun _ _ => rfl⟩

theorem Grows.trans {v'' : Visit} (h : v.Grows config scope v') (k : v'.Grows config scope v'') :
    v.Grows config scope v'' :=
  ⟨h.list.trans k.list, fun name hn => (k.selectors name hn).trans (h.selectors name hn)⟩

theorem Grows.sublist (h : v.Grows config scope v') :
    (v.sought config scope).Sublist (v'.sought config scope) := by
  rw [sought, sought, Scope.sought_congr h.selectors]
  exact Scope.sought_sublist h.list

theorem Grows.starts (h : v.Grows config scope v') (hu : scope.Unsorted v.request) :
    v.sought config scope <+: v'.sought config scope := by
  rw [sought, sought, Scope.sought_congr h.selectors]
  exact Scope.sought_grows hu h.list

/-- One page brings a visit further. -/
theorem At.next (h : v.At config scope n) (hp : v.Precedes scope v') :
    v.Grows config scope v' ∧ ∃ m, scope.limit config v.request = some m ∧
      n + m < (v.sought config scope).length ∧
      scope.provider.shown (v.answer scope.provider) = ((v.sought config scope).drop n).take m ∧
      v'.At config scope (n + m) := by
  obtain ⟨⟨link, hnext, hcontinues⟩, ops, hcloud⟩ := hp
  obtain ⟨m, hlimit, hm, hshown, rfl⟩ := h.more hnext
  obtain ⟨hselects, hselectors, htoken⟩ := hcontinues.selects h.selects
  have hstep := (Cloud.respond_selects h.consistent h.selects v.now h.offset).2
  have hleft : Cloud.Consistent config (v.left scope.provider) := h.consistent.step hstep
  have hconsistent : Cloud.Consistent config v'.cloud := hcloud ▸ hleft.after ops
  have hlist : v.cloud.state.instances.list scope <+: v'.cloud.state.instances.list scope := by
    rw [hcloud]
    exact (hstep.list_grows scope).trans (hleft.list_grows ops scope)
  have hgrows : v.Grows config scope v' := ⟨hlist, hselectors⟩
  have hlength : n + m ≤ (v'.sought config scope).length :=
    Nat.le_trans (Nat.le_of_lt hm) hgrows.sublist.length_le
  have hword : (v'.sought config scope).length ≤ word64Limit :=
    Nat.le_trans Scope.length_sought_le (hconsistent.length_list_le scope)
  refine ⟨hgrows, m, hlimit, hm, hshown, hconsistent, hselects, ?_⟩
  rw [htoken]
  exact Page.offset_toString hlength hword

end Visit

/-! Tours. -/

/-- Visits one after another, each related to the next. -/
inductive Tour (R : Visit → Visit → Prop) : Visit → List Visit → Visit → Prop
  | one {v} : Tour R v [v] v
  | more {v v' visits last} : R v v' → Tour R v' visits last → Tour R v (v :: visits) last

/-- What the answers show, one after another. -/
def shownOn (p : Provider) (visits : List Visit) : List Json :=
  visits.flatMap fun v => p.shown (v.answer p)

namespace Tour

variable {first last : Visit} {visits : List Visit} {n : Nat}

theorem ne_nil {R : Visit → Visit → Prop} (ht : Tour R first visits last) : visits ≠ [] := by
  cases ht with
  | one => exact List.cons_ne_nil _ _
  | more => exact List.cons_ne_nil _ _

theorem mono {R S : Visit → Visit → Prop} (h : ∀ v v', R v v' → S v v')
    (ht : Tour R first visits last) : Tour S first visits last := by
  induction ht with
  | one => exact .one
  | more hr _ ih => exact .more (h _ _ hr) ih

theorem grows (ht : Tour (Visit.Precedes scope) first visits last)
    (h : first.At config scope n) : first.Grows config scope last := by
  induction ht generalizing n with
  | one => exact .refl _
  | more hp _ ih =>
    obtain ⟨hgrows, m, -, -, -, hat⟩ := h.next hp
    exact hgrows.trans (ih hat)

theorem success (ht : Tour (Visit.Precedes scope) first visits last)
    (h : first.At config scope n) :
    ∀ v ∈ visits, (v.answer scope.provider).isSuccess = true := by
  induction ht generalizing n with
  | one =>
    intro v hv
    rw [List.mem_singleton.mp hv]
    exact h.displays.success
  | more hp _ ih =>
    intro v hv
    obtain rfl | hv := List.mem_cons.mp hv
    · exact h.displays.success
    · obtain ⟨-, m, -, -, -, hat⟩ := h.next hp
      exact ih hat v hv

theorem last_consistent (ht : Tour (Visit.Precedes scope) first visits last)
    (h : first.At config scope n) : Cloud.Consistent config last.cloud := by
  induction ht generalizing n with
  | one => exact h.consistent
  | more hp _ ih =>
    obtain ⟨-, m, -, -, -, hat⟩ := h.next hp
    exact ih hat

/-- In the order of creation the pages are what is sought last. -/
theorem shown_eq (ht : Tour (Visit.Precedes scope) first visits last)
    (h : first.At config scope n) (hu : scope.Unsorted first.request)
    (hend : scope.provider.next? (last.answer scope.provider) = none) :
    shownOn scope.provider visits = (last.sought config scope).drop n := by
  induction ht generalizing n with
  | one =>
    rw [shownOn, List.flatMap_singleton]
    exact h.last hend
  | @more v v' visits last hp ht ih =>
    obtain ⟨hgrows, m, -, hm, hshown, hat⟩ := h.next hp
    obtain ⟨rest, hrest⟩ := (hgrows.trans (ht.grows hat)).starts hu
    have hpage : ((v.sought config scope).drop n).take m =
        ((last.sought config scope).drop n).take m := by
      have hn : n ≤ (v.sought config scope).length := by omega
      have hmn : m ≤ ((v.sought config scope).drop n).length := by
        rw [List.length_drop]
        omega
      rw [← hrest, List.drop_append_of_le_length hn, List.take_append_of_le_length hmn]
    have htail := ih hat (hu.of_selectors hgrows.selectors) hend
    rw [shownOn, List.flatMap_cons, hshown, hpage]
    rw [shownOn] at htail
    rw [htail, ← List.drop_drop, List.take_append_drop]

/-- In any order, what was to come at the start is shown. -/
theorem mem_shown (ht : Tour (Visit.Precedes scope) first visits last)
    (h : first.At config scope n)
    (hend : scope.provider.next? (last.answer scope.provider) = none) {j : Json}
    (hj : j ∈ (first.sought config scope).drop n) : j ∈ shownOn scope.provider visits := by
  induction ht generalizing n with
  | one =>
    rw [shownOn, List.flatMap_singleton, h.last hend]
    exact hj
  | @more v v' visits last hp ht ih =>
    obtain ⟨hgrows, m, -, hm, hshown, hat⟩ := h.next hp
    rw [shownOn, List.flatMap_cons, List.mem_append, hshown]
    rw [← List.take_append_drop m ((v.sought config scope).drop n), List.drop_drop] at hj
    obtain hj | hj := List.mem_append.mp hj
    · exact .inl hj
    · exact .inr (ih hat hend ((hgrows.sublist.drop (n + m)).mem hj))

end Tour

/-- Instances are told apart by what is shown of them. -/
theorem Cloud.Consistent.nodup_views (h : Consistent config c) (scope : Scope) :
    ((c.state.instances.list scope).map (scope.view config)).Nodup := by
  have hkeys : ((c.state.instances.list scope).map (scope.view config)).map
      (·.textMember? scope.provider.key) = (c.identitiesIn scope).map some := by
    rw [List.map_map, identitiesIn, List.map_map]
    refine List.map_congr_left fun i hi => ?_
    exact (h.sound.made scope i hi).key_of_view
  refine List.Nodup.of_map (·.textMember? scope.provider.key) ?_
  rw [hkeys]
  exact (h.sound.named scope).map fun a b hab => Option.some.inj hab

/-- No page is refused on a tour, and what was there at its start is shown, whatever is created
between the pages; in the order of creation the pages are what is there at its end. -/
theorem tours_miss_nothing {first : Visit} (hreach : Cloud.Reachable config first.cloud)
    (hselects : scope.Selects first.request)
    (hstart : (first.request.query? scope.provider.tokenName).getD "" = "") :
    (∀ visits last, Tour (Visit.Precedes scope) first visits last →
      (∀ v ∈ visits, (v.answer scope.provider).isSuccess = true) ∧
      (scope.provider.next? (last.answer scope.provider) = none →
        (scope.Unsorted first.request →
          shownOn scope.provider visits = last.matching config scope first.request ∧
          (shownOn scope.provider visits).Nodup ∧
          first.matching config scope first.request <+: shownOn scope.provider visits) ∧
        ∀ j ∈ first.matching config scope first.request, j ∈ shownOn scope.provider visits)) ∧
    ∀ now r params, Provider.azure.Routed r .list Azure.resource params → ¬r.HasVersion →
      (first.cloud.respond .azure now r).1.status = 400 := by
  have hat : first.At config scope 0 :=
    ⟨hreach.consistent, hselects, Page.offset_start hstart⟩
  refine ⟨fun visits last ht => ⟨ht.success hat, fun hend => ⟨fun hu => ?_, fun j hj => ?_⟩⟩, ?_⟩
  · have hgrows := ht.grows hat
    have hlast : last.sought config scope = last.matching config scope first.request := by
      rw [Visit.sought, Scope.sought_congr hgrows.selectors, Scope.sought_unsorted hu]
      rfl
    have hfirst : first.sought config scope = first.matching config scope first.request :=
      Scope.sought_unsorted hu _
    have hshown := ht.shown_eq hat hu hend
    rw [List.drop_zero, hlast] at hshown
    refine ⟨hshown, ?_, ?_⟩
    · rw [hshown]
      exact ((ht.last_consistent hat).nodup_views scope).filter _
    · rw [hshown, ← hlast, ← hfirst]
      exact hgrows.starts hu
  · refine ht.mem_shown hat hend ?_
    rw [List.drop_zero, Visit.sought]
    exact Scope.mem_sought.mpr hj
  · intro now r params hr hversion
    rw [Cloud.respond_azure_versionless hr hversion]
    rfl

/-- An instance that is inserted between two pages is on a later one. -/
theorem shown_while_inserting :
    let body (name : String) := Json.object [("name", .string name)]
    let list (query : String) : Http.Request := ⟨"GET", ⟨"https", none, .segments ["compute", "v1",
      "projects", "shop", "zones", "eu", "instances"], some query, none⟩, [], none⟩
    let first : Visit := ⟨Cloud.initial.after [(⟨0, 0⟩, .insert "shop" "eu" (body "web")),
      (⟨0, 0⟩, .insert "shop" "eu" (body "db"))], ⟨1, 0⟩, list "maxResults=1"⟩
    let last : Visit := ⟨(first.left .google).after [(⟨2, 0⟩, .insert "shop" "eu" (body "cache"))],
      ⟨3, 0⟩, list "maxResults=7&pageToken=1"⟩
    (shownOn .google [first, last]).map (·.textMember? "name") =
      [some "web", some "db", some "cache"] := by
  intro body list first last
  have hrouted : Provider.google.Routed (list "") .list "instances"
      [("project", "shop"), ("zone", "eu")] :=
    ⟨.of "GET" (Google.zonePath ++ "instances") "instances" .list, by decide +kernel, rfl, rfl⟩
  have hselects (query size : String) (hfilter : (list query).query? "filter" = none)
      (hsize : (list query).query? "maxResults" = some size)
      (hcount : ∃ n, Numeral.word64? size = some n ∧ 0 < n) :
      (Scope.google "shop" "eu").Selects (list query) := by
    refine .google (hrouted.of_path rfl rfl) rfl rfl (Http.Request.condition?_of_blank ?_) ?_
    · intro text ht
      rw [hfilter] at ht
      cases ht
    · intro raw hraw
      rw [hsize] at hraw
      cases hraw
      exact hcount
  have hfirst : (Scope.google "shop" "eu").Selects first.request :=
    hselects _ "1" (by decide +kernel) (by decide +kernel) ⟨1, by decide +kernel, by decide⟩
  have hlast : (Scope.google "shop" "eu").Selects last.request :=
    hselects _ "7" (by decide +kernel) (by decide +kernel) ⟨7, by decide +kernel, by decide⟩
  have hnext : Provider.google.next? (first.answer .google) = some "1" := by decide +kernel
  have htour : Tour (Visit.Precedes (.google "shop" "eu")) first [first, last] last :=
    .more ⟨⟨"1", hnext, hlast, by decide +kernel, by decide +kernel⟩, _, rfl⟩ .one
  obtain ⟨hvisits, -⟩ := tours_miss_nothing (Cloud.reachable_initial _) hfirst (by decide +kernel)
  have hend : Provider.google.next? (last.answer .google) = none := by decide +kernel
  obtain ⟨hshown, -, -⟩ := ((hvisits _ _ htour).2 hend).1 fun hp => nomatch hp
  have hnames : (last.matching Cloud.initial.config (.google "shop" "eu") first.request).map
      (·.textMember? "name") = [some "web", some "db", some "cache"] := by decide +kernel
  exact (congrArg (List.map _) hshown).trans hnames

/-- Requests that a scope's listing refuses: one that names no version, one that names no key. -/
theorem refused_listings :
    let machines : Http.Request := ⟨"GET", ⟨"https", none, .segments ["subscriptions", "sub",
      "resourceGroups", "group", "providers", "Microsoft.Compute", "virtualMachines"], none, none⟩,
      [], none⟩
    let instances : Http.Request := ⟨"GET", ⟨"https", none, .segments ["20160918", "instances"],
      some "compartmentId=team&sortBy=SIZE", none⟩, [], none⟩
    0 < Cloud.initial.config.azurePageSize ∧
    (∃ params, Provider.azure.Routed machines .list Azure.resource params ∧
      params.get? "subscriptionId" = some "sub" ∧
      params.get? "resourceGroupName" = some "group") ∧
    (Cloud.initial.respond .azure ⟨0, 0⟩ machines).1.isSuccess = false ∧
    (∃ params, Provider.oracle.Routed instances .list "instances" params) ∧
    (Cloud.initial.respond .oracle ⟨0, 0⟩ instances).1.isSuccess = false := by
  intro machines instances
  have hr : Provider.azure.Routed machines .list Azure.resource
      [("subscriptionId", "sub"), ("resourceGroupName", "group")] :=
    ⟨.of "GET" Azure.machinesPath Azure.resource .list, by decide +kernel, rfl, rfl⟩
  have hn : ¬machines.HasVersion := by
    rintro ⟨version, hv, -⟩
    cases hv
  have hinstances : Provider.oracle.Routed instances .list "instances" [] :=
    ⟨.of "GET" (Oracle.path "instances") "instances" .list, by decide +kernel, rfl, rfl⟩
  refine ⟨by decide, ⟨_, hr, rfl, rfl⟩, ?_, ⟨_, hinstances⟩, by decide +kernel⟩
  rw [Cloud.respond_azure_versionless hr hn]
  rfl

end CloudEmulation
