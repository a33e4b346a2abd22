import CloudEmulation.Proofs.Emulation.Pages
import CloudEmulation.Proofs.Emulation.Views
import CloudEmulation.Proofs.Url.Query
/-!
Requests that list all instances of a scope, page by page, and what the answers show.
-/

namespace CloudEmulation

variable {r r' : Http.Request} {name other token : String} {scope : Scope} {params : Params}

namespace Http.Request

def query? (r : Request) (name : String) : Option String :=
  (r.url.queryPairs.find? (·.1 = name)).map (·.2)

/-- A parameter of the query that is absent or counts something. -/
def Counts (r : Request) (name : String) : Prop :=
  ∀ raw, r.query? name = some raw → ∃ n, Numeral.word64? raw = some n ∧ 0 < n

/-- Whether a request names a version of the API. -/
def HasVersion (r : Request) : Prop :=
  ∃ version, r.query? "api-version" = some version ∧ version ≠ ""

/-- A token takes the place of any other. -/
def withToken (r : Request) (name token : String) : Request :=
  { r with url := r.url.withPairs (r.url.queryPairs.filter (·.1 ≠ name) ++ [(name, token)]) }

theorem queryPairs_withToken : (r.withToken name token).url.queryPairs =
    r.url.queryPairs.filter (·.1 ≠ name) ++ [(name, token)] :=
  Url.Query.decode_encode _

theorem query?_withToken_self (r : Request) (name token : String) :
    (r.withToken name token).query? name = some token := by
  have hn : (r.url.queryPairs.filter (·.1 ≠ name)).find? (·.1 = name) = none := by
    rw [List.find?_eq_none]
    intro p hp
    have hp := (List.mem_filter.mp hp).2
    simpa using hp
  rw [query?, queryPairs_withToken, List.find?_append, hn]
  simp

theorem query?_withToken_other (h : other ≠ name) :
    (r.withToken name token).query? other = r.query? other := by
  have hp : (fun p : String × String =>
      decide (decide (p.1 ≠ name) = true ∧ decide (p.1 = other) = true)) =
        fun p => decide (p.1 = other) := by
    funext p
    by_cases he : p.1 = other
    · simp [he, h]
    · simp [he]
  have hl : [(name, token)].find? (·.1 = other) = none := by
    simp [Ne.symm h]
  rw [query?, queryPairs_withToken, List.find?_append, hl, Option.or_none, List.find?_filter, hp]
  rfl

theorem Counts.withToken (h : r.Counts other) (hne : other ≠ name) :
    (r.withToken name token).Counts other := by
  intro raw hraw
  rw [query?_withToken_other hne] at hraw
  exact h raw hraw

theorem Counts.queryCount (h : r.Counts name) (params : Params) (now : Timestamp) :
    (r.call params now).queryCount name = .ok ((r.query? name).bind Numeral.word64?) := by
  have hq : (r.call params now).query? name = r.query? name := rfl
  unfold Call.queryCount
  rw [hq]
  cases hr : r.query? name with
  | none => rfl
  | some raw =>
    obtain ⟨n, hn, hpos⟩ := h raw hr
    simp [hn, Option.filter_some, hpos]

theorem Counts.pos (h : r.Counts name) {m : Nat}
    (hm : (r.query? name).bind Numeral.word64? = some m) : 0 < m := by
  obtain ⟨raw, hr, hw⟩ := Option.bind_eq_some_iff.mp hm
  obtain ⟨n, hn, hpos⟩ := h raw hr
  rw [hn] at hw
  cases hw
  exact hpos

end Http.Request

/-- URLs that differ in their queries at most are told apart by their texts. -/
theorem Url.eq_of_text {u v : Url} {q q' : String} (hu : u = { v with query := some q })
    (h : u.text = Url.text { v with query := some q' }) : u = { v with query := some q' } := by
  subst hu
  unfold Url.text at h
  have hq : "?" ++ q = "?" ++ q' := by
    have h := (String.append_left_inj _).mp h
    exact (String.append_right_inj _).mp h
  rw [(String.append_right_inj _).mp hq]

theorem Provider.Routed.of_path {p : Provider} {verb : Verb} {resource : String}
    (h : p.Routed r verb resource params) (hm : r'.method = r.method)
    (hp : r'.url.pathText = r.url.pathText) : p.Routed r' verb resource params := by
  obtain ⟨route, hr, hv, hres⟩ := h
  refine ⟨route, ?_, hv, hres⟩
  rw [Provider.route?, hm, hp]
  exact hr

theorem Provider.Routed.get {p : Provider} {resource : String} {verb : Verb}
    (h : p.Routed r verb resource params) (hv : verb ≠ .create) : r.method = "GET" := by
  obtain ⟨route, hr, rfl, -⟩ := h
  exact (Provider.get_iff hr).mpr hv

theorem Page.mapM_slice {α β : Type} {f : α → Except Fault β} {as : List α} {bs : List β}
    (h : as.mapM f = .ok bs) (limit : Option Nat) (n : Nat) :
    (slice as limit n).items.mapM f = .ok (slice bs limit n).items ∧
      (slice as limit n).next = (slice bs limit n).next := by
  have ha := map_slice f as limit n
  have hb := map_slice (Except.ok (ε := Fault)) bs limit n
  rw [Except.mapM_eq_ok.mp h, hb] at ha
  constructor
  · exact Except.mapM_eq_ok.mpr (congrArg Page.items ha).symm
  · exact (congrArg Page.next ha).symm

namespace Provider

/-- The parameter of the query that says where a page begins. -/
def tokenName : Provider → String
  | .google => "pageToken"
  | .azure => Azure.tokenName
  | .oracle => "page"

/-- The items that the answer to a list shows. -/
def shown : Provider → Http.Response → List Json
  | .google, answer => ((answer.body.bind (·.member? "items")).map Json.items).getD []
  | .azure, answer => ((answer.body.bind (·.member? "value")).map Json.items).getD []
  | .oracle, answer => (answer.body.map Json.items).getD []

/-- How the answer to a list says where the next page is. -/
def next? : Provider → Http.Response → Option String
  | .google, answer => answer.body.bind (·.textMember? "nextPageToken")
  | .azure, answer => answer.body.bind (·.textMember? "nextLink")
  | .oracle, answer => answer.header? "opc-next-page"

/-- What stands for a token: Azure tells the whole URL. -/
def link : Provider → Http.Request → String → String
  | .azure, r, token => (r.withToken Azure.tokenName token).url.text
  | _, _, token => token

end Provider

namespace Scope

/-- Whether a request lists all instances of a scope, from any page on. -/
inductive Lists : Scope → Http.Request → Prop
  | google {project zone r params} : Provider.google.Routed r .list "instances" params →
    params.get? "project" = some project → params.get? "zone" = some zone →
    (∀ text, r.query? "filter" = some text → text.toList.all Text.isBlank = true) →
    r.Counts "maxResults" → Lists (.google project zone) r
  | azure {subscription group r params} :
    Provider.azure.Routed r .list Azure.resource params →
    params.get? "subscriptionId" = some subscription →
    params.get? "resourceGroupName" = some group → r.HasVersion →
    Lists (.azure subscription group) r
  | oracle {compartment r params} : Provider.oracle.Routed r .list "instances" params →
    r.query? "compartmentId" = some compartment → compartment ≠ "" →
    (∀ name ∈ ["availabilityDomain", "displayName", "lifecycleState", "sortBy"],
      r.query? name = none) →
    (∀ raw, r.query? "sortOrder" = some raw → (Oracle.SortOrder.ofName? raw).isSome = true) →
    r.Counts "limit" → Lists (.oracle compartment) r

/-- Whether a request asks for the first page of all instances of a scope. -/
def Opens (scope : Scope) (r : Http.Request) : Prop :=
  scope.Lists r ∧ (r.query? scope.provider.tokenName).getD "" = ""

/-- Whether a request asks for the page that the answer to another one told of. -/
def Follows (scope : Scope) (r : Http.Request) (link : String) (r' : Http.Request) : Prop :=
  match scope.provider with
  | .azure =>
    r'.method = "GET" ∧ (∃ q, r'.url = { r.url with query := some q }) ∧ r'.url.text = link
  | p => scope.Lists r' ∧ r'.query? p.tokenName = some link

/-- Whether an answer shows a page of a scope's instances. -/
structure Shows (scope : Scope) (c : Configuration) (r : Http.Request) (answer : Http.Response)
    (page : Page Instance) : Prop where
  success : answer.isSuccess = true
  shown : scope.provider.shown answer = page.items.map (scope.view c)
  next : scope.provider.next? answer = page.next.map (scope.provider.link r)

theorem Lists.withToken (h : scope.Lists r) (token : String) :
    scope.Lists (r.withToken scope.provider.tokenName token) := by
  cases h with
  | google hr hproject hzone hfilter hcount =>
    show Lists _ (r.withToken "pageToken" token)
    refine .google (hr.of_path rfl rfl) hproject hzone ?_ (hcount.withToken (by decide))
    intro text ht
    rw [Http.Request.query?_withToken_other (by decide)] at ht
    exact hfilter text ht
  | azure hr hsubscription hgroup hversion =>
    show Lists _ (r.withToken "$skiptoken" token)
    refine .azure (hr.of_path rfl rfl) hsubscription hgroup ?_
    rw [Http.Request.HasVersion, Http.Request.query?_withToken_other (by decide)]
    exact hversion
  | oracle hr hcompartment hne hplain horder hcount =>
    show Lists _ (r.withToken "page" token)
    refine .oracle (hr.of_path rfl rfl) ?_ hne ?_ ?_ (hcount.withToken (by decide))
    · rw [Http.Request.query?_withToken_other (by decide)]
      exact hcompartment
    · intro name hn
      have hother : name ≠ "page" := by
        rintro rfl
        exact absurd hn (by decide)
      rw [Http.Request.query?_withToken_other hother]
      exact hplain name hn
    · intro raw hraw
      rw [Http.Request.query?_withToken_other (by decide)] at hraw
      exact horder raw hraw

theorem Lists.of_url (h : scope.Lists r) (hm : r'.method = r.method) (hu : r'.url = r.url) :
    scope.Lists r' := by
  obtain ⟨method, url, headers, body⟩ := r
  obtain ⟨method', url', headers', body'⟩ := r'
  cases hm
  cases hu
  cases h with
  | google hr hproject hzone hfilter hcount => exact .google hr hproject hzone hfilter hcount
  | azure hr hsubscription hgroup hversion => exact .azure hr hsubscription hgroup hversion
  | oracle hr hcompartment hne hplain horder hcount =>
    exact .oracle hr hcompartment hne hplain horder hcount

theorem Lists.method (h : scope.Lists r) : r.method = "GET" := by
  cases h with
  | google hr => exact hr.get (by decide)
  | azure hr => exact hr.get (by decide)
  | oracle hr => exact hr.get (by decide)

/-- What follows a page is a request for the rest of the same list. -/
theorem Follows.lists (h : scope.Lists r) (hf : scope.Follows r (scope.provider.link r token) r') :
    scope.Lists r' ∧ r'.query? scope.provider.tokenName = some token := by
  have hw := h.withToken token
  have hq := r.query?_withToken_self scope.provider.tokenName token
  have hget := h.method
  cases h with
  | google => exact hf
  | azure hr =>
    obtain ⟨hm, ⟨q, hq'⟩, ht⟩ := hf
    have hu : r'.url = (r.withToken Azure.tokenName token).url := Url.eq_of_text hq' ht
    have hm' : r'.method = r.method := hm.trans hget.symm
    refine ⟨hw.of_url hm' hu, ?_⟩
    rw [Http.Request.query?, hu]
    exact hq
  | oracle => exact hf

theorem Lists.exists_follows (h : scope.Lists r) (token : String) :
    ∃ r', scope.Follows r (scope.provider.link r token) r' := by
  refine ⟨r.withToken scope.provider.tokenName token, ?_⟩
  have hw := h.withToken token
  have hq := r.query?_withToken_self scope.provider.tokenName token
  have hget := h.method
  cases h with
  | google => exact ⟨hw, hq⟩
  | azure => exact ⟨hget, ⟨_, rfl⟩, rfl⟩
  | oracle => exact ⟨hw, hq⟩

end Scope

end CloudEmulation
