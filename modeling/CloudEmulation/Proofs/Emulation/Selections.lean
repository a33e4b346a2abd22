import CloudEmulation.Proofs.Emulation.Listings
/-!
Requests for pages of a selection of a scope's instances: those that meet a condition, in the order
that is asked for.
-/

namespace CloudEmulation

variable {r r' : Http.Request} {scope : Scope} {token : String}

namespace Http.Request

/-- What the filter of a request asks of each item; a filter that is blank asks nothing. -/
def condition? (r : Request) : Except Filter.ReadError (Json → Bool) :=
  match r.query? "filter" with
  | none => .ok fun _ => true
  | some text =>
    if text.toList.all Text.isBlank then .ok fun _ => true
    else (Filter.parse text).map Filter.accepts

theorem condition?_of_blank
    (h : ∀ text, r.query? "filter" = some text → text.toList.all Text.isBlank = true) :
    r.condition? = .ok fun _ => true := by
  unfold condition?
  cases hq : r.query? "filter" with
  | none => rfl
  | some text => simp only [h text hq, if_true]

/-- Whether an item has the members that a request names. -/
def agrees (r : Request) (j : Json) : Bool :=
  ["availabilityDomain", "displayName", "lifecycleState"].all fun name =>
    match r.query? name with
    | none => true
    | some wanted => j.textMember? name = some wanted

/-- A parameter of the query that is absent or one of several names. -/
def Chooses {α : Type} (r : Request) (name : String) (ofName? : String → Option α) : Prop :=
  ∀ raw, r.query? name = some raw → (ofName? raw).isSome = true

end Http.Request

/-- The parameters of the query that say which items are asked for, and in which order. -/
def Provider.selectors : Provider → List String
  | .google => ["filter"]
  | .azure => []
  | .oracle => ["availabilityDomain", "displayName", "lifecycleState", "sortBy", "sortOrder"]

namespace Scope

def condition (scope : Scope) (r : Http.Request) : Json → Bool :=
  match scope.provider with
  | .google => r.condition?.toOption.getD fun _ => false
  | .azure => fun _ => true
  | .oracle => r.agrees

def arranged (scope : Scope) (r : Http.Request) (instances : List Instance) : List Instance :=
  match scope.provider with
  | .oracle => Oracle.arranged ((r.query? "sortBy").bind Oracle.SortKey.ofName?)
      ((r.query? "sortOrder").bind Oracle.SortOrder.ofName?) instances
  | _ => instances

theorem mem_arranged {instances : List Instance} {i : Instance} :
    i ∈ scope.arranged r instances ↔ i ∈ instances := by
  unfold arranged Oracle.arranged
  split
  · split
    · rfl
    · exact List.mem_mergeSort
  · rfl

/-- What a request asks for, on all pages together. -/
def sought (scope : Scope) (c : Configuration) (r : Http.Request) (instances : List Instance) :
    List Json :=
  ((scope.arranged r instances).map (scope.view c)).filter (scope.condition r)

/-- The size of a page. -/
def limit (scope : Scope) (c : Configuration) (r : Http.Request) : Option Nat :=
  match scope.provider with
  | .google => (r.query? "maxResults").bind Numeral.word64?
  | .azure => some c.azurePageSize
  | .oracle => (r.query? "limit").bind Numeral.word64?

/-- Whether a request asks for a selection of the instances of a scope, from any page on. -/
inductive Selects : Scope → Http.Request → Prop
  | google {project zone r params p} : Provider.google.Routed r .list "instances" params →
    params.get? "project" = some project → params.get? "zone" = some zone →
    r.condition? = .ok p → r.Counts "maxResults" → Selects (.google project zone) r
  | azure {subscription group r params} :
    Provider.azure.Routed r .list Azure.resource params →
    params.get? "subscriptionId" = some subscription →
    params.get? "resourceGroupName" = some group → r.HasVersion →
    Selects (.azure subscription group) r
  | oracle {compartment r params} : Provider.oracle.Routed r .list "instances" params →
    r.query? "compartmentId" = some compartment → compartment ≠ "" →
    r.Chooses "sortBy" Oracle.SortKey.ofName? → r.Chooses "sortOrder" Oracle.SortOrder.ofName? →
    r.Counts "limit" → Selects (.oracle compartment) r

/-- Whether a request asks for the page of the same selection that an answer told of. -/
def Continues (scope : Scope) (r : Http.Request) (link : String) (r' : Http.Request) : Prop :=
  match scope.provider with
  | .azure =>
    r'.method = "GET" ∧ (∃ q, r'.url = { r.url with query := some q }) ∧ r'.url.text = link
  | p =>
    scope.Selects r' ∧ (∀ name ∈ p.selectors, r'.query? name = r.query? name) ∧
      r'.query? p.tokenName = some link

/-- Whether an answer shows a page. -/
structure Displays (scope : Scope) (r : Http.Request) (answer : Http.Response) (page : Page Json) :
    Prop where
  success : answer.isSuccess = true
  shown : scope.provider.shown answer = page.items
  next : scope.provider.next? answer = page.next.map (scope.provider.link r)

theorem Selects.method (h : scope.Selects r) : r.method = "GET" := by
  cases h with
  | google hr => exact hr.get (by decide)
  | azure hr => exact hr.get (by decide)
  | oracle hr => exact hr.get (by decide)

theorem Selects.limit_pos {c : Configuration} {m : Nat} (h : scope.Selects r)
    (hpage : scope.provider = .azure → 0 < c.azurePageSize) (hm : scope.limit c r = some m) :
    0 < m := by
  cases h with
  | google hr hproject hzone hp hcount => exact hcount.pos hm
  | azure =>
    cases hm
    exact hpage rfl
  | oracle hr hcompartment hne hkey horder hcount => exact hcount.pos hm

theorem Displays.shows {c : Configuration} {answer : Http.Response} {page : Page Instance}
    (h : scope.Displays r answer (page.map (scope.view c))) : scope.Shows c r answer page :=
  ⟨h.success, h.shown, h.next⟩

/-! All instances, in the order of their creation. -/

theorem Lists.selects (h : scope.Lists r) : scope.Selects r := by
  cases h with
  | google hr hproject hzone hfilter hcount =>
    exact .google hr hproject hzone (Http.Request.condition?_of_blank hfilter) hcount
  | azure hr hsubscription hgroup hversion => exact .azure hr hsubscription hgroup hversion
  | oracle hr hcompartment hne hplain horder hcount =>
    refine .oracle hr hcompartment hne ?_ horder hcount
    intro raw hraw
    rw [hplain "sortBy" (by simp)] at hraw
    cases hraw

theorem Lists.condition (h : scope.Lists r) : scope.condition r = fun _ => true := by
  cases h with
  | google hr hproject hzone hfilter hcount =>
    rw [Scope.condition]
    simp only [Scope.provider, Http.Request.condition?_of_blank hfilter]
    rfl
  | azure => rfl
  | oracle hr hcompartment hne hplain horder hcount =>
    funext j
    show r.agrees j = true
    simp [Http.Request.agrees, hplain]

theorem Lists.sought (h : scope.Lists r) (c : Configuration) (instances : List Instance) :
    scope.sought c r instances = instances.map (scope.view c) := by
  have harranged : scope.arranged r instances = instances := by
    cases h with
    | google => rfl
    | azure => rfl
    | oracle hr hcompartment hne hplain => simp [arranged, Scope.provider, hplain, Oracle.arranged]
  rw [Scope.sought, harranged, h.condition, List.filter_true]

/-! From page to page. -/

theorem selectors_ne_tokenName (p : Provider) : ∀ name ∈ p.selectors, name ≠ p.tokenName := by
  cases p <;> decide

theorem condition_congr
    (h : ∀ name ∈ scope.provider.selectors, r'.query? name = r.query? name) :
    scope.condition r' = scope.condition r := by
  unfold condition
  generalize scope.provider = p at h ⊢
  cases p with
  | google =>
    have hfilter := h "filter" (by decide)
    simp only [Http.Request.condition?, hfilter]
  | azure => rfl
  | oracle =>
    have hdomain := h "availabilityDomain" (by decide)
    have hname := h "displayName" (by decide)
    have hstate := h "lifecycleState" (by decide)
    funext j
    simp [Http.Request.agrees, hdomain, hname, hstate]

theorem arranged_congr
    (h : ∀ name ∈ scope.provider.selectors, r'.query? name = r.query? name) :
    scope.arranged r' = scope.arranged r := by
  unfold arranged
  generalize scope.provider = p at h ⊢
  cases p with
  | google => rfl
  | azure => rfl
  | oracle =>
    have hkey := h "sortBy" (by decide)
    have horder := h "sortOrder" (by decide)
    simp only [hkey, horder]

theorem sought_congr
    (h : ∀ name ∈ scope.provider.selectors, r'.query? name = r.query? name) (c : Configuration) :
    scope.sought c r' = scope.sought c r := by
  funext instances
  rw [sought, sought, condition_congr h, arranged_congr h]

theorem Selects.withToken (h : scope.Selects r) (token : String) :
    scope.Selects (r.withToken scope.provider.tokenName token) := by
  cases h with
  | @google _ _ _ _ p hr hproject hzone hp hcount =>
    show Selects _ (r.withToken "pageToken" token)
    refine .google (p := p) (hr.of_path rfl rfl) hproject hzone ?_ (hcount.withToken (by decide))
    rw [Http.Request.condition?, Http.Request.query?_withToken_other (by decide)]
    exact hp
  | azure hr hsubscription hgroup hversion =>
    show Selects _ (r.withToken "$skiptoken" token)
    refine .azure (hr.of_path rfl rfl) hsubscription hgroup ?_
    rw [Http.Request.HasVersion, Http.Request.query?_withToken_other (by decide)]
    exact hversion
  | oracle hr hcompartment hne hkey horder hcount =>
    show Selects _ (r.withToken "page" token)
    refine .oracle (hr.of_path rfl rfl) ?_ hne ?_ ?_ (hcount.withToken (by decide))
    · rw [Http.Request.query?_withToken_other (by decide)]
      exact hcompartment
    · rw [Http.Request.Chooses, Http.Request.query?_withToken_other (by decide)]
      exact hkey
    · rw [Http.Request.Chooses, Http.Request.query?_withToken_other (by decide)]
      exact horder

theorem Selects.of_url (h : scope.Selects r) (hm : r'.method = r.method) (hu : r'.url = r.url) :
    scope.Selects r' := by
  obtain ⟨method, url, headers, body⟩ := r
  obtain ⟨method', url', headers', body'⟩ := r'
  cases hm
  cases hu
  cases h with
  | google hr hproject hzone hp hcount => exact .google hr hproject hzone hp hcount
  | azure hr hsubscription hgroup hversion => exact .azure hr hsubscription hgroup hversion
  | oracle hr hcompartment hne hkey horder hcount =>
    exact .oracle hr hcompartment hne hkey horder hcount

/-- What continues a page is a request for the rest of the same selection. -/
theorem Continues.selects (h : scope.Selects r)
    (hc : scope.Continues r (scope.provider.link r token) r') :
    scope.Selects r' ∧ (∀ name ∈ scope.provider.selectors, r'.query? name = r.query? name) ∧
      r'.query? scope.provider.tokenName = some token := by
  have hw := h.withToken token
  have hq := r.query?_withToken_self scope.provider.tokenName token
  have hget := h.method
  cases h with
  | google => exact hc
  | azure hr =>
    obtain ⟨hm, ⟨q, hq'⟩, ht⟩ := hc
    have hu : r'.url = (r.withToken Azure.tokenName token).url := Url.eq_of_text hq' ht
    refine ⟨hw.of_url (hm.trans hget.symm) hu, (fun name hn => nomatch hn), ?_⟩
    rw [Http.Request.query?, hu]
    exact hq
  | oracle => exact hc

theorem Selects.exists_continues (h : scope.Selects r) (token : String) :
    ∃ r', scope.Continues r (scope.provider.link r token) r' ∧
      ∀ name ≠ scope.provider.tokenName, r'.query? name = r.query? name := by
  refine ⟨r.withToken scope.provider.tokenName token, ?_,
    fun name hn => Http.Request.query?_withToken_other hn⟩
  have hw := h.withToken token
  have hq := r.query?_withToken_self scope.provider.tokenName token
  have hother : ∀ name ∈ scope.provider.selectors,
      (r.withToken scope.provider.tokenName token).query? name = r.query? name := fun name hn =>
    Http.Request.query?_withToken_other (selectors_ne_tokenName _ name hn)
  have hget := h.method
  cases h with
  | google => exact ⟨hw, hother, hq⟩
  | azure => exact ⟨hget, ⟨_, rfl⟩, rfl⟩
  | oracle => exact ⟨hw, hother, hq⟩

end Scope

end CloudEmulation
