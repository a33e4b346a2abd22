import CloudEmulation.Proofs.Concurrency.Handlers
import CloudEmulation.Proofs.Concurrency.Lockstep
import CloudEmulation.Proofs.Oracle.Sorting
/-!
Reads in two states that come from one and differ in what was generated since. They come to the
same there where what they ask for is not generated.
-/

namespace CloudEmulation

theorem Except.Matches.of_eq {ε α : Type} {r r' : Except ε α} (h : r = r') : Matches Eq r r' := by
  subst h
  cases r with
  | ok a => exact .ok rfl
  | error e => exact .error e

theorem length_filter_of_forall₂ {α β : Type} {R : α → β → Prop} {p : α → Bool} {q : β → Bool}
    {l : List α} {l' : List β} (h : List.Forall₂ R l l')
    (hp : ∀ a ∈ l, ∀ b ∈ l', R a b → p a = q b) :
    (l.filter p).length = (l'.filter q).length := by
  induction h with
  | nil => rfl
  | @cons a b l l' hab h ih =>
    have hrest := ih fun x hx y hy =>
      hp x (List.mem_cons_of_mem _ hx) y (List.mem_cons_of_mem _ hy)
    have hhead := hp a List.mem_cons_self b List.mem_cons_self hab
    cases hq : q b with
    | true => simp [hhead.trans hq, hq, hrest]
    | false => simp [hhead.trans hq, hq, hrest]

theorem Page.of_matches {α β : Type} {items : List α} {items' : List β}
    (h : items.length = items'.length) (limit : Option Nat) (token : Option String) :
    Except.Matches (fun _ _ => True) (Page.of items limit token) (Page.of items' limit token) := by
  unfold Page.of
  rw [h]
  cases Page.offset items'.length token with
  | ok n => exact .ok trivial
  | error f => exact .error f

namespace Http.Response.Comparable

variable {a a' b b' : Http.Response}

theorem congr (h : a.Comparable b) (ha : a'.status = a.status ∧ a'.body = a.body)
    (hb : b'.status = b.status ∧ b'.body = b.body) : a'.Comparable b' := by
  refine ⟨ha.1.trans (h.status.trans hb.1.symm), fun hs => ?_⟩
  rw [isSuccess, ha.1] at hs
  exact ha.2.trans ((h.body hs).trans hb.2.symm)

theorem trans {d : Http.Response} (h : a.Comparable b) (k : b.Comparable d) : a.Comparable d := by
  refine ⟨h.status.trans k.status, fun hs => (h.body hs).trans (k.body ?_)⟩
  rw [isSuccess, ← h.status]
  exact hs

end Http.Response.Comparable

namespace Handler.InStep

variable {α β γ δ : Type} {c : Configuration} {s s' : CloudState} {rel : α → β → Prop}
  {rel' : γ → δ → Prop} {k : α → Handler γ} {k' : β → Handler δ}

/-- What is read does not change the states. -/
theorem lookup_bind (ht : s.Twins c s') {f : CloudState → Except Fault α}
    {f' : CloudState → Except Fault β} (h : Except.Matches rel (f s) (f' s'))
    (hk : ∀ a b, rel a b → InStep c rel' s s' (k a) (k' b)) :
    InStep c rel' s s' (Handler.lookup f >>= k) (Handler.lookup f' >>= k') := by
  have hx : (Handler.lookup f).exec s = (f s, s) := rfl
  have hx' : (Handler.lookup f').exec s' = (f' s', s') := rfl
  generalize f s = r at h hx
  generalize f' s' = r' at h hx'
  cases h with
  | @ok a b hab =>
    obtain ⟨hresult, hstate⟩ := hk a b hab
    constructor
    · rwa [exec_bind_ok _ hx, exec_bind_ok _ hx']
    · rwa [exec_bind_ok _ hx, exec_bind_ok _ hx']
  | error e => exact .of_exec (exec_bind_error _ hx) (exec_bind_error _ hx') (.error e) ht

theorem look_bind {f : CloudState → α} {f' : CloudState → β}
    (hk : InStep c rel' s s' (k (f s)) (k' (f' s'))) :
    InStep c rel' s s' (Handler.look f >>= k) (Handler.look f' >>= k') := by
  obtain ⟨hresult, hstate⟩ := hk
  constructor
  · rwa [exec_bind_ok _ (exec_look _ _), exec_bind_ok _ (exec_look _ _)]
  · rwa [exec_bind_ok _ (exec_look _ _), exec_bind_ok _ (exec_look _ _)]

/-- What depends on the arguments only comes to the same. -/
theorem liftExcept_self (ht : s.Twins c s') (r : Except Fault Http.Response) :
    InStep c Http.Response.Comparable s s' (Handler.liftExcept r) (Handler.liftExcept r) :=
  .liftExcept ht ((Except.Matches.of_eq rfl).imp fun a _ h => h ▸ .refl a)

end Handler.InStep

namespace CloudState

variable {c : Configuration} {base s s' : CloudState} {ids : List String} {x : String}
  {scope : Scope}

theorem Twins.get (h : s.Twins c s') (hs : scope.provider ≠ .oracle) (id : String) :
    Except.Matches (fun i j => i ∈ s.instances.list scope ∧ j ∈ s'.instances.list scope)
      (s.instances.get scope id) (s'.instances.get scope id) := by
  have hhas := h.has hs id
  cases hid : s.instances.has scope id with
  | true =>
    obtain ⟨i, hi, hg⟩ := Store.exists_get hid
    obtain ⟨j, hj, hg'⟩ := Store.exists_get (hhas.symm.trans hid)
    rw [hg, hg']
    exact .ok ⟨hi, hj⟩
  | false =>
    rw [Store.get_eq_notFound hid, Store.get_eq_notFound (hhas.symm.trans hid)]
    exact .error _

/-- Instances that meet a condition on what is shown of them, where that tells no twins apart. -/
theorem Twins.length_filter (h : s.Twins c s') {p : Json → Bool}
    (hp : ∀ i j, c.Makes scope i → c.Makes scope j → scope.bare i = scope.bare j →
      p (scope.view c i) = p (scope.view c j)) :
    (((s.instances.list scope).map (scope.view c)).filter p).length =
      (((s'.instances.list scope).map (scope.view c)).filter p).length := by
  rw [List.filter_map, List.filter_map, List.length_map, List.length_map]
  exact length_filter_of_forall₂ (h.forall₂ scope) fun i hi j hj hij =>
    hp i j (h.left.made _ i hi) (h.right.made _ j hj) hij

/-- Whether a state comes from another one, with some identifiers that were generated since. -/
structure Since (c : Configuration) (base : CloudState) (ids : List String) (s : CloudState) :
    Prop where
  start : base.Sound c
  grows : base.Grows c s
  drawn : ∀ l ∈ s.locators.list Oracle.tenancy,
    l ∈ base.locators.list Oracle.tenancy ∨ l.identity ∈ ids

namespace Since

theorem refl (h : s.Sound c) : s.Since c [] s := ⟨h, .refl h, fun _ hl => .inl hl⟩

theorem mem_locators (h : base.Since c ids s) {l : Locator}
    (hl : l ∈ base.locators.list Oracle.tenancy) : l ∈ s.locators.list Oracle.tenancy := by
  obtain ⟨compartment, i, hi, hcases⟩ := (Oracle.mem_locators h.start).mp hl
  exact (Oracle.mem_locators h.grows.sound).mpr ⟨compartment, i, h.grows.mem_list hi, hcases⟩

/-- An identifier that was not generated since leads where it led. -/
theorem get_locator (h : base.Since c ids s) (hx : x ∉ ids) :
    s.locators.get Oracle.tenancy x = base.locators.get Oracle.tenancy x := by
  cases hb : base.locators.has Oracle.tenancy x with
  | true =>
    obtain ⟨l, hl, hg⟩ := Store.exists_get hb
    obtain ⟨-, rfl⟩ := (Store.get_eq_ok_iff h.start.identified).mp hg
    rw [hg]
    exact Oracle.get_locator h.grows.sound (h.mem_locators hl)
  | false =>
    have hs : s.locators.has Oracle.tenancy x = false := by
      rw [Store.has_eq_false_iff] at hb ⊢
      intro hm
      obtain ⟨l, hl, rfl⟩ := List.mem_map.mp hm
      rcases h.drawn l hl with hl | hl
      · exact hb (List.mem_map_of_mem hl)
      · exact hx hl
    rw [Store.get_eq_notFound hb, Store.get_eq_notFound hs]

theorem exists_later (h : base.Since c ids s) (scope : Scope) :
    ∃ later, s.instances.list scope = base.instances.list scope ++ later := by
  obtain ⟨rest, hrest⟩ := h.grows.instances
  rw [Store.list, ← hrest, List.filterMap_append]
  exact ⟨_, rfl⟩

/-- What came since has an identifier that was generated since. -/
theorem id_of_later (h : base.Since c ids s) {compartment : String} {later : List Instance}
    (hl : s.instances.list (.oracle compartment) =
      base.instances.list (.oracle compartment) ++ later) {i : Instance} (hi : i ∈ later) :
    i.id ∈ ids := by
  have hmem : i ∈ s.instances.list (.oracle compartment) := hl ▸ List.mem_append_right _ hi
  have hid := (Oracle.made_shape (h.grows.sound.made _ i hmem)).1
  have hlocated := (Oracle.mem_locators h.grows.sound).mpr ⟨compartment, i, hmem, .inl rfl⟩
  rcases h.drawn _ hlocated with hb | hb
  · -- Then an older instance had the same identity.
    obtain ⟨compartment', j, hj, he | ⟨nic, -, he⟩⟩ := (Oracle.mem_locators h.start).mp hb
    · simp only [Locator.mk.injEq, Scope.oracle.injEq, and_true] at he
      obtain ⟨hidentity, rfl⟩ := he
      have hnodup := h.grows.sound.named (.oracle compartment)
      rw [hl, List.map_append] at hnodup
      have hdisjoint := (List.nodup_append.mp hnodup).2.2
      exact absurd hidentity.symm
        (hdisjoint _ (List.mem_map_of_mem hj) _ (List.mem_map_of_mem hi))
    · simp at he
  · exact hid ▸ hb

theorem filter_id (h : base.Since c ids s) (hx : x ∉ ids) (compartment : String) :
    (s.instances.list (.oracle compartment)).filter (·.id = x) =
      (base.instances.list (.oracle compartment)).filter (·.id = x) := by
  obtain ⟨later, hl⟩ := h.exists_later (.oracle compartment)
  have hnone : later.filter (·.id = x) = [] := by
    refine List.filter_eq_nil_iff.mpr fun i hi he => hx ?_
    exact of_decide_eq_true he ▸ h.id_of_later hl hi
  rw [hl, List.filter_append, hnone, List.append_nil]

end Since

end CloudState

variable {c : Configuration} {s s' base : CloudState} {r : Http.Request} {params : Params}
  {now : Timestamp} {call : Call} {ids ids' : List String}

open Http.Response (Comparable)

namespace Google

variable {project zone : String}

theorem select_of_filter (project zone : String) {f : Option Filter} (h : filter? (r.call params now) = .ok f)
    (items : List Json) :
    select f items = items.filter ((Scope.google project zone).condition r) := by
  cases hc : r.condition? with
  | ok p =>
    obtain ⟨f', hf', hselect⟩ := select_of_condition hc params now
    cases h.symm.trans hf'
    rw [hselect, Scope.condition]
    simp only [Scope.provider, hc]
    rfl
  | error e =>
    have hq : (r.call params now).query? "filter" = r.query? "filter" := rfl
    unfold filter? at h
    unfold Http.Request.condition? at hc
    rw [hq] at h
    cases hfilter : r.query? "filter" with
    | none =>
      rw [hfilter] at hc
      cases hc
    | some text =>
      rw [hfilter] at h hc
      simp only at h hc
      split at hc
      · cases hc
      · rename_i hblank
        rw [if_neg hblank] at h
        cases hparse : Filter.parse text with
        | ok f =>
          rw [hparse] at hc
          cases hc
        | error e =>
          rw [hparse] at h
          cases h

theorem page_matches {items items' : List Json}
    (h : ∀ f, filter? call = .ok f → (select f items).length = (select f items').length) :
    Except.Matches Comparable (page call items) (page call items') := by
  unfold page
  cases hf : filter? call with
  | error e => exact .error e
  | ok f =>
    cases hcount : call.queryCount "maxResults" with
    | error e => exact .error e
    | ok limit =>
      have hm := Page.of_matches (h f hf) limit (call.query? "pageToken")
      simp only [bind, Except.bind]
      generalize Page.of (select f items) limit (call.query? "pageToken") = p at hm ⊢
      generalize Page.of (select f items') limit (call.query? "pageToken") = p' at hm ⊢
      cases hm with
      | ok => exact .ok (.json rfl _ _)
      | error e => exact .error e

theorem list_inStep (h : s.Twins c s')
    (hp : ∀ project zone i j, c.Makes (.google project zone) i → c.Makes (.google project zone) j →
      (Scope.google project zone).bare i = (Scope.google project zone).bare j →
      (Scope.google project zone).condition r (view project i) =
        (Scope.google project zone).condition r (view project j)) (resource : String) :
    Handler.InStep c Comparable s s' (list resource (r.call params now))
      (list resource (r.call params now)) := by
  refine .liftExcept_bind h _ fun project _ => .liftExcept_bind h _ fun zone _ => ?_
  split
  · refine .look_bind (.liftExcept h (page_matches fun f hf => ?_))
    rw [select_of_filter project zone hf, select_of_filter project zone hf]
    exact h.length_filter (hp project zone)
  · exact .liftExcept_self h _
  · exact .throw h _

theorem get_inStep (h : s.Twins c s') (resource : String) (call : Call) :
    Handler.InStep c Comparable s s' (get resource call) (get resource call) := by
  refine .liftExcept_bind h _ fun project _ => .liftExcept_bind h _ fun zone _ => ?_
  split
  · refine .liftExcept_bind h _ fun name _ => ?_
    exact .lookup_bind h (h.get (fun hp => by cases hp) name) fun i j _ => .pure h (.json rfl _ _)
  · refine .liftExcept_bind h _ fun name _ => ?_
    split
    · exact .throw h _
    · exact .pure h (.refl _)
  · exact .throw h _

end Google

namespace Azure

theorem exists_machines (hs : s.Sound c) {subscription group : String} {p : Page Instance}
    {token : Option String} (hp : Page.of (s.instances.list (.azure subscription group))
      (some c.azurePageSize) token = .ok p) :
    ∃ machines, p.items.mapM (describe subscription group) = .ok machines := by
  have hd : ∀ i ∈ p.items, ∃ m, describe subscription group i = .ok m ∧
      (Scope.azure subscription group).view c i = m.encode .ofFields := by
    intro i hi
    obtain ⟨m, hm, hv, -⟩ := (hs.made _ i (Page.mem_of hp hi)).azure_view
    exact ⟨m, hm, hv⟩
  obtain ⟨machines, hm, -⟩ := mapM_of_forall hd
  exact ⟨machines, hm⟩

theorem listing_matches (h : s.Twins c s') (call : Call) (subscription group : String) :
    Except.Matches Comparable
      (listing c call subscription group (s.instances.list (.azure subscription group)))
      (listing c call subscription group (s'.instances.list (.azure subscription group))) := by
  have hm := Page.of_matches (h.length_list (.azure subscription group)) (some c.azurePageSize)
    (call.query? tokenName)
  unfold listing
  generalize hp : Page.of (s.instances.list (.azure subscription group)) (some c.azurePageSize)
    (call.query? tokenName) = page at hm ⊢
  generalize hp' : Page.of (s'.instances.list (.azure subscription group)) (some c.azurePageSize)
    (call.query? tokenName) = page' at hm ⊢
  cases hm with
  | error e => exact .error e
  | ok =>
    obtain ⟨machines, hmachines⟩ := exists_machines h.left hp
    obtain ⟨machines', hmachines'⟩ := exists_machines h.right hp'
    simp only [bind, Except.bind, hmachines, hmachines']
    exact .ok (.json rfl _ _)

theorem list_inStep (h : s.Twins c s') (call : Call) :
    Handler.InStep c Comparable s s' (list c call) (list c call) :=
  .liftExcept_bind h _ fun subscription _ => .liftExcept_bind h _ fun group _ =>
    .look_bind (.liftExcept h (listing_matches h call subscription group))

theorem get_inStep (h : s.Twins c s') (call : Call) :
    Handler.InStep c Comparable s s' (get call) (get call) := by
  refine .liftExcept_bind h _ fun subscription _ => .liftExcept_bind h _ fun group _ =>
    .liftExcept_bind h _ fun name _ => ?_
  refine .lookup_bind h (h.get (fun hp => by cases hp) name) fun i j hij => ?_
  obtain ⟨m, hm, -, -⟩ := (h.left.made _ i hij.1).azure_view
  obtain ⟨m', hm', -, -⟩ := (h.right.made _ j hij.2).azure_view
  rw [hm, hm']
  exact .pure h (.json rfl _ _)

end Azure

namespace Oracle

variable {compartment : String}

theorem replyPage_inStep (h : s.Twins c s') {items items' : List Json}
    (hl : items.length = items'.length) (call : Call) :
    Handler.InStep c Comparable s s' (replyPage call items) (replyPage call items') := by
  refine .liftExcept_bind h _ fun limit _ => ?_
  refine .bind (.liftExcept h (Page.of_matches hl limit (call.query? "page")))
    fun p p' t t' _ ht => ?_
  refine .bind (answer_inStep ht (.array p.items) (.array p'.items)) fun r r' u u' hr hu => ?_
  refine .pure hu (hr.congr ?_ ?_)
  · cases p.next <;> exact ⟨rfl, rfl⟩
  · cases p'.next <;> exact ⟨rfl, rfl⟩

theorem length_sought (config : Configuration) (scope : Scope) (r : Http.Request)
    (l : List Instance) : (scope.sought config r l).length =
      ((l.map (scope.view config)).filter (scope.condition r)).length := by
  have hperm : (scope.arranged r l).Perm l := by
    unfold Scope.arranged
    split
    · exact (ordered_arranged _ _ l).perm
    · exact .refl l
  exact ((hperm.map _).filter _).length_eq

theorem selection_matches (h : s.Twins c s')
    (hp : ∀ i j, c.Makes (.oracle compartment) i → c.Makes (.oracle compartment) j →
      (Scope.oracle compartment).bare i = (Scope.oracle compartment).bare j →
      r.agrees ((Scope.oracle compartment).view c i) =
        r.agrees ((Scope.oracle compartment).view c j)) :
    Except.Matches (fun l l' => l.length = l'.length)
      (selection c (r.call params now) (s.instances.list (.oracle compartment)))
      (selection c (r.call params now) (s'.instances.list (.oracle compartment))) := by
  cases hkey : choice (r.call params now) "sortBy" SortKey.ofName? with
  | error e =>
    unfold selection
    rw [hkey]
    exact .error e
  | ok key =>
    cases horder : choice (r.call params now) "sortOrder" SortOrder.ofName? with
    | error e =>
      unfold selection
      rw [hkey, horder]
      exact .error e
    | ok order =>
      have hselects {t : CloudState} (ht : t.Sound c) :
          ∃ l, selection c (r.call params now) (t.instances.list (.oracle compartment)) = .ok l ∧
            l.length = (((t.instances.list (.oracle compartment)).map
              ((Scope.oracle compartment).view c)).filter
                ((Scope.oracle compartment).condition r)).length := by
        obtain ⟨l, hl, hsought⟩ := selection_of_selects (chooses_of_choice hkey)
          (chooses_of_choice horder) (fun i hi => by
            obtain ⟨m, hm, hv, -⟩ := (ht.made (.oracle compartment) i hi).oracle_view
            exact ⟨m, hm, hv⟩) params now
        refine ⟨l, hl, ?_⟩
        rw [← length_sought, ← hsought, List.length_map]
      obtain ⟨l, hl, hlength⟩ := hselects h.left
      obtain ⟨l', hl', hlength'⟩ := hselects h.right
      rw [hl, hl']
      exact .ok (hlength.trans ((h.length_filter hp).trans hlength'.symm))

theorem listInstances_inStep (h : s.Twins c s')
    (hp : ∀ compartment i j, c.Makes (.oracle compartment) i → c.Makes (.oracle compartment) j →
      (Scope.oracle compartment).bare i = (Scope.oracle compartment).bare j →
      r.agrees ((Scope.oracle compartment).view c i) =
        r.agrees ((Scope.oracle compartment).view c j)) :
    Handler.InStep c Comparable s s' (listInstances c (r.call params now))
      (listInstances c (r.call params now)) := by
  refine .liftExcept_bind h _ fun compartment _ => .look_bind ?_
  refine .bind (.liftExcept h (selection_matches h (hp compartment))) fun l l' t t' hl ht => ?_
  exact replyPage_inStep ht (by rw [List.length_map, List.length_map, hl]) _

theorem length_attachments {l : List Instance}
    (h : ∀ i ∈ l, c.Makes (.oracle compartment) i) :
    (attachments compartment l).length = l.length := by
  induction l with
  | nil => rfl
  | cons i l ih =>
    obtain ⟨-, nic, attachment, hn, ha⟩ := made_shape (h i List.mem_cons_self)
    have hrest := ih fun j hj => h j (List.mem_cons_of_mem _ hj)
    simp only [attachments] at hrest
    simp [attachments, hn, describeAttachment, ha, hrest]

theorem listAttachments_inStep (h : s.Twins c s') (k : base.Since c ids s)
    (k' : base.Since c ids' s')
    (hx : ∀ x, call.query? "instanceId" = some x → x ∉ ids ∧ x ∉ ids') :
    Handler.InStep c Comparable s s' (listAttachments call) (listAttachments call) := by
  refine .liftExcept_bind h _ fun compartment _ => .look_bind (replyPage_inStep h ?_ call)
  have hmade (p : Instance → Bool) : ∀ i ∈ (s.instances.list (.oracle compartment)).filter p,
      c.Makes (.oracle compartment) i := fun i hi =>
    h.left.made _ i (List.mem_of_mem_filter hi)
  have hmade' (p : Instance → Bool) : ∀ i ∈ (s'.instances.list (.oracle compartment)).filter p,
      c.Makes (.oracle compartment) i := fun i hi =>
    h.right.made _ i (List.mem_of_mem_filter hi)
  rw [List.length_map, List.length_map, length_attachments (hmade _),
    length_attachments (hmade' _)]
  cases hq : call.query? "instanceId" with
  | none => simpa [agrees, hq] using h.length_list (.oracle compartment)
  | some x =>
    obtain ⟨hi, hi'⟩ := hx x hq
    simp only [agrees, hq]
    rw [k.filter_id hi, k'.filter_id hi']

theorem listShapes_inStep (h : s.Twins c s') (call : Call) :
    Handler.InStep c Comparable s s' (listShapes call) (listShapes call) :=
  .liftExcept_bind h _ fun _ _ => replyPage_inStep h rfl call

theorem list_inStep (h : s.Twins c s') (k : base.Since c ids s) (k' : base.Since c ids' s')
    (hp : ∀ compartment i j, c.Makes (.oracle compartment) i → c.Makes (.oracle compartment) j →
      (Scope.oracle compartment).bare i = (Scope.oracle compartment).bare j →
      r.agrees ((Scope.oracle compartment).view c i) =
        r.agrees ((Scope.oracle compartment).view c j))
    (hx : ∀ x, r.query? "instanceId" = some x → x ∉ ids ∧ x ∉ ids') (resource : String) :
    Handler.InStep c Comparable s s' (list c resource (r.call params now))
      (list c resource (r.call params now)) := by
  unfold list
  split
  · exact listInstances_inStep h hp
  · exact listAttachments_inStep h k k' hx
  · exact listShapes_inStep h _
  · exact .throw h _

/-- Identifiers that are not generated since lead to what they led to before. -/
theorem find_bind_inStep {f f' : Locator → Handler Http.Response} {x : String} (h : s.Twins c s')
    (k : base.Since c ids s) (k' : base.Since c ids' s') (hx : x ∉ ids) (hx' : x ∉ ids')
    (hf : ∀ l ∈ base.locators.list tenancy, l.identity = x →
      Handler.InStep c Comparable s s' (f l) (f' l)) :
    Handler.InStep c Comparable s s' (find x >>= f) (find x >>= f') := by
  have hmatches : Except.Matches
      (fun l l' => l = l' ∧ l ∈ base.locators.list tenancy ∧ l.identity = x)
      (s.locators.get tenancy x) (s'.locators.get tenancy x) := by
    rw [k.get_locator hx, k'.get_locator hx']
    cases hl : base.locators.get tenancy x with
    | error e => exact .error e
    | ok l => exact .ok ⟨rfl, (Store.get_eq_ok_iff k.start.identified).mp hl⟩
  refine .lookup_bind h hmatches ?_
  rintro l _ ⟨rfl, hm, hid⟩
  exact hf l hm hid

/-- The instance that an identifier leads to is the same one in both states. -/
theorem located_bind_inStep {f : Instance → Handler Http.Response} {l : Locator} {x : String}
    (h : s.Twins c s') (k : base.Since c ids s) (k' : base.Since c ids' s')
    (hl : l ∈ base.locators.list tenancy) (hx : x = l.identity ∨ l.owner = some x)
    (hf : ∀ i, Handler.InStep c Comparable s s' (f i) (f i)) :
    Handler.InStep c Comparable s s'
      ((Handler.lookup fun t => t.instances.get l.home x) >>= f)
      ((Handler.lookup fun t => t.instances.get l.home x) >>= f) := by
  obtain ⟨r, hr⟩ := get_of_located k.start hl hx
  refine .lookup_bind h (.of_eq ((hr s k.grows).trans (hr s' k'.grows).symm)) fun i j hij => ?_
  exact hij ▸ hf i

theorem getInstance_inStep (h : s.Twins c s') (k : base.Since c ids s) (k' : base.Since c ids' s')
    (hx : ∀ x, call.params.get? "instanceId" = some x → x ∉ ids ∧ x ∉ ids') :
    Handler.InStep c Comparable s s' (getInstance c call) (getInstance c call) := by
  refine .liftExcept_bind h _ fun x he => ?_
  obtain ⟨hi, hi'⟩ := hx x (Call.param_eq_ok.mp he)
  refine find_bind_inStep h k k' hi hi' fun l hl hid => ?_
  refine located_bind_inStep h k k' hl (.inl hid.symm) fun i => ?_
  exact .liftExcept_bind h _ fun m _ => answer_inStep h _ _

theorem getVnic_inStep (h : s.Twins c s') (k : base.Since c ids s) (k' : base.Since c ids' s')
    (hx : ∀ x, call.params.get? "vnicId" = some x → x ∉ ids ∧ x ∉ ids') :
    Handler.InStep c Comparable s s' (getVnic call) (getVnic call) := by
  refine .liftExcept_bind h _ fun x he => ?_
  obtain ⟨hi, hi'⟩ := hx x (Call.param_eq_ok.mp he)
  refine find_bind_inStep h k k' hi hi' fun l hl _ => ?_
  cases ho : l.owner with
  | none => exact .throw h _
  | some owner =>
    refine located_bind_inStep h k k' hl (.inr ho) fun i => ?_
    cases describeVnic l.home i x with
    | none => exact .throw h _
    | some vnic => exact answer_inStep h _ _

theorem get_inStep (h : s.Twins c s') (k : base.Since c ids s) (k' : base.Since c ids' s')
    (hx : ∀ name x, call.params.get? name = some x → x ∉ ids ∧ x ∉ ids') (resource : String) :
    Handler.InStep c Comparable s s' (get c resource call) (get c resource call) := by
  unfold get
  split
  · exact getInstance_inStep h k k' (hx _)
  · exact getVnic_inStep h k k' (hx _)
  · exact .throw h _

end Oracle

end CloudEmulation
