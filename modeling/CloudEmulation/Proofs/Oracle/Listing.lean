import CloudEmulation.Proofs.Emulation.Selections
/-!
Answers to requests that list a compartment.
-/

namespace CloudEmulation.Oracle

variable {c : Configuration} {s : CloudState} {r : Http.Request} {call : Call}
  {compartment : String} {n : Nat}

theorem replyPage_of_offset {items : List Json} {limit : Option Nat} (s : CloudState)
    (hcount : call.queryCount "limit" = .ok limit)
    (ho : Page.offset items.length (call.query? "page") = .ok n) :
    ∃ answer s', (replyPage call items).exec s = (.ok answer, s') ∧ answer.isSuccess = true ∧
      Provider.oracle.shown answer = (Page.slice items limit n).items ∧
      Provider.oracle.next? answer = (Page.slice items limit n).next := by
  have hp : Page.of items limit (call.query? "page") = .ok (Page.slice items limit n) :=
    Page.of_eq_ok.mpr ⟨n, ho, rfl⟩
  obtain ⟨id, s', hx⟩ := exec_answer (.array (Page.slice items limit n).items) s
  have hfirst : Http.sameName "content-type" "opc-next-page" = false := by decide +kernel
  have hsecond : Http.sameName "opc-request-id" "opc-next-page" = false := by decide +kernel
  have hthird : Http.sameName "opc-next-page" "opc-next-page" = true := by decide +kernel
  unfold replyPage
  rw [hcount, Handler.exec_bind_liftExcept_ok, hp, Handler.exec_bind_liftExcept_ok,
    Handler.exec_bind_ok _ hx]
  cases hnext : (Page.slice items limit n).next with
  | none =>
    refine ⟨_, s', rfl, rfl, rfl, ?_⟩
    simp [Provider.next?, Http.Response.header?, Http.Response.withHeader, Http.Response.json,
      hfirst, hsecond]
  | some token =>
    refine ⟨_, s', rfl, rfl, rfl, ?_⟩
    simp [Provider.next?, Http.Response.header?, Http.Response.withHeader, Http.Response.json,
      hfirst, hsecond, hthird]

theorem choice_of_chooses {α : Type} {name : String} {ofName? : String → Option α}
    (h : r.Chooses name ofName?) (params : Params) (now : Timestamp) :
    choice (r.call params now) name ofName? = .ok ((r.query? name).bind ofName?) := by
  have hq : (r.call params now).query? name = r.query? name := rfl
  unfold choice
  rw [hq]
  cases hr : r.query? name with
  | none => rfl
  | some raw =>
    obtain ⟨a, ha⟩ := Option.isSome_iff_exists.mp (h raw hr)
    simp [ha]

theorem assigned_shown (c : Configuration) (i : Instance) (d : LaunchDetails) :
    let j := (assigned c i d).encode .ofFields
    j.textMember? "availabilityDomain" = some i.placement ∧
      j.textMember? "displayName" = some i.name ∧
      j.textMember? "lifecycleState" = some (stateName i.status) := by
  have hn : ComputeInstance.fields.Nodup := by decide
  have he : ∀ p ∈ (assigned c i d).extra, p.1 ∉ ComputeInstance.fields := by
    intro p hp
    exact (Dictionary.mem_without.mp hp).2
  refine ⟨Json.textMember?_record hn he rfl ?_, Json.textMember?_record hn he rfl ?_,
    Json.textMember?_record hn he rfl ?_⟩
  · simp [assigned]
  · simp [assigned]
  · simp [assigned]

theorem agrees_encode {i : Instance} {m : ComputeInstance} (hm : describe c i = .ok m)
    (params : Params) (now : Timestamp) :
    r.agrees (m.encode .ofFields) = wanted (r.call params now) m := by
  obtain ⟨d, rfl⟩ : ∃ d, m = assigned c i d := by
    unfold describe at hm
    split at hm
    · cases hm
      exact ⟨_, rfl⟩
    · cases hm
  have hq (name : String) : (r.call params now).query? name = r.query? name := rfl
  obtain ⟨hdomain, hname, hstate⟩ := assigned_shown c i d
  simp only [Http.Request.agrees, List.all_cons, List.all_nil, Bool.and_true, hdomain, hname,
    hstate, wanted, agrees, hq, Option.some.injEq, Bool.and_assoc]
  rfl

theorem selection_of_selects {instances : List Instance}
    (hkey : r.Chooses "sortBy" SortKey.ofName?) (horder : r.Chooses "sortOrder" SortOrder.ofName?)
    (hd : ∀ i ∈ instances, ∃ m, describe c i = .ok m ∧
      (Scope.oracle compartment).view c i = m.encode .ofFields) (params : Params)
    (now : Timestamp) :
    ∃ selected, selection c (r.call params now) instances = .ok selected ∧
      selected.map (·.encode .ofFields) = (Scope.oracle compartment).sought c r instances := by
  have hd' : ∀ i ∈ (Scope.oracle compartment).arranged r instances, ∃ m, describe c i = .ok m ∧
      (Scope.oracle compartment).view c i = m.encode .ofFields :=
    fun i hi => hd i (Scope.mem_arranged.mp hi)
  obtain ⟨described, hm, hviews⟩ := mapM_of_forall hd'
  refine ⟨described.filter (wanted (r.call params now)), ?_, ?_⟩
  · have hm' : (arranged ((r.query? "sortBy").bind SortKey.ofName?)
        ((r.query? "sortOrder").bind SortOrder.ofName?) instances).mapM (describe c) =
          .ok described := hm
    unfold selection
    simp only [choice_of_chooses hkey, choice_of_chooses horder, bind, Except.bind, hm']
    rfl
  · have hagrees : ∀ m ∈ described, r.agrees (m.encode .ofFields) =
        wanted (r.call params now) m := by
      intro m hmem
      obtain ⟨i, -, hi⟩ := exists_of_mem_mapM hm hmem
      exact agrees_encode hi params now
    rw [Scope.sought, ← hviews]
    show _ = (described.map _).filter r.agrees
    rw [List.filter_map]
    exact congrArg _ (List.filter_congr fun m hm => (hagrees m hm).symm)

theorem handle_selects (hs : s.Sound c) (now : Timestamp)
    (h : (Scope.oracle compartment).Selects r)
    (ho : Page.offset ((Scope.oracle compartment).sought c r
      (s.instances.list (.oracle compartment))).length (r.query? "page") = .ok n) :
    ∃ answer s', ((Provider.oracle.emulator c).handle now r).exec s = (.ok answer, s') ∧
      (Scope.oracle compartment).Displays r answer
        (Page.slice ((Scope.oracle compartment).sought c r
          (s.instances.list (.oracle compartment))) ((Scope.oracle compartment).limit c r) n) := by
  cases h with
  | @oracle _ _ params hr hcompartment hne hkey horder hcount =>
    have hd : ∀ i ∈ s.instances.list (.oracle compartment), ∃ m, describe c i = .ok m ∧
        (Scope.oracle compartment).view c i = m.encode .ofFields := by
      intro i hi
      obtain ⟨m, hm, hv, -⟩ := (hs.made _ i hi).oracle_view
      exact ⟨m, hm, hv⟩
    obtain ⟨selected, hselected, hsought⟩ := selection_of_selects hkey horder hd params now
    rw [← hsought] at ho ⊢
    obtain ⟨answer, s', hx, hsuccess, hshown, hnext⟩ :=
      replyPage_of_offset s (hcount.queryCount params now) ho
    have hq : (r.call params now).requireQuery "compartmentId" = .ok compartment := by
      have hq : (r.call params now).query? "compartmentId" = some compartment := hcompartment
      simp [Call.requireQuery, hq, hne]
    refine ⟨answer, s', ?_, hsuccess, hshown, hnext.trans ?_⟩
    · rw [hr.handle c now]
      show (listInstances c (r.call params now)).exec s = _
      unfold listInstances
      rw [hq, Handler.exec_bind_liftExcept_ok, Handler.exec_bind_ok _ (Handler.exec_look _ _),
        hselected, Handler.exec_bind_liftExcept_ok]
      exact hx
    · exact Option.map_id'.symm

end CloudEmulation.Oracle
