import CloudEmulation.Proofs.Emulation.Selections
/-!
Answers to requests that list a resource group.
-/

namespace CloudEmulation.Azure

variable {c : Configuration} {s : CloudState} {r : Http.Request} {call : Call}
  {subscription group : String} {n : Nat}

theorem hasVersion_iff :
    hasVersion call = true ↔ ∃ version, call.query? "api-version" = some version ∧ version ≠ "" := by
  unfold hasVersion
  cases call.query? "api-version" <;> simp

theorem shown_of_list (machines : List VirtualMachine) (link : Option String) :
    let answer := Http.Response.json 200 ((MachineList.mk machines link).encode .ofFields)
    Provider.azure.shown answer = machines.map (·.encode .ofFields) ∧
      Provider.azure.next? answer = link := by
  have hn : MachineList.fields.Nodup := by decide
  have he : ∀ p ∈ ([] : Json.Members), p.1 ∉ MachineList.fields := by simp
  constructor
  · have hm : ((MachineList.mk machines link).encode .ofFields).member? "value" =
        some (.array (machines.map (·.encode .ofFields))) :=
      Json.member?_record hn he rfl List.mem_cons_self
    simp [Provider.shown, Http.Response.json, hm, Json.items]
  · exact Json.textMember?_optional hn he rfl (by simp)

theorem list_of_page {instances : List Instance} {machines : List VirtualMachine}
    (hs : s.instances.list (.azure subscription group) = instances)
    (hsubscription : call.param "subscriptionId" = .ok subscription)
    (hgroup : call.param "resourceGroupName" = .ok group)
    (ho : Page.offset instances.length (call.query? tokenName) = .ok n)
    (hm : (Page.slice instances (some c.azurePageSize) n).items.mapM
      (describe subscription group) = .ok machines) :
    (list c call).exec s = (.ok (.json 200 ((MachineList.mk machines
      ((Page.slice instances (some c.azurePageSize) n).next.map fun token =>
        (nextLink call token).text)).encode .ofFields)), s) := by
  have hp : Page.of instances (some c.azurePageSize) (call.query? tokenName) =
      .ok (Page.slice instances (some c.azurePageSize) n) := Page.of_eq_ok.mpr ⟨n, ho, rfl⟩
  unfold list
  rw [hsubscription, hgroup, Handler.exec_bind_liftExcept_ok, Handler.exec_bind_liftExcept_ok,
    Handler.exec_bind_ok _ (Handler.exec_look _ _), hs, Handler.exec_liftExcept, listing, hp]
  simp only [bind, Except.bind, hm]
  rfl

theorem handle_selects (hs : s.Sound c) (now : Timestamp)
    (h : (Scope.azure subscription group).Selects r)
    (ho : Page.offset ((Scope.azure subscription group).sought c r
      (s.instances.list (.azure subscription group))).length (r.query? tokenName) = .ok n) :
    ∃ answer s', ((Provider.azure.emulator c).handle now r).exec s = (.ok answer, s') ∧
      (Scope.azure subscription group).Displays r answer
        (Page.slice ((Scope.azure subscription group).sought c r
          (s.instances.list (.azure subscription group)))
            ((Scope.azure subscription group).limit c r) n) := by
  cases h with
  | @azure _ _ _ params hr hsubscription hgroup hversion =>
    have hsought : (Scope.azure subscription group).sought c r
        (s.instances.list (.azure subscription group)) =
          (s.instances.list (.azure subscription group)).map
            ((Scope.azure subscription group).view c) := List.filter_true _
    rw [hsought, List.length_map] at ho
    rw [hsought, Page.map_slice]
    have hv : hasVersion (r.call params now) = true := hasVersion_iff.mpr hversion
    have hd : ∀ i ∈ (Page.slice (s.instances.list (.azure subscription group))
        (some c.azurePageSize) n).items, ∃ m, describe subscription group i = .ok m ∧
          (Scope.azure subscription group).view c i = m.encode .ofFields := by
      intro i hi
      obtain ⟨m, hm, hv, -⟩ := (hs.made _ i (Page.mem_slice hi)).azure_view
      exact ⟨m, hm, hv⟩
    obtain ⟨machines, hm, hviews⟩ := mapM_of_forall hd
    have hx : (list c (r.call params now)).exec s = _ := list_of_page rfl
      (Call.param_eq_ok.mpr hsubscription) (Call.param_eq_ok.mpr hgroup) ho hm
    obtain ⟨hshown, hnext⟩ := shown_of_list machines _
    refine ⟨_, s, ?_, rfl, hshown.trans hviews, hnext⟩
    rw [hr.handle c now]
    exact (congrArg (·.exec s) (handler_of_version c .list hv)).trans hx

end CloudEmulation.Azure
