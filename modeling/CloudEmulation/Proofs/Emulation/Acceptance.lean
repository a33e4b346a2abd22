import CloudEmulation.Proofs.Emulation.Responses
import CloudEmulation.Proofs.Json.Records
/-!
Which instance an answered request created, as its sender can tell.
-/

namespace CloudEmulation

namespace Google

def created? (params : Params) (body : Option Json) : Option (Scope × String) := do
  let project ← params.get? "project"
  let zone ← params.get? "zone"
  let name ← (← body).textMember? "name"
  return (.google project zone, name)

theorem name_of_decode {body : Json} {request : InsertRequest}
    (h : InsertRequest.decode body = .ok request) : body.textMember? "name" = some request.name := by
  obtain ⟨m, rfl, hb⟩ := Record.decodeOpen_eq_ok h
  simp only [Ranked.ap_eq_ok, Ranked.map_eq_ok, Record.text_eq_ok] at hb
  obtain ⟨_, _, ⟨name, hn, rfl⟩, -, rfl⟩ := hb
  exact Json.textMember?_object hn

theorem Draft.ofBody_eq_ok {c : Configuration} {now : Timestamp} {project zone : String}
    {body : Json} {d : Draft} (h : Draft.ofBody c now project zone body = .ok d) :
    d.scope = .google project zone ∧ InsertRequest.decode body = .ok d.request ∧
      requestedAddresses d.request.extra = .ok d.addresses := by
  unfold ofBody at h
  split at h
  · cases h
  · rename_i request hr
    split at h
    · cases h
    · cases ha : requestedAddresses request.extra with
      | error e => simp [ha, bind, Except.bind] at h
      | ok as =>
        simp only [ha, bind, Except.bind, pure, Except.pure, Except.ok.injEq] at h
        cases h
        exact ⟨rfl, hr, ha⟩

theorem created?_of_draft {c : Configuration} {call : Call} {d : Draft} (h : draft c call = .ok d) :
    created? call.params call.body = some (d.scope, d.request.name) := by
  obtain ⟨project, zone, body, hproject, hzone, hbody, hd⟩ := draft_eq_ok.mp h
  obtain ⟨hs, hr, -⟩ := Draft.ofBody_eq_ok hd
  simp [created?, hproject, hzone, hbody, hs, name_of_decode hr]

end Google

namespace Azure

def created? (params : Params) : Option (Scope × String) := do
  let subscription ← params.get? "subscriptionId"
  let group ← params.get? "resourceGroupName"
  let name ← params.get? "vmName"
  return (.azure subscription group, name)

theorem Draft.ofBody_eq_ok {c : Configuration} {now : Timestamp}
    {subscription group name : String} {body : Json} {d : Draft}
    (h : Draft.ofBody c now subscription group name body = .ok d) :
    d.scope = .azure subscription group ∧ d.name = name := by
  unfold ofBody at h
  split at h
  · cases h
  · split at h
    · cases h
    · split at h
      · cases h
        exact ⟨rfl, rfl⟩
      · cases h

theorem draft_eq_ok {c : Configuration} {call : Call} {d : Draft} : draft c call = .ok d ↔
    ∃ subscription group name body, call.params.get? "subscriptionId" = some subscription ∧
      call.params.get? "resourceGroupName" = some group ∧ call.params.get? "vmName" = some name ∧
      call.body = some body ∧
      Draft.ofBody c call.now subscription group name body = .ok d := by
  unfold draft Call.param
  cases call.body with
  | none => simp
  | some body =>
    cases call.params.get? "subscriptionId" with
    | none => simp [Call.refusal, bind, Except.bind]
    | some subscription =>
      cases call.params.get? "resourceGroupName" with
      | none => simp [Call.refusal, bind, Except.bind]
      | some group =>
        cases call.params.get? "vmName" <;> simp [Call.refusal, bind, Except.bind]

theorem created?_of_draft {c : Configuration} {call : Call} {d : Draft} (h : draft c call = .ok d) :
    created? call.params = some (d.scope, d.name) := by
  obtain ⟨subscription, group, name, body, hs, hg, hn, -, hd⟩ := draft_eq_ok.mp h
  obtain ⟨he, hname⟩ := Draft.ofBody_eq_ok hd
  simp [created?, hs, hg, hn, he, hname]

end Azure

namespace Oracle

def created? (body answer : Option Json) : Option (Scope × String) := do
  let compartment ← (← body).textMember? "compartmentId"
  let id ← (← answer).textMember? "id"
  return (.oracle compartment, id)

theorem compartmentId_of_decode {body : Json} {details : LaunchDetails}
    (h : LaunchDetails.decode body = .ok details) :
    body.textMember? "compartmentId" = some details.compartmentId := by
  obtain ⟨m, rfl, hb⟩ := Record.decodeOpen_eq_ok h
  simp only [Ranked.ap_eq_ok, Ranked.map_eq_ok, Record.text_eq_ok] at hb
  obtain ⟨_, _, ⟨_, _, ⟨_, _, ⟨_, _, ⟨_, _, ⟨_, hc, rfl⟩, -, rfl⟩, -, rfl⟩, -, rfl⟩, -, rfl⟩, -, rfl⟩ := hb
  exact Json.textMember?_object hc

theorem id_of_encode (c : Configuration) (i : Instance) (details : LaunchDetails) :
    ((assigned c i details).encode .ofFields).textMember? "id" = some i.id := by
  have hn : ComputeInstance.fields.Nodup := by decide
  refine Json.textMember?_record hn ?_ rfl ?_
  · intro p hp
    exact (Dictionary.mem_without.mp hp).2
  · simp [assigned]

theorem created?_of_draft {c : Configuration} {now : Timestamp} {body : Json} {d : Draft}
    (h : Draft.ofBody c now body = .ok d) (i : Instance) :
    created? (some body) (some ((assigned c i d.details).encode .ofFields)) =
      some (d.scope, i.id) := by
  obtain ⟨request, details, rfl, hdec, rfl⟩ := Draft.ofBody_eq_ok h
  simp [created?, compartmentId_of_decode hdec, id_of_encode, Draft.scope]

end Oracle

end CloudEmulation
