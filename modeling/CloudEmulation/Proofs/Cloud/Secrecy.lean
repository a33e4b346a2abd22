import CloudEmulation.Proofs.Cloud.Mirrors
import CloudEmulation.Proofs.Emulation.Bodies
/-!
Passwords do not interfere: what a cloud answers tells nothing of the passwords in the requests that
it was sent.
-/

namespace CloudEmulation

open Handler (Mirrors)

variable {config : Configuration} {c : Cloud} {now : Timestamp} {r : Http.Request} {p : Provider}

/-- A request without the password that it has for a machine. -/
def Provider.concealed (p : Provider) (r : Http.Request) : Http.Request :=
  match p with
  | .azure => { r with body := r.body.map Azure.VirtualMachine.concealed }
  | _ => r

/-- An operation without the password that it has for a machine. -/
def Operation.concealed : Operation → Operation
  | .put subscription group name body =>
    .put subscription group name (Azure.VirtualMachine.concealed body)
  | .request p r => .request p (p.concealed r)
  | op => op

namespace Provider

theorem handler_mirrors {s : CloudState} (h : s.Sound config) (p : Provider) (verb : Verb)
    (resource : String) (r : Http.Request) (params : Params) (now : Timestamp) :
    Mirrors s id ((p.emulator config).handler verb resource (r.call params now))
      ((p.emulator config).handler verb resource ((p.concealed r).call params now)) := by
  cases p with
  | google =>
    cases verb with
    | create => exact Google.create_mirrors s config resource _
    | list => exact Google.list_mirrors s resource _
    | get => exact Google.get_mirrors s resource _
  | azure => exact Azure.handler_mirrors s config verb resource _
  | oracle =>
    cases verb with
    | create => exact Oracle.create_mirrors s config resource _
    | list => exact Oracle.list_mirrors s config resource _
    | get => exact Oracle.get_mirrors h resource _

theorem route?_concealed (p : Provider) (r : Http.Request) :
    p.route? (p.concealed r) = p.route? r := by
  cases p <;> rfl

theorem unrouted_concealed (p : Provider) (r : Http.Request) :
    (p.emulator config).unrouted (p.concealed r) = (p.emulator config).unrouted r := by
  cases p <;> rfl

theorem handle_mirrors {s : CloudState} (h : s.Sound config) (p : Provider) (now : Timestamp)
    (r : Http.Request) :
    Mirrors s id ((p.emulator config).handle now r)
      ((p.emulator config).handle now (p.concealed r)) := by
  cases hr : p.route? r with
  | none =>
    rw [handle_of_unrouted hr, handle_of_unrouted ((p.route?_concealed r).trans hr),
      unrouted_concealed]
    exact .throw _ _ _
  | some routed =>
    obtain ⟨route, params⟩ := routed
    rw [handle_of_routed hr, handle_of_routed ((p.route?_concealed r).trans hr)]
    exact handler_mirrors h p _ _ r params now

theorem refusal_concealed (p : Provider) (f : Fault) (s : CloudState) :
    ((p.emulator config).refusal f).run s.concealed =
      ((((p.emulator config).refusal f).run s).1,
        (((p.emulator config).refusal f).run s).2.concealed) := by
  cases p with
  | google => rfl
  | azure => rfl
  | oracle => exact Oracle.run_reply_concealed _ _ s

theorem respond_concealed {s : CloudState} (h : s.Sound config) (p : Provider) (now : Timestamp)
    (r : Http.Request) :
    ((p.emulator config).respond now (p.concealed r)).run s.concealed =
      ((((p.emulator config).respond now r).run s).1,
        (((p.emulator config).respond now r).run s).2.concealed) := by
  have hm : ((p.emulator config).handle now (p.concealed r)).exec s.concealed = _ :=
    handle_mirrors h p now r
  rw [Emulator.run_respond, Emulator.run_respond, hm]
  cases ((p.emulator config).handle now r).exec s with
  | mk result s' =>
    cases result with
    | ok answer => rfl
    | error f => exact p.refusal_concealed f s'

end Provider

namespace Cloud

/-- A cloud that never saw a password. -/
def concealed (c : Cloud) : Cloud := ⟨c.config, c.state.concealed⟩

/-- What is answered to operations, one after another. -/
def answers (c : Cloud) : List (Timestamp × Operation) → List Answer
  | [] => []
  | (now, op) :: rest => (c.perform now op).1 :: answers (c.perform now op).2 rest

theorem perform_concealed (h : Consistent config c) (now : Timestamp) (op : Operation) :
    c.concealed.perform now op.concealed =
      ((c.perform now op).1, (c.perform now op).2.concealed) := by
  obtain ⟨rfl, hs, -⟩ := h
  cases op with
  | insert project zone body =>
    have hm := Google.insert_mirrors c.state c.config now project zone body
    unfold Mirrors at hm
    simp only [Operation.concealed, perform, concealed, hm, Except.map_id, id_eq]
  | put subscription group name body =>
    have hm := Azure.put_mirrors c.state c.config now subscription group name body
    unfold Mirrors at hm
    simp only [Operation.concealed, perform, concealed, hm, Except.map_id, id_eq]
  | launch body =>
    have hm := Oracle.launch_mirrors c.state c.config now body
    unfold Mirrors at hm
    simp only [Operation.concealed, perform, concealed, hm, Except.map_id, id_eq]
  | request p r =>
    have hm := Provider.respond_concealed hs p now r
    simp only [Operation.concealed, perform, respond, run, concealed, hm]

theorem answers_concealed (h : Consistent config c) (ops : List (Timestamp × Operation)) :
    c.concealed.answers (ops.map fun op => (op.1, op.2.concealed)) = c.answers ops := by
  induction ops generalizing c with
  | nil => rfl
  | cons op ops ih =>
    rw [List.map_cons, answers, answers, perform_concealed h]
    exact congrArg _ (ih (h.step (h.step_perform op.1 op.2)))

end Cloud

/-! What is shown of machines. -/

namespace Azure

variable {s s' : CloudState} {call : Call} {answer : Http.Response}

theorem password?_of_member? {j : Json} (h : j.member? "properties" = none) :
    password? j = none := by
  rw [password?, h]
  rfl

/-- An error is no machine, and no list of machines. -/
theorem no_password_of_error {e : CloudError} (h : answer.body = some (e.encode .ofFields)) :
    (∀ b, answer.body = some b → password? b = none) ∧
      ∀ v ∈ Provider.azure.shown answer, password? v = none := by
  have hm (name : String) (hn : name ∉ ["error"]) : (e.encode .ofFields).member? name = none :=
    Json.member?_record_other rfl hn nofun
  constructor
  · intro b hb
    rw [h] at hb
    cases hb
    exact password?_of_member? (hm "properties" (by decide))
  · intro v hv
    rw [Provider.shown, h, Option.bind_some, hm "value" (by decide)] at hv
    cases hv

theorem no_password_of_handler {verb : Verb} {name : String}
    (h : (handler config verb name call).exec s = (.ok answer, s')) :
    (∀ b, answer.body = some b → password? b = none) ∧
      (verb = .list → ∀ v ∈ Provider.azure.shown answer, password? v = none) := by
  unfold handler at h
  split at h
  · cases h
  · split at h
    · cases h
      have he := @no_password_of_error versionMissing _ rfl
      exact ⟨he.1, fun _ => he.2⟩
    · cases verb with
      | create =>
        obtain ⟨subscription, group, name, body, d, i, m, -, -, -, hm, rfl⟩ := create_eq_ok h
        refine ⟨?_, nofun⟩
        rintro _ ⟨⟩
        exact password?_of_describe hm
      | get =>
        obtain ⟨subscription, group, name, i, m, -, -, -, -, hm, rfl⟩ := get_eq_ok h
        refine ⟨?_, nofun⟩
        rintro _ ⟨⟩
        exact password?_of_describe hm
      | list =>
        obtain ⟨subscription, group, machines, link, -, -, rfl, hm⟩ := list_eq_ok h
        constructor
        · rintro _ ⟨⟩
          have hn : "properties" ∉ MachineList.fields := by decide
          exact password?_of_member? (Json.member?_record_other rfl hn nofun)
        · intro _ v hv
          rw [(shown_of_list machines link).1] at hv
          obtain ⟨m, hmem, rfl⟩ := List.mem_map.mp hv
          obtain ⟨i, -, hd⟩ := hm m hmem
          exact password?_of_describe hd

end Azure

namespace Cloud

theorem respond_no_password (c : Cloud) (now : Timestamp) (r : Http.Request) :
    (∀ b, (c.respond .azure now r).1.body = some b → Azure.password? b = none) ∧
      ∀ params, Provider.azure.Routed r .list Azure.resource params →
        ∀ v ∈ Provider.azure.shown (c.respond .azure now r).1, Azure.password? v = none := by
  have hr : (c.respond .azure now r).1 =
    (((Provider.azure.emulator c.config).respond now r).run c.state).1 := rfl
  rw [hr, Emulator.run_respond]
  cases hx : ((Provider.azure.emulator c.config).handle now r).exec c.state with
  | mk result s' =>
    cases result with
    | error f =>
      have he := @Azure.no_password_of_error (Azure.refusal f) _ rfl
      exact ⟨he.1, fun _ _ => he.2⟩
    | ok answer =>
      cases hroute : Provider.azure.route? r with
      | none =>
        rw [Provider.handle_of_unrouted hroute] at hx
        cases hx
      | some routed =>
        obtain ⟨route, params⟩ := routed
        rw [Provider.handle_of_routed hroute] at hx
        obtain ⟨hbody, hlist⟩ := Azure.no_password_of_handler hx
        refine ⟨hbody, ?_⟩
        rintro params' ⟨route', hroute', hverb, -⟩
        rw [hroute] at hroute'
        cases hroute'
        exact hlist hverb

/-- Two runs that differ in passwords alone are answered the same, and no machine is shown with a
password. -/
theorem passwords_do_not_interfere (h : Reachable config c) :
    (∀ ops ops' : List (Timestamp × Operation),
      ops.map (fun op => (op.1, op.2.concealed)) = ops'.map (fun op => (op.1, op.2.concealed)) →
        c.answers ops = c.answers ops') ∧
    ∀ ops now r,
      (∀ b, ((c.after ops).respond .azure now r).1.body = some b → Azure.password? b = none) ∧
      ∀ params, Provider.azure.Routed r .list Azure.resource params →
        ∀ v ∈ Provider.azure.shown ((c.after ops).respond .azure now r).1,
          Azure.password? v = none := by
  refine ⟨?_, fun ops now r => respond_no_password _ now r⟩
  intro ops ops' he
  have hc := h.consistent
  rw [← answers_concealed hc ops, he, answers_concealed hc ops']

/-- Two machines are created and shown in the same way, one with a password and one without. -/
theorem answers_with_and_without_password :
    let url (version : String) : Url := ⟨"https", none, .segments ["subscriptions", "sub",
      "resourceGroups", "group", "providers", "Microsoft.Compute", "virtualMachines", "web"],
      some version, none⟩
    let body (profile : Json.Members) : Json := .object [("location", .string "westeurope"),
      ("properties", .object [("osProfile", .object profile)])]
    let ops (profile : Json.Members) : List (Timestamp × Operation) := [
      (⟨0, 0⟩, .request .azure ⟨"PUT", url "api-version=1", [], some (body profile)⟩),
      (⟨1, 0⟩, .request .azure ⟨"GET", url "api-version=1", [], none⟩)]
    let user := ("adminUsername", Json.string "ada")
    initial.answers (ops [("adminPassword", .string "secret"), user]) =
      initial.answers (ops [user]) :=
  (passwords_do_not_interfere (reachable_initial [])).1 _ _ rfl

end Cloud

end CloudEmulation
