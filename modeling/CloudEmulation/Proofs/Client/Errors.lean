import CloudEmulation.Proofs.Azure.Streams
import CloudEmulation.Proofs.Emulation.Bodies
/-!
The errors that callers of a client see: those that the handlers of an emulated cloud refuse with,
and none of the API where a handler answers with a success.
-/

namespace CloudEmulation

/-! Refusals are read back as they were written. -/

theorem Google.ErrorItem.decode_encode (e : ErrorItem) : decode (e.encode .ofFields) = .ok e := by
  have hn : ["domain", "reason", "message"].Nodup := by decide
  have he : Json.Beside ["domain", "reason", "message"] [] := .nil _
  exact Record.decode_of_ok <| Ranked.ap_ok (Ranked.ap_ok
    (Ranked.map_ok _ (Record.text_record hn he rfl (by simp)))
    (Record.text_record hn he rfl (by simp))) (Record.text_record hn he rfl (by simp))

theorem Google.ErrorBody.decode_encode {e : ErrorBody} (h : e.code ≤ Numeral.word16Limit) :
    decode (e.encode .ofFields) = .ok e := by
  have hn : ["code", "message", "errors"].Nodup := by decide
  have he : Json.Beside ["code", "message", "errors"] [] := .nil _
  have hcode : Json.asWord16 (.ofNat e.code) = .ok e.code := Json.asNatural_ofNat _ h
  have hmem : .of "code" (.ofNat e.code) ∈ [Json.Field.of "code" (.ofNat e.code),
    .text "message" e.message, .list "errors" (ErrorItem.encode .ofFields) e.errors] := by simp
  exact Record.decode_of_ok <| Ranked.ap_ok (Ranked.ap_ok
    (Ranked.map_ok _ (Record.required_record hn he rfl hmem hcode))
    (Record.text_record hn he rfl (by simp)))
    (Record.list_record hn he rfl (by simp) fun item _ => item.decode_encode)

theorem Google.ErrorResponse.decode_encode {e : ErrorResponse}
    (h : e.error.code ≤ Numeral.word16Limit) : decode (e.encode .ofFields) = .ok e := by
  have hn : ["error"].Nodup := by decide
  have he : Json.Beside ["error"] [] := .nil _
  have hmem : Json.Field.of "error" (e.error.encode .ofFields) ∈
    [Json.Field.of "error" (e.error.encode .ofFields)] := List.mem_singleton_self _
  exact Record.decode_of_ok <| Ranked.map_ok _
    (Record.required_record hn he rfl hmem (ErrorBody.decode_encode h))

theorem Azure.CloudErrorBody.decode_encode (e : CloudErrorBody) :
    decode (e.encode .ofFields) = .ok e := by
  have hn : ["code", "message"].Nodup := by decide
  have he : Json.Beside ["code", "message"] [] := .nil _
  exact Record.decode_of_ok <| Ranked.ap_ok
    (Ranked.map_ok _ (Record.text_record hn he rfl (by simp)))
    (Record.text_record hn he rfl (by simp))

theorem Azure.CloudError.decode_encode (e : CloudError) : decode (e.encode .ofFields) = .ok e := by
  have hn : ["error"].Nodup := by decide
  have he : Json.Beside ["error"] [] := .nil _
  have hmem : Json.Field.of "error" (e.error.encode .ofFields) ∈
    [Json.Field.of "error" (e.error.encode .ofFields)] := List.mem_singleton_self _
  exact Record.decode_of_ok <| Ranked.map_ok _
    (Record.required_record hn he rfl hmem e.error.decode_encode)

theorem Oracle.ErrorBody.decode_encode (e : ErrorBody) : decode (e.encode .ofFields) = .ok e := by
  have hn : ["code", "message"].Nodup := by decide
  have he : Json.Beside ["code", "message"] [] := .nil _
  exact Record.decode_of_ok <| Ranked.ap_ok
    (Ranked.map_ok _ (Record.text_record hn he rfl (by simp)))
    (Record.text_record hn he rfl (by simp))

namespace Provider

/-- What a provider calls a fault. -/
def codeOf : Provider → Fault → String
  | .google => Google.reasonOf
  | .azure => Azure.codeOf
  | .oracle => Oracle.codeOf

/-- How a provider's client reads a response that is no success. -/
def errorOfResponse : Provider → Http.Response → ClientError
  | .google => Google.errorOfResponse
  | .azure => Azure.errorOfResponse
  | .oracle => Oracle.errorOfResponse

/-- A fault as a caller is to see it. -/
def report (p : Provider) (f : Fault) : ClientError := .api p f.status (p.codeOf f) f.message

theorem errorOf_refusal (p : Provider) (c : Configuration) (f : Fault) (s : CloudState) :
    p.errorOfResponse (((p.emulator c).refusal f).run s).1 = p.report f := by
  cases p with
  | google =>
    have hcode : f.status ≤ Numeral.word16Limit := by cases f <;> simp [Fault.status, Numeral.word16Limit]
    have hd : Google.ErrorResponse.decode ((Google.errorOf f).encode .ofFields) = .ok _ :=
      Google.ErrorResponse.decode_encode hcode
    show Google.errorOfResponse (Google.refusal f) = _
    simp only [Google.errorOfResponse, Google.refusal, Http.Response.json, Option.map_some, hd]
    rfl
  | azure =>
    have hd := Azure.CloudError.decode_encode ⟨Azure.codeOf f, f.message⟩
    show Azure.errorOfResponse (Azure.refusal f) = _
    simp only [Azure.errorOfResponse, Azure.refusal, Http.Response.json, Option.map_some, hd]
    rfl
  | oracle =>
    have hd := Oracle.ErrorBody.decode_encode ⟨Oracle.codeOf f, f.message⟩
    obtain ⟨id, s', hr, -⟩ := Oracle.run_reply f.status
      ((Oracle.ErrorBody.mk (Oracle.codeOf f) f.message).encode .ofFields) s
    have hr : ((Provider.oracle.emulator c).refusal f).run s = _ := hr
    rw [hr]
    simp only [errorOfResponse, Oracle.errorOfResponse, Http.Response.json,
      Http.Response.withHeader, Option.map_some, hd]
    rfl

end Provider

namespace Cloud

variable {c : Cloud} {p : Provider} {now : Timestamp} {r : Http.Request} {f : Fault}

theorem respond_of_handle {response : Http.Response} (h : (c.handle p now r).1 = .ok response) :
    (c.respond p now r).1 = response := by
  have hx : ((p.emulator c.config).handle now r).exec c.state = (.ok response, _) :=
    Prod.ext h rfl
  have hr := Provider.respond_of_answered hx
  exact congrArg Prod.fst hr

theorem errorOf_respond (h : (c.handle p now r).1 = .error f) :
    p.errorOfResponse (c.respond p now r).1 = p.report f := by
  have hx : ((p.emulator c.config).handle now r).exec c.state = (.error f, _) := Prod.ext h rfl
  have hr : (c.respond p now r).1 = (((p.emulator c.config).respond now r).run c.state).1 := rfl
  rw [hr, Emulator.run_respond, hx]
  exact p.errorOf_refusal c.config f _

theorem exists_of_success (h : (c.respond p now r).1.isSuccess = true) :
    ∃ response, (c.handle p now r).1 = .ok response :=
  ⟨_, congrArg Prod.fst (Provider.respond_of_success h)⟩

end Cloud

/-! What handlers came to, and what is made of it. -/

/-- What a handler comes to: a response, or a fault. -/
abbrev Outcome := Except Fault Http.Response

/-- A transport that leads to an emulated cloud, and writes down what the handlers come to. -/
def Cloud.witness (now : Timestamp) (p : Provider) : Transport (StateM (Cloud × List Outcome)) :=
  fun r s =>
    let (response, c) := s.1.respond p now r
    (.ok response, c, s.2 ++ [(s.1.handle p now r).1])

/-- A result as it should be after some handlers: a fault is reported, and where there were only
successes no error is one of the API. -/
structure Fits {α : Type} (p : Provider) (outcomes : List Outcome)
    (result : Except ClientError α) : Prop where
  refused : ∀ f, .error f ∈ outcomes → result = .error (p.report f)
  answered : (∀ o ∈ outcomes, ∃ response : Http.Response, o = .ok response ∧
    response.isSuccess = true) → ∀ q status code message,
      result ≠ .error (.api q status code message)

/-- Two forms of one computation: over a cloud, and over a cloud and what its handlers came to. The
result fits to that. -/
def Told {α : Type} (p : Provider) (plain : Calling (StateM Cloud) α)
    (noting : Calling (StateM (Cloud × List Outcome)) α) : Prop :=
  ∀ c noted, ∃ outcomes, noting.run.run (c, noted) =
    ((plain.run.run c).1, (plain.run.run c).2, noted ++ outcomes) ∧
      Fits p outcomes (plain.run.run c).1

namespace Told

variable {α β : Type} {p : Provider} {now : Timestamp} {plain : Calling (StateM Cloud) α}
  {noting : Calling (StateM (Cloud × List Outcome)) α}

theorem of_silent {result : Except ClientError α}
    (h : ∀ q status code message, result ≠ .error (.api q status code message)) :
    Told p (ExceptT.mk (pure result)) (ExceptT.mk (pure result)) := by
  intro c noted
  refine ⟨[], ?_, fun f hf => (List.not_mem_nil hf).elim, fun _ => h⟩
  rw [List.append_nil]
  rfl

theorem pure (a : α) : Told p (pure a) (pure a) := by
  apply of_silent
  simp

theorem ofUrl (u : Except UrlError α) : Told p (Calling.ofUrl u) (Calling.ofUrl u) := by
  cases u with
  | ok a => exact pure a
  | error e => exact of_silent (by simp)

theorem ofDecoding (d : Decoding α) : Told p (Calling.ofDecoding d) (Calling.ofDecoding d) := by
  cases d with
  | ok a => exact pure a
  | error e => exact of_silent (by simp)

theorem bind {after : α → Calling (StateM Cloud) β}
    {after' : α → Calling (StateM (Cloud × List Outcome)) β} (h : Told p plain noting)
    (ha : ∀ a, Told p (after a) (after' a)) : Told p (plain >>= after) (noting >>= after') := by
  intro c noted
  obtain ⟨outcomes, hrun, hfits⟩ := h c noted
  have hplain : (plain >>= after).run.run c =
      ExceptT.bindCont after (plain.run.run c).1 (plain.run.run c).2 := rfl
  have hnoting : (noting >>= after').run.run (c, noted) = ExceptT.bindCont after'
      (noting.run.run (c, noted)).1 (noting.run.run (c, noted)).2 := rfl
  rw [hplain, hnoting, hrun]
  cases hresult : (plain.run.run c).1 with
  | error e =>
    rw [hresult] at hfits
    refine ⟨outcomes, rfl, ?_, ?_⟩
    · intro f hf
      cases hfits.refused f hf
      rfl
    · intro hs q status code message he
      cases he
      exact hfits.answered hs q status code message rfl
  | ok a =>
    rw [hresult] at hfits
    obtain ⟨later, hlater, hrest⟩ := ha a (plain.run.run c).2 (noted ++ outcomes)
    refine ⟨outcomes ++ later, ?_, ?_, ?_⟩
    · rw [← List.append_assoc]
      exact hlater
    · intro f hf
      rcases List.mem_append.mp hf with hf | hf
      · -- After a fault there would be no value.
        cases hfits.refused f hf
      · exact hrest.refused f hf
    · intro hs
      exact hrest.answered fun o ho => hs o (List.mem_append_right _ ho)

/-- A request is told of where failed responses are thrown and successes are told of. -/
theorem send (r : Http.Request) {after : Http.Response → Calling (StateM Cloud) α}
    {after' : Http.Response → Calling (StateM (Cloud × List Outcome)) α}
    (hs : ∀ c : Cloud, (c.respond p now r).1.isSuccess = true →
      Told p (after (c.respond p now r).1) (after' (c.respond p now r).1))
    (hf : ∀ c : Cloud, (c.respond p now r).1.isSuccess = false →
      after (c.respond p now r).1 = throw (p.errorOfResponse (c.respond p now r).1) ∧
        after' (c.respond p now r).1 = throw (p.errorOfResponse (c.respond p now r).1)) :
    Told p (Calling.send (Cloud.transport now p) r >>= after)
      (Calling.send (Cloud.witness now p) r >>= after') := by
  intro c noted
  have hplain : (Calling.send (Cloud.transport now p) r >>= after).run.run c =
      (after (c.respond p now r).1).run.run (c.respond p now r).2 := Calling.run_send rfl after
  have hnoting : (Calling.send (Cloud.witness now p) r >>= after').run.run (c, noted) =
      (after' (c.respond p now r).1).run.run
        ((c.respond p now r).2, noted ++ [(c.handle p now r).1]) := rfl
  rw [hplain, hnoting]
  cases hsuccess : (c.respond p now r).1.isSuccess with
  | true =>
    obtain ⟨response, ho⟩ := Cloud.exists_of_success hsuccess
    obtain ⟨outcomes, hrun, hfits⟩ := hs c hsuccess (c.respond p now r).2
      (noted ++ [(c.handle p now r).1])
    refine ⟨(c.handle p now r).1 :: outcomes, ?_, ?_, ?_⟩
    · rw [hrun, List.append_assoc, List.singleton_append]
    · intro f hmem
      rcases List.mem_cons.mp hmem with hmem | hmem
      · rw [ho] at hmem
        cases hmem
      · exact hfits.refused f hmem
    · intro hall
      exact hfits.answered fun o ho => hall o (List.mem_cons_of_mem _ ho)
  | false =>
    obtain ⟨hafter, hafter'⟩ := hf c hsuccess
    rw [hafter, hafter']
    refine ⟨[(c.handle p now r).1], rfl, ?_, ?_⟩
    · intro f hmem
      exact congrArg Except.error (Cloud.errorOf_respond (List.mem_singleton.mp hmem).symm)
    · intro hall
      obtain ⟨response, ho, hr⟩ := hall _ (List.mem_singleton_self _)
      rw [Cloud.respond_of_handle ho, hr] at hsuccess
      cases hsuccess

end Told

/-! The clients. -/

section

variable {α : Type} {now : Timestamp} {endpoint : String}

theorem Google.told_execute (r : Request) :
    Told .google (Client.execute ⟨endpoint, Cloud.transport now .google⟩ r)
      (Client.execute ⟨endpoint, Cloud.witness now .google⟩ r) := by
  unfold Client.execute
  refine .bind (.ofUrl _) fun request => .send request ?_ ?_
  · intro c hs
    rw [if_pos hs, if_pos hs]
    exact .pure _
  · intro c hs
    rw [if_neg (by simp [hs]), if_neg (by simp [hs])]
    exact ⟨rfl, rfl⟩

theorem Google.told_page (project zone : String) (filter : Option String) (token : Option String) :
    Told .google (Client.page ⟨endpoint, Cloud.transport now .google⟩ project zone filter token)
      (Client.page ⟨endpoint, Cloud.witness now .google⟩ project zone filter token) :=
  .bind (told_execute _) fun _ => .pure _

theorem Oracle.told_call (decode : Json → Decoding α) (method : String) (path : List String)
    (query : List (String × Option String)) (body : Option Json) :
    Told .oracle
      (Client.call ⟨endpoint, Cloud.transport now .oracle⟩ decode method path query body)
      (Client.call ⟨endpoint, Cloud.witness now .oracle⟩ decode method path query body) := by
  unfold Client.call
  refine .bind (.ofUrl _) fun url => .send _ ?_ ?_
  · intro c hs
    apply Told.of_silent
    rw [Answer.ofResponse, if_pos hs]
    split <;> simp
  · intro c hs
    rw [Answer.ofResponse, if_neg (by simp [hs])]
    exact ⟨rfl, rfl⟩

theorem Oracle.told_page (compartment : String) (o : ListOptions) (token : Option String) :
    Told .oracle (Client.page ⟨endpoint, Cloud.transport now .oracle⟩ compartment o token)
      (Client.page ⟨endpoint, Cloud.witness now .oracle⟩ compartment o token) :=
  .bind (told_call _ _ _ _ _) fun _ => .pure _

namespace Azure

variable {β : Type} {subscription : String}

theorem told_read (decode : Json → Decoding α) (r : Http.Request)
    {after : α → Calling (StateM Cloud) β} {after' : α → Calling (StateM (Cloud × List Outcome)) β}
    (h : ∀ a, Told .azure (after a) (after' a)) :
    Told .azure
      (Calling.send (Cloud.transport now .azure) r >>= fun a => readResponse decode a >>= after)
      (Calling.send (Cloud.witness now .azure) r >>= fun a => readResponse decode a >>= after') := by
  refine .send r ?_ ?_
  · intro c hs
    rw [readResponse, readResponse, if_pos hs, if_pos hs]
    exact .bind (.ofDecoding _) h
  · intro c hs
    rw [readResponse, readResponse, if_neg (by simp [hs]), if_neg (by simp [hs])]
    exact ⟨rfl, rfl⟩

theorem told_get (group name : String) :
    Told .azure (Client.get ⟨endpoint, subscription, Cloud.transport now .azure⟩ group name)
      (Client.get ⟨endpoint, subscription, Cloud.witness now .azure⟩ group name) := by
  refine .bind (.ofUrl _) fun url => ?_
  have h : Told .azure
      (Calling.send (Cloud.transport now .azure) (request "GET" url none) >>=
        fun a => readResponse VirtualMachine.decode a >>= pure)
      (Calling.send (Cloud.witness now .azure) (request "GET" url none) >>=
        fun a => readResponse VirtualMachine.decode a >>= pure) := told_read _ _ Told.pure
  simpa only [bind_pure] using h

theorem told_page (group : String) (url : Option Url) :
    Told .azure (Client.page ⟨endpoint, subscription, Cloud.transport now .azure⟩ group url)
      (Client.page ⟨endpoint, subscription, Cloud.witness now .azure⟩ group url) := by
  have h (url : Url) : Told .azure
      (Client.page ⟨endpoint, subscription, Cloud.transport now .azure⟩ group (some url))
      (Client.page ⟨endpoint, subscription, Cloud.witness now .azure⟩ group (some url)) := by
    unfold Client.page
    refine .bind (.pure url) fun url => told_read _ _ fun list => ?_
    split
    · exact .pure _
    · exact .bind (.ofUrl _) fun next => .pure _
  unfold Client.page at h ⊢
  cases url with
  | some url => exact h url
  | none =>
    simp only [pure_bind] at h
    exact .bind (.ofUrl _) h

theorem json_of_handler {c : Configuration} {s s' : CloudState} {verb : Verb} {name : String}
    {call : Call} {response : Http.Response}
    (h : (handler c verb name call).exec s = (.ok response, s')) :
    ∃ status body, response = .json status body := by
  unfold handler at h
  split at h
  · cases h
  · split at h
    · cases h
      exact ⟨_, _, rfl⟩
    · cases verb with
      | create =>
        obtain ⟨_, _, _, _, _, _, _, -, -, -, -, hr⟩ := create_eq_ok h
        exact ⟨_, _, hr⟩
      | list =>
        obtain ⟨_, _, _, _, -, -, hr, -⟩ := list_eq_ok h
        exact ⟨_, _, hr⟩
      | get =>
        obtain ⟨_, _, _, _, _, -, -, -, -, -, hr⟩ := get_eq_ok h
        exact ⟨_, _, hr⟩

/-- No operation of the emulated service goes on after its response. -/
theorem watched_respond (c : Cloud) (r : Http.Request) :
    Client.watched (c.respond .azure now r).1 = .ok none := by
  have hjson : ∃ status body, (c.respond .azure now r).1 = .json status body := by
    have hx : (c.respond .azure now r).1 =
      (((Provider.azure.emulator c.config).respond now r).run c.state).1 := rfl
    rw [hx, Emulator.run_respond]
    rcases ho : ((Provider.azure.emulator c.config).handle now r).exec c.state with ⟨f | answer, s'⟩
    · exact ⟨_, _, rfl⟩
    · cases hr : Provider.azure.route? r with
      | none =>
        rw [Provider.handle_of_unrouted hr] at ho
        cases ho
      | some found =>
        rw [Provider.handle_of_routed hr] at ho
        exact json_of_handler ho
  obtain ⟨status, body, hr⟩ := hjson
  have hother : Http.sameName "content-type" "azure-asyncoperation" = false := by
    decide +kernel
  simp [hr, Client.watched, Http.Response.header?, Http.Response.json, hother]

/-- What is made of a poller is told of if it is where the first response has the machine. -/
theorem told_begin (group name : String) (machine : VirtualMachine)
    {after : Poller → Calling (StateM Cloud) α}
    {after' : Poller → Calling (StateM (Cloud × List Outcome)) α}
    (h : ∀ poller : Poller, poller.operation = none → Told .azure (after poller) (after' poller)) :
    Told .azure
      (Client.beginCreate ⟨endpoint, subscription, Cloud.transport now .azure⟩ group name machine >>=
        after)
      (Client.beginCreate ⟨endpoint, subscription, Cloud.witness now .azure⟩ group name machine >>=
        after') := by
  unfold Client.beginCreate
  simp only [bind_assoc, pure_bind]
  refine .bind (.ofUrl _) fun url => .send _ ?_ ?_
  · intro c hs
    rw [watched_respond, readResponse, readResponse, if_pos hs, if_pos hs]
    simp only [Calling.ofUrl, pure_bind]
    exact .bind (.ofDecoding _) fun initial => h _ rfl
  · intro c hs
    rw [watched_respond, readResponse, readResponse, if_neg (by simp [hs]), if_neg (by simp [hs])]
    exact ⟨rfl, rfl⟩

end Azure

section

variable {σ κ : Type}

def Ending.result : Ending → Except ClientError Unit
  | .failed e => .error e
  | _ => .ok ()

/-- A walk as a computation that fails where the walk does. -/
def Walk.ended {m : Type → Type} [Monad m] (walk : m (Walk α)) : Calling m Unit :=
  ExceptT.mk do return (← walk).ending.result

theorem Walk.ended_run_succ (fetch : κ → Calling (StateM σ) (List α × Option κ)) (budget : Nat)
    (wanted : Option Nat) (page : κ) :
    ended (run fetch (budget + 1) wanted page) =
      if wanted = some 0 then pure ()
      else fetch page >>= fun found => match found.2 with
        | none => pure ()
        | some next => ended
          (run fetch budget (wanted.map (· - (atMost wanted found.1).length)) next) := by
  rw [run]
  split
  · rfl
  · funext s
    unfold ended
    simp only [ExceptT.mk, bind_assoc]
    show StateT.run ((fetch page).run >>= _) s =
      StateT.run ((fetch page).run >>= ExceptT.bindCont _) s
    rw [StateT.run_bind, StateT.run_bind]
    rcases (fetch page).run.run s with ⟨e | ⟨items, _ | next⟩, s'⟩
    · rfl
    · have hresult (sated : Prop) [Decidable sated] :
          (if sated then Ending.sated else .complete).result = .ok () := by
        split <;> rfl
      exact congrArg (·, s') (hresult _)
    · show StateT.run (run fetch budget _ next >>= _ >>= _) s' =
        StateT.run (run fetch budget _ next >>= _) s'
      simp only [bind_assoc, pure_bind]

theorem Walk.told {p : Provider} {fetch : κ → Calling (StateM Cloud) (List α × Option κ)}
    {fetch' : κ → Calling (StateM (Cloud × List Outcome)) (List α × Option κ)}
    (h : ∀ page, Told p (fetch page) (fetch' page)) (budget : Nat) (wanted : Option Nat)
    (page : κ) :
    Told p (ended (run fetch budget wanted page)) (ended (run fetch' budget wanted page)) := by
  induction budget generalizing wanted page with
  | zero =>
    rw [run, run]
    split
    · exact .pure ()
    · exact .pure ()
  | succ budget ih =>
    rw [ended_run_succ, ended_run_succ]
    split
    · exact .pure ()
    · refine .bind (h page) fun found => ?_
      split
      · exact .pure ()
      · exact ih _ _

end

end

/-! Everything that callers do. -/

/-- What a caller does with a client: one call, a create that is waited for, or a walk over the pages
of a list. -/
inductive ClientTask where
  | call (call : ClientCall)
  | create (subscription group name : String) (machine : Azure.VirtualMachine) (budget : Nat)
  | walkGoogleInstances (budget : Nat) (project zone : String) (filter : Option String)
  | walkMachines (budget : Nat) (wanted : Option Nat) (subscription group : String)
  | walkOracleInstances (budget : Nat) (compartment : String) (options : Oracle.ListOptions)

namespace ClientTask

def provider : ClientTask → Provider
  | call c => c.provider
  | walkGoogleInstances .. => .google
  | create .. | walkMachines .. => .azure
  | walkOracleInstances .. => .oracle

section

variable {m : Type → Type} [Monad m] (t : Transport m) (endpoint : String)

/-- A task through a client of an endpoint; its value is left out. -/
def perform : ClientTask → Calling m Unit
  | call c => single c
  | create subscription group name machine budget => do
    let poller ← (azure subscription).beginCreate group name machine
    ExceptT.mk do
      match (← poller.result t budget).result with
      | some (.error e) => return .error e
      | _ => return .ok ()
  | walkGoogleInstances budget project zone filter =>
    Walk.ended (google.listAll budget project zone filter)
  | walkMachines budget wanted subscription group =>
    Walk.ended ((azure subscription).list budget wanted group)
  | walkOracleInstances budget compartment options =>
    Walk.ended (oracle.listAll budget compartment options)
where
  google : Google.Client m := ⟨endpoint, t⟩
  azure (subscription : String) : Azure.Client m := ⟨endpoint, subscription, t⟩
  oracle : Oracle.Client m := ⟨endpoint, t⟩
  valueless {α : Type} (computation : Calling m α) : Calling m Unit := do let _ ← computation
  execute (r : Google.Request) (query : Url.Pairs) : Calling m Unit :=
    valueless (google.execute (r.withParams query))
  single : ClientCall → Calling m Unit
    | .listGoogleInstances project zone query => execute (.listInstances project zone) query
    | .getGoogleInstance project zone name query => execute (.getInstance project zone name) query
    | .insertGoogleInstance project zone body query =>
      execute (.insertInstance project zone body) query
    | .deleteGoogleInstance project zone name query =>
      execute (.deleteInstance project zone name) query
    | .listMachineTypes project zone query => execute (.listMachineTypes project zone) query
    | .getMachineType project zone name query => execute (.getMachineType project zone name) query
    | .beginCreate subscription group name machine =>
      valueless ((azure subscription).beginCreate group name machine)
    | .getMachine subscription group name => valueless ((azure subscription).get group name)
    | .listMachines subscription group => valueless ((azure subscription).page group none)
    | .launch details => valueless (oracle.launch details)
    | .listOracleInstances compartment options =>
      valueless (oracle.listInstances compartment options)
    | .getOracleInstance id => valueless (oracle.getInstance id)
    | .terminate id => valueless (oracle.terminate id)
    | .listAttachments compartment instanceId =>
      valueless (oracle.listAttachments compartment instanceId)
    | .listShapes compartment => valueless (oracle.listShapes compartment)
    | .getVnic id => valueless (oracle.getVnic id)

end

variable {now : Timestamp} {endpoint : String}

theorem told_call (call : ClientCall) :
    Told call.provider (perform.single (Cloud.transport now call.provider) endpoint call)
      (perform.single (Cloud.witness now call.provider) endpoint call) := by
  cases call with
  | listGoogleInstances | getGoogleInstance | insertGoogleInstance | deleteGoogleInstance
  | listMachineTypes | getMachineType =>
    exact .bind (Google.told_execute _) fun _ => .pure ()
  | beginCreate subscription group name machine =>
    exact Azure.told_begin group name machine fun _ _ => .pure ()
  | getMachine subscription group name =>
    exact .bind (Azure.told_get group name) fun _ => .pure ()
  | listMachines subscription group =>
    exact .bind (Azure.told_page group none) fun _ => .pure ()
  | launch | listOracleInstances | getOracleInstance | terminate | listAttachments | listShapes
  | getVnic =>
    exact .bind (Oracle.told_call _ _ _ _ _) fun _ => .pure ()

theorem told (task : ClientTask) (endpoint : String) (now : Timestamp) :
    Told task.provider (task.perform (Cloud.transport now task.provider) endpoint)
      (task.perform (Cloud.witness now task.provider) endpoint) := by
  cases task with
  | call call => exact told_call call
  | create subscription group name machine budget =>
    refine Azure.told_begin group name machine fun poller hp => ?_
    simp only [Azure.Poller.result, hp]
    exact .pure ()
  | walkGoogleInstances budget project zone filter =>
    exact Walk.told (Google.told_page project zone filter) budget none none
  | walkMachines budget wanted subscription group =>
    exact Walk.told (Azure.told_page group) budget wanted none
  | walkOracleInstances budget compartment options =>
    exact Walk.told (Oracle.told_page compartment options) budget none options.page

variable (task : ClientTask) (endpoint : String) (now : Timestamp) (c : Cloud)

/-- What comes of a task over an emulated cloud. -/
def run : Except ClientError Unit × Cloud :=
  (task.perform (Cloud.transport now task.provider) endpoint).run.run c

/-- What the handlers come to that a task needs. -/
def outcomes : List Outcome :=
  ((task.perform (Cloud.witness now task.provider) endpoint).run.run (c, [])).2.2

theorem run_witness :
    (task.perform (Cloud.witness now task.provider) endpoint).run.run (c, []) =
        ((task.run endpoint now c).1, (task.run endpoint now c).2, task.outcomes endpoint now c) ∧
      Fits task.provider (task.outcomes endpoint now c) (task.run endpoint now c).1 := by
  obtain ⟨outcomes, hrun, hfits⟩ := task.told endpoint now c []
  have ho : task.outcomes endpoint now c = outcomes := congrArg (·.2.2) hrun
  rw [ho]
  exact ⟨hrun, hfits⟩

end ClientTask

namespace Provider

variable {p : Provider} {f : Fault}

theorem isNotFound_report :
    (p.report f).isNotFound = true ↔ ∃ identity scope, f = .notFound identity scope := by
  cases f <;> simp [report, ClientError.isNotFound, ClientError.status?, Fault.status]

theorem isConflict_report :
    (p.report f).isConflict = true ↔ ∃ identity scope, f = .duplicateIdentity identity scope := by
  cases f <;> simp [report, ClientError.isConflict, ClientError.status?, Fault.status]

theorem isUnsupported_report :
    (p.report f).isUnsupported = true ↔ ∃ operation, f = .unsupported operation := by
  cases f <;> simp [report, ClientError.isUnsupported, ClientError.status?, Fault.status]

end Provider

/-- Every fault is read from its refusal, and told from the others. Where a handler refuses, whatever
was called fails with that fault, and where handlers only answer with successes, nothing fails with
an error of the API. -/
theorem faults_reach_callers :
    (∀ (p : Provider) (f : Fault),
      (∀ config s, p.errorOfResponse (((p.emulator config).refusal f).run s).1 = p.report f) ∧
      ((p.report f).isNotFound = true ↔ ∃ identity scope, f = .notFound identity scope) ∧
      ((p.report f).isConflict = true ↔ ∃ identity scope, f = .duplicateIdentity identity scope) ∧
      ((p.report f).isUnsupported = true ↔ ∃ operation, f = .unsupported operation)) ∧
    ∀ (task : ClientTask) (endpoint : String) (now : Timestamp) (c : Cloud),
      let p := task.provider
      let result := (task.run endpoint now c).1
      let outcomes := task.outcomes endpoint now c
      (task.perform (Cloud.witness now p) endpoint).run.run (c, []) =
          (result, (task.run endpoint now c).2, outcomes) ∧
        (∀ f, .error f ∈ outcomes → result = .error (.api p f.status (p.codeOf f) f.message)) ∧
        ((∀ o ∈ outcomes, ∃ response : Http.Response, o = .ok response ∧
          response.isSuccess = true) →
          ∀ q status code message, result ≠ .error (.api q status code message)) := by
  constructor
  · intro p f
    exact ⟨fun config s => p.errorOf_refusal config f s, Provider.isNotFound_report,
      Provider.isConflict_report, Provider.isUnsupported_report⟩
  · intro task endpoint now c
    obtain ⟨hrun, hfits⟩ := task.run_witness endpoint now c
    exact ⟨hrun, hfits.refused, hfits.answered⟩

/-- A create that is repeated fails with the conflict that the handler found, and a get of what was
created does not fail with an error of the API. -/
theorem conflict_reaches_caller :
    let machine := Json.object [("name", .string "web")]
    let c := Cloud.initial.after [(⟨0, 0⟩, .insert "shop" "eu" machine)]
    let again := ClientTask.call (.insertGoogleInstance "shop" "eu" machine [])
    let look := ClientTask.call (.getGoogleInstance "shop" "eu" "web" [])
    (again.run Google.defaultEndpoint ⟨1, 0⟩ c).1 = .error (.api .google 409 "alreadyExists"
        "resource 'web' already exists in google:project=shop/zone=eu") ∧
      ∀ q status code message, (look.run Google.defaultEndpoint ⟨1, 0⟩ c).1 ≠
        .error (.api q status code message) := by
  intro machine c again look
  constructor
  · obtain ⟨-, hrefused, -⟩ := faults_reach_callers.2 again Google.defaultEndpoint ⟨1, 0⟩ c
    have hfault : (again.outcomes Google.defaultEndpoint ⟨1, 0⟩ c).map (fun o => match o with
        | .error f => some f
        | .ok _ => none) = [some (.duplicateIdentity "web" (.google "shop" "eu"))] := by
      decide +kernel
    obtain ⟨o, ho, hf⟩ := List.mem_map.mp (hfault ▸ List.mem_singleton_self _)
    split at hf
    · cases hf
      exact hrefused _ ho
    · cases hf
  · obtain ⟨-, -, hanswered⟩ := faults_reach_callers.2 look Google.defaultEndpoint ⟨1, 0⟩ c
    have hsuccess : (look.outcomes Google.defaultEndpoint ⟨1, 0⟩ c).all (fun o => match o with
        | .error _ => false
        | .ok response => response.isSuccess) = true := by
      decide +kernel
    refine hanswered fun o ho => ?_
    have hall := List.all_eq_true.mp hsuccess o ho
    cases o with
    | error f => cases hall
    | ok response => exact ⟨response, rfl, hall⟩

end CloudEmulation
