import CloudEmulation.Proofs.Cloud.Concealing
import CloudEmulation.Proofs.Oracle.Lookup
/-!
Handlers of calls without passwords, in states without passwords: they answer the same as with them.
-/

namespace CloudEmulation

open Handler (Mirrors)

variable {c : Configuration} {s : CloudState}

namespace Google

theorem connect_concealed (s : CloudState) (index : Nat) (requests : List (Option Address)) :
    connect s.concealed index requests =
      ((connect s index requests).1, (connect s index requests).2.concealed) := by
  induction requests generalizing s index with
  | nil => rfl
  | cons request rest ih =>
    have ha := s.assign_concealed request
    cases hs : s.assign request with
    | mk r s₁ =>
      rw [hs] at ha
      cases r with
      | error f => rw [connect_of_refused ha rest, connect_of_refused hs rest]
      | ok a =>
        obtain ⟨id, s₂, hd, hd'⟩ := s₁.exists_draw (·.digits 19)
        have hrest := ih s₂ (index + 1)
        cases hc : connect s₂ (index + 1) rest with
        | mk r s₃ =>
          rw [hc] at hrest
          cases r with
          | error f =>
            rw [connect_of_disconnected ha hd' hrest, connect_of_disconnected hs hd hc]
            rfl
          | ok nics => rw [connect_of_connected ha hd' hrest, connect_of_connected hs hd hc]

theorem Draft.create_concealed (d : Draft) (s : CloudState) :
    d.create s.concealed = ((d.create s).1, (d.create s).2.concealed) := by
  have hv := s.vacant_concealed d.scope d.request.name
  have hc := connect_concealed s 0 d.addresses
  cases hfree : s.vacant d.scope d.request.name with
  | error f => simp only [create, hv, hfree]
  | ok u =>
    cases hs : connect s 0 d.addresses with
    | mk r s₁ =>
      rw [hs] at hc
      cases r with
      | error f => simp only [create, hv, hfree, hc, hs]
      | ok nics =>
        obtain ⟨id, s₂, hd, hd'⟩ := s₁.exists_draw (·.digits 19)
        have hadd := s₂.addInstance_concealed d.scope (d.record id nics)
        simp only [create, hv, hfree, hc, hs, hd, hd', hadd]
        rfl

theorem insert_mirrors (s : CloudState) (c : Configuration) (now : Timestamp)
    (project zone : String) (body : Json) :
    Mirrors s id (insert c now project zone body) (insert c now project zone body) := by
  refine .bind_same (.liftExcept_same _ _) fun d s₁ _ => ?_
  refine .bind_same (.atomically_same (d.create_concealed s₁)) fun i s₂ _ => ?_
  exact .pure _ _

theorem operationNames_concealed (s : CloudState) : operationNames s.concealed =
    ((operationNames s).1, (operationNames s).2.concealed) := by
  obtain ⟨id, s₁, h₁, h₁'⟩ := s.exists_draw (·.digits 19)
  obtain ⟨name, s₂, h₂, h₂'⟩ := s₁.exists_draw Generator.uuid
  simp only [operationNames, h₁, h₁', h₂, h₂']

theorem create_mirrors (s : CloudState) (c : Configuration) (resource : String) (call : Call) :
    Mirrors s id (create c resource call) (create c resource call) := by
  by_cases hr : resource = "instances"
  · subst hr
    unfold create
    simp only [ne_eq, not_true_eq_false, if_false]
    refine .bind_same (.liftExcept_same _ _) fun project s₁ _ => ?_
    refine .bind_same (.liftExcept_same _ _) fun zone s₂ _ => ?_
    cases call.body with
    | none => exact .throw _ _ _
    | some body =>
      refine .bind_same (insert_mirrors _ c call.now project zone body) fun target s₃ _ => ?_
      refine .bind_same (.lift (operationNames_concealed s₃)) fun names s₄ _ => ?_
      exact .pure _ _
  · have hc : create c resource call = throw (.unmodelled .google .create resource) := by
      unfold create
      rw [if_pos hr]
      rfl
    rw [hc]
    exact .throw _ _ _

theorem list_mirrors (s : CloudState) (resource : String) (call : Call) :
    Mirrors s id (list resource call) (list resource call) := by
  unfold list
  refine .bind_same (.liftExcept_same _ _) fun project s₁ _ => ?_
  refine .bind_same (.liftExcept_same _ _) fun zone s₂ _ => ?_
  have hl : s₂.concealed.instances.list (.google project zone) =
    s₂.instances.list (.google project zone) := s₂.list_concealed_of_ne nofun
  split
  · exact .bind_same (.look_same hl) fun instances s₃ _ => .liftExcept_same _ _
  · exact .liftExcept_same _ _
  · exact .throw _ _ _

theorem get_mirrors (s : CloudState) (resource : String) (call : Call) :
    Mirrors s id (get resource call) (get resource call) := by
  unfold get
  refine .bind_same (.liftExcept_same _ _) fun project s₁ _ => ?_
  refine .bind_same (.liftExcept_same _ _) fun zone s₂ _ => ?_
  split
  · refine .bind_same (.liftExcept_same _ _) fun name s₃ _ => ?_
    exact .bind_same (.lookup (s₃.get_concealed _ _)) fun i s₄ _ => .pure _ _
  · refine .bind_same (.liftExcept_same _ _) fun name s₃ _ => ?_
    cases MachineType.find? name with
    | none => exact .throw _ _ _
    | some m => exact .pure _ _
  · exact .throw _ _ _

end Google

namespace Azure

/-- A call without the password of its body. -/
def concealedCall (call : Call) : Call :=
  { call with body := call.body.map VirtualMachine.concealed }

def Draft.concealed (d : Draft) : Draft := { d with request := concealedMembers d.request }

theorem Draft.ofBody_concealed (c : Configuration) (now : Timestamp)
    (subscription group name : String) (body : Json) :
    ofBody c now subscription group name (VirtualMachine.concealed body) =
      (ofBody c now subscription group name body).map concealed := by
  unfold ofBody
  rw [VirtualMachine.decode_concealed]
  cases VirtualMachine.decode body with
  | error e => rfl
  | ok m =>
    have hl : m.shown.location = m.location := rfl
    simp only [Except.map, hl]
    split
    · rfl
    · cases body <;> rfl

theorem Draft.create_concealed (d : Draft) (s : CloudState) :
    d.concealed.create s.concealed =
      ((d.create s).1.map Instance.concealed, (d.create s).2.concealed) := by
  have hv : s.concealed.vacant d.concealed.scope d.concealed.name = s.vacant d.scope d.name :=
    s.vacant_concealed d.scope d.name
  have ha := s.allocate_concealed
  cases hfree : s.vacant d.scope d.name with
  | error f =>
    simp only [create, hv, hfree]
    rfl
  | ok u =>
    cases hs : s.allocate with
    | mk r s₁ =>
      rw [hs] at ha
      cases r with
      | error f =>
        simp only [create, hv, hfree, ha, hs]
        rfl
      | ok a =>
        obtain ⟨id, s₂, h₂, h₂'⟩ := s₁.exists_draw Generator.uuid
        obtain ⟨nic, s₃, h₃, h₃'⟩ := s₂.exists_draw Generator.uuid
        have hadd := s₃.addInstance_concealed d.scope (d.record id nic a)
        simp only [create, hv, hfree, ha, hs, h₂, h₂', h₃, h₃', hadd]
        rfl

theorem put_mirrors (s : CloudState) (c : Configuration) (now : Timestamp)
    (subscription group name : String) (body : Json) :
    Mirrors s id (put c now subscription group name body)
      (put c now subscription group name (VirtualMachine.concealed body)) := by
  refine .bind (.liftExcept (Draft.ofBody_concealed c now subscription group name body))
    fun d s₁ _ => ?_
  have hd : Mirrors s₁ Instance.concealed (Handler.atomically d.create)
    (Handler.atomically d.concealed.create) := d.create_concealed s₁
  refine .bind hd fun i s₂ _ => ?_
  rw [describe_concealed]
  exact .liftExcept_same _ _

theorem create_mirrors (s : CloudState) (c : Configuration) (call : Call) :
    Mirrors s id (create c call) (create c (concealedCall call)) := by
  unfold create
  have hb : (concealedCall call).body = call.body.map VirtualMachine.concealed := rfl
  rw [hb]
  cases call.body with
  | none => exact .throw _ _ _
  | some body =>
    refine .bind_same (.liftExcept_same _ _) fun subscription s₁ _ => ?_
    refine .bind_same (.liftExcept_same _ _) fun group s₂ _ => ?_
    refine .bind_same (.liftExcept_same _ _) fun name s₃ _ => ?_
    refine .bind_same (put_mirrors s₃ c call.now subscription group name body) fun m s₄ _ => ?_
    exact .pure _ _

theorem listing_concealed (c : Configuration) (call : Call) (subscription group : String)
    (instances : List Instance) :
    listing c (concealedCall call) subscription group (instances.map Instance.concealed) =
      listing c call subscription group instances := by
  have hp : Page.of (instances.map Instance.concealed) (some c.azurePageSize)
      ((concealedCall call).query? tokenName) =
        (Page.of instances (some c.azurePageSize) (call.query? tokenName)).map
          (Page.map Instance.concealed) := by
    have hq : (concealedCall call).query? tokenName = call.query? tokenName := rfl
    unfold Page.of
    rw [List.length_map, hq]
    cases Page.offset instances.length (call.query? tokenName) with
    | error f => rfl
    | ok n => exact congrArg Except.ok (Page.map_slice _ _ _ _)
  have hd : describe subscription group ∘ Instance.concealed = describe subscription group :=
    funext fun i => describe_concealed subscription group i
  unfold listing
  rw [hp]
  cases Page.of instances (some c.azurePageSize) (call.query? tokenName) with
  | error f => rfl
  | ok p =>
    have hm : (p.map Instance.concealed).items.mapM (describe subscription group) =
        p.items.mapM (describe subscription group) := by
      rw [Page.map, List.mapM_map]
      exact congrArg p.items.mapM hd
    show (p.map Instance.concealed).items.mapM (describe subscription group) >>= _ =
      p.items.mapM (describe subscription group) >>= _
    rw [hm]
    rfl

theorem list_mirrors (s : CloudState) (c : Configuration) (call : Call) :
    Mirrors s id (list c call) (list c (concealedCall call)) := by
  refine .bind_same (.liftExcept_same _ _) fun subscription s₁ _ => ?_
  refine .bind_same (.liftExcept_same _ _) fun group s₂ _ => ?_
  have hl : s₂.concealed.instances.list (.azure subscription group) =
    (s₂.instances.list (.azure subscription group)).map Instance.concealed := s₂.list_concealed _
  refine .bind (.look hl) fun instances s₃ _ => ?_
  rw [listing_concealed]
  exact .liftExcept_same _ _

theorem get_mirrors (s : CloudState) (call : Call) :
    Mirrors s id (get call) (get (concealedCall call)) := by
  refine .bind_same (.liftExcept_same _ _) fun subscription s₁ _ => ?_
  refine .bind_same (.liftExcept_same _ _) fun group s₂ _ => ?_
  refine .bind_same (.liftExcept_same _ _) fun name s₃ _ => ?_
  refine .bind (.lookup (s₃.get_concealed _ _)) fun i s₄ _ => ?_
  have hd : describe subscription group ((Scope.azure subscription group).conceal i) = _ :=
    describe_concealed subscription group i
  rw [hd]
  exact .bind_same (.liftExcept_same _ _) fun m s₅ _ => .pure _ _

theorem handler_mirrors (s : CloudState) (c : Configuration) (verb : Verb) (resource : String)
    (call : Call) :
    Mirrors s id (handler c verb resource call) (handler c verb resource (concealedCall call)) := by
  have hv : hasVersion (concealedCall call) = hasVersion call := rfl
  unfold handler
  rw [hv]
  split
  · exact .throw _ _ _
  · split
    · exact .pure _ _
    · cases verb with
      | create => exact create_mirrors s c call
      | list => exact list_mirrors s c call
      | get => exact get_mirrors s call

end Azure

namespace Oracle

theorem Draft.exists_ocid (d : Draft) (kind : String) (s : CloudState) :
    ∃ id s', d.ocid kind s = (id, s') ∧ d.ocid kind s.concealed = (id, s'.concealed) := by
  obtain ⟨letters, s', h, h'⟩ := s.exists_draw (·.lowercase 10)
  exact ⟨"ocid1." ++ kind ++ ".oc1." ++ d.region ++ "." ++ letters, s', by rw [ocid, h],
    by rw [ocid, h']⟩

theorem Draft.locate_concealed (s : CloudState) (l : Locator) :
    locate s.concealed l = ((locate s l).1, (locate s l).2.concealed) := by
  have hl : s.concealed.locators = s.locators := rfl
  unfold locate
  rw [hl]
  cases s.locators.create tenancy l <;> rfl

theorem Draft.place_concealed (d : Draft) (id vnic attachment : String) (s : CloudState) :
    d.place id vnic attachment s.concealed =
      ((d.place id vnic attachment s).1, (d.place id vnic attachment s).2.concealed) := by
  have ha := s.allocate_concealed
  cases h₁ : s.allocate with
  | mk r s₁ =>
    rw [h₁] at ha
    cases r with
    | error f => simp only [place, ha, h₁]
    | ok a =>
      have hi := locate_concealed s₁ ⟨id, d.scope, none⟩
      cases h₂ : locate s₁ ⟨id, d.scope, none⟩ with
      | mk r s₂ =>
        rw [h₂] at hi
        cases r with
        | error f => simp only [place, ha, h₁, hi, h₂]
        | ok u =>
          have hn := locate_concealed s₂ ⟨vnic, d.scope, some id⟩
          cases h₃ : locate s₂ ⟨vnic, d.scope, some id⟩ with
          | mk r s₃ =>
            rw [h₃] at hn
            cases r with
            | error f => simp only [place, ha, h₁, hi, h₂, hn, h₃]
            | ok u =>
              have hv := s₃.vacant_concealed d.scope id
              have hadd := s₃.addInstance_concealed d.scope (d.record id vnic attachment a)
              cases h₄ : s₃.vacant d.scope id with
              | error f => simp only [place, ha, h₁, hi, h₂, hn, h₃, hv, h₄]
              | ok u =>
                simp only [place, ha, h₁, hi, h₂, hn, h₃, hv, h₄, hadd]
                rfl

theorem Draft.launch_concealed (d : Draft) (s : CloudState) :
    d.launch s.concealed = ((d.launch s).1, (d.launch s).2.concealed) := by
  obtain ⟨id, s₁, h₁, h₁'⟩ := d.exists_ocid "instance" s
  obtain ⟨vnic, s₂, h₂, h₂'⟩ := d.exists_ocid "vnic" s₁
  obtain ⟨attachment, s₃, h₃, h₃'⟩ := d.exists_ocid "vnicattachment" s₂
  have hl : s₃.concealed.locators = s₃.locators := rfl
  simp only [launch, h₁, h₁', h₂, h₂', h₃, h₃', hl, place_concealed]
  split
  · rfl
  · split
    · rfl
    · rfl

theorem launch_mirrors (s : CloudState) (c : Configuration) (now : Timestamp) (body : Json) :
    Mirrors s id (launch c now body) (launch c now body) := by
  refine .bind_same (.liftExcept_same _ _) fun d s₁ _ => ?_
  refine .bind_same (.atomically_same (d.launch_concealed s₁)) fun i s₂ _ => ?_
  exact .liftExcept_same _ _

theorem run_reply_concealed (status : Nat) (body : Json) (s : CloudState) :
    (reply status body).run s.concealed =
      (((reply status body).run s).1, ((reply status body).run s).2.concealed) := by
  obtain ⟨id, s', h, h'⟩ := s.exists_draw Generator.plainUuid
  rw [reply, Program.run_step, Program.run_step]
  simp only [h, h']

theorem answer_mirrors (s : CloudState) (body : Json) : Mirrors s id (answer body) (answer body) :=
  .lift (run_reply_concealed 200 body s)

theorem create_mirrors (s : CloudState) (c : Configuration) (resource : String) (call : Call) :
    Mirrors s id (create c resource call) (create c resource call) := by
  by_cases hr : resource = "instances"
  · subst hr
    unfold create
    simp only [ne_eq, not_true_eq_false, if_false]
    cases call.body with
    | none => exact .throw _ _ _
    | some body =>
      exact .bind_same (launch_mirrors _ c call.now body) fun i s₁ _ => answer_mirrors s₁ _
  · have hc : create c resource call = throw (.unmodelled .oracle .create resource) := by
      unfold create
      rw [if_pos hr]
      rfl
    rw [hc]
    exact .throw _ _ _

theorem replyPage_mirrors (s : CloudState) (call : Call) (items : List Json) :
    Mirrors s id (replyPage call items) (replyPage call items) := by
  refine .bind_same (.liftExcept_same _ _) fun limit s₁ _ => ?_
  refine .bind_same (.liftExcept_same _ _) fun p s₂ _ => ?_
  exact .bind_same (answer_mirrors _ _) fun r s₃ _ => .pure _ _

theorem look_mirrors (s : CloudState) (compartment : String) :
    Mirrors s id (Handler.look fun s => s.instances.list (.oracle compartment))
      (Handler.look fun s => s.instances.list (.oracle compartment)) :=
  .look_same (s.list_concealed_of_ne nofun)

theorem list_mirrors (s : CloudState) (c : Configuration) (resource : String) (call : Call) :
    Mirrors s id (list c resource call) (list c resource call) := by
  unfold list
  split
  · refine .bind_same (.liftExcept_same _ _) fun compartment s₁ _ => ?_
    refine .bind_same (look_mirrors s₁ compartment) fun instances s₂ _ => ?_
    exact .bind_same (.liftExcept_same _ _) fun selected s₃ _ => replyPage_mirrors s₃ _ _
  · refine .bind_same (.liftExcept_same _ _) fun compartment s₁ _ => ?_
    exact .bind_same (look_mirrors s₁ compartment) fun instances s₂ _ => replyPage_mirrors s₂ _ _
  · exact .bind_same (.liftExcept_same _ _) fun compartment s₁ _ => replyPage_mirrors s₁ _ _
  · exact .throw _ _ _

theorem find_mirrors (s : CloudState) (x : String) : Mirrors s id (find x) (find x) :=
  .of_exec rfl rfl

/-- Locators lead to compartments, which hold no machines. -/
theorem home_of_find (h : s.Sound c) {x : String} {l : Locator} {s' : CloudState}
    (hl : (find x).exec s = (.ok l, s')) : s' = s ∧ l.home.provider ≠ .azure := by
  obtain ⟨hg, rfl⟩ := Prod.ext_iff.mp hl
  obtain ⟨hm, -⟩ := (Store.get_eq_ok_iff h.identified).mp hg
  obtain ⟨compartment, i, -, rfl | ⟨nic, -, rfl⟩⟩ := (mem_locators h).mp hm
  · exact ⟨rfl, nofun⟩
  · exact ⟨rfl, nofun⟩

theorem lookup_mirrors (s : CloudState) {scope : Scope} (h : scope.provider ≠ .azure) (x : String) :
    Mirrors s id (Handler.lookup fun s => s.instances.get scope x)
      (Handler.lookup fun s => s.instances.get scope x) := by
  refine .lookup ?_
  rw [CloudState.get_concealed, Scope.conceal_eq_id h]

theorem get_mirrors (h : s.Sound c) (resource : String) (call : Call) :
    Mirrors s id (get c resource call) (get c resource call) := by
  unfold get
  split
  · refine .bind_same (.liftExcept_same _ _) fun x s₁ hs => ?_
    obtain ⟨-, rfl⟩ := Prod.ext_iff.mp hs
    refine .bind_same (find_mirrors _ _) fun l s₂ hl => ?_
    obtain ⟨rfl, hhome⟩ := home_of_find h hl
    refine .bind_same (lookup_mirrors _ hhome _) fun i s₃ _ => ?_
    exact .bind_same (.liftExcept_same _ _) fun described s₄ _ => answer_mirrors s₄ _
  · refine .bind_same (.liftExcept_same _ _) fun x s₁ hs => ?_
    obtain ⟨-, rfl⟩ := Prod.ext_iff.mp hs
    refine .bind_same (find_mirrors _ _) fun l s₂ hl => ?_
    obtain ⟨rfl, hhome⟩ := home_of_find h hl
    cases l.owner with
    | none => exact .throw _ _ _
    | some owner =>
      refine .bind_same (lookup_mirrors _ hhome _) fun i s₃ _ => ?_
      cases describeVnic l.home i x with
      | none => exact .throw _ _ _
      | some vnic => exact answer_mirrors _ _
  · exact .throw _ _ _

end Oracle

end CloudEmulation
