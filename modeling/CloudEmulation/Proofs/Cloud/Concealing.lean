import CloudEmulation.Proofs.Azure.Passwords
import CloudEmulation.Proofs.Cloud.State
/-!
States without the passwords of machines, and handlers that do the same in them.
-/

namespace CloudEmulation

namespace Store

variable {α : Type} [Identified α] {f : Scope → α → α} {s : Store α} {scope : Scope} {id : String}

/-- Changes every resource in a way that depends on its scope. -/
def mapScoped (f : Scope → α → α) (s : Store α) : Store α :=
  ⟨s.entries.map fun e => (e.1, f e.1 e.2)⟩

omit [Identified α] in
theorem list_mapScoped (f : Scope → α → α) (s : Store α) (scope : Scope) :
    (s.mapScoped f).list scope = (s.list scope).map (f scope) := by
  rw [list, list, mapScoped, List.filterMap_map, List.map_filterMap]
  refine List.filterMap_congr ?_
  intro e _
  by_cases h : e.1 = scope
  · simp [h]
  · simp [h]

omit [Identified α] in
theorem mapScoped_append (f : Scope → α → α) (s : Store α) (scope : Scope) (a : α) :
    (s.append scope a).mapScoped f = (s.mapScoped f).append scope (f scope a) := by
  simp [append, mapScoped]

theorem has_mapScoped (hf : ∀ scope a, identity (f scope a) = identity a) :
    (s.mapScoped f).has scope id = s.has scope id := by
  rw [has, has, list_mapScoped, List.any_map]
  simp [Function.comp_def, hf]

theorem get_mapScoped (hf : ∀ scope a, identity (f scope a) = identity a) :
    (s.mapScoped f).get scope id = (s.get scope id).map (f scope) := by
  have hp : (fun a => decide (identity a = id)) ∘ f scope = fun a => decide (identity a = id) := by
    funext a
    simp [hf]
  unfold get find?
  rw [list_mapScoped, List.find?_map, hp]
  cases (s.list scope).find? (identity · = id) <;> rfl

end Store

/-- A record without the password of its request, if it is in a scope that has machines. -/
def Scope.conceal (scope : Scope) (i : Instance) : Instance :=
  match scope with
  | .azure .. => i.concealed
  | _ => i

theorem Scope.conceal_eq_id {scope : Scope} (h : scope.provider ≠ .azure) : scope.conceal = id := by
  cases scope with
  | azure => exact absurd rfl h
  | _ => rfl

theorem Scope.identity_conceal (scope : Scope) (i : Instance) :
    identity (scope.conceal i) = identity i := by
  cases scope <;> rfl

namespace CloudState

variable {s : CloudState} {scope : Scope} {id : String}

def concealed (s : CloudState) : CloudState :=
  { s with instances := s.instances.mapScoped Scope.conceal }

theorem list_concealed (s : CloudState) (scope : Scope) :
    s.concealed.instances.list scope = (s.instances.list scope).map scope.conceal :=
  s.instances.list_mapScoped _ scope

theorem list_concealed_of_ne (s : CloudState) (h : scope.provider ≠ .azure) :
    s.concealed.instances.list scope = s.instances.list scope := by
  rw [list_concealed, Scope.conceal_eq_id h, List.map_id]

theorem get_concealed (s : CloudState) (scope : Scope) (id : String) :
    s.concealed.instances.get scope id = (s.instances.get scope id).map scope.conceal :=
  Store.get_mapScoped Scope.identity_conceal

theorem vacant_concealed (s : CloudState) (scope : Scope) (id : String) :
    s.concealed.vacant scope id = s.vacant scope id := by
  have hh : s.concealed.instances.has scope id = s.instances.has scope id :=
    Store.has_mapScoped Scope.identity_conceal
  rw [vacant, vacant, hh]

theorem addInstance_concealed (s : CloudState) (scope : Scope) (i : Instance) :
    (s.addInstance scope i).concealed = s.concealed.addInstance scope (scope.conceal i) := by
  rw [addInstance, addInstance, concealed, Store.mapScoped_append]
  rfl

/-! What does not concern instances is the same. -/

theorem exists_draw (s : CloudState) (f : Generator → String × Generator) :
    ∃ text s', s.draw f = (text, s') ∧ s.concealed.draw f = (text, s'.concealed) :=
  ⟨_, _, draw_eq s f, draw_eq s.concealed f⟩

theorem allocate_concealed (s : CloudState) :
    s.concealed.allocate = (s.allocate.1, s.allocate.2.concealed) := rfl

theorem assign_concealed (s : CloudState) (request : Option Address) :
    s.concealed.assign request = ((s.assign request).1, (s.assign request).2.concealed) := by
  cases request <;> rfl

end CloudState

namespace Handler

variable {α β γ δ : Type} {s : CloudState} {g : α → β} {k : γ → δ}

/-- Whether a handler ends in a state without passwords as another one does in the state with them;
results correspond to each other. -/
def Mirrors (s : CloudState) (g : α → β) (h : Handler α) (h' : Handler β) : Prop :=
  h'.exec s.concealed = ((h.exec s).1.map g, (h.exec s).2.concealed)

namespace Mirrors

theorem bind {h : Handler α} {h' : Handler β} {f : α → Handler γ} {f' : β → Handler δ}
    (hh : Mirrors s g h h')
    (hf : ∀ a s', h.exec s = (.ok a, s') → Mirrors s' k (f a) (f' (g a))) :
    Mirrors s k (h >>= f) (h' >>= f') := by
  unfold Mirrors at hh ⊢
  rw [exec_bind, exec_bind, hh]
  cases hx : h.exec s with
  | mk r s' =>
    cases r with
    | ok a => exact hf a s' hx
    | error e => rfl

theorem liftExcept {r : Except Fault α} {r' : Except Fault β} (h : r' = r.map g) :
    Mirrors s g (liftExcept r) (liftExcept r') := congrArg (·, s.concealed) h

theorem look {f : CloudState → α} {f' : CloudState → β} (h : f' s.concealed = g (f s)) :
    Mirrors s g (look f) (look f') := congrArg (Except.ok ·, s.concealed) h

theorem lookup {f : CloudState → Except Fault α} {f' : CloudState → Except Fault β}
    (h : f' s.concealed = (f s).map g) : Mirrors s g (lookup f) (lookup f') :=
  congrArg (·, s.concealed) h

theorem throw (s : CloudState) (g : α → β) (f : Fault) :
    Mirrors s g (throw f : Handler α) (throw f) := rfl

/-! Where the results are the same. -/

theorem of_exec {r : Except Fault α} {s' : CloudState} {h h' : Handler α}
    (hh : h.exec s = (r, s')) (hh' : h'.exec s.concealed = (r, s'.concealed)) :
    Mirrors s id h h' := by
  unfold Mirrors
  rw [hh, hh']
  cases r <;> rfl

theorem bind_same {h h' : Handler α} {f : α → Handler γ} {f' : α → Handler δ}
    (hh : Mirrors s id h h') (hf : ∀ a s', h.exec s = (.ok a, s') → Mirrors s' k (f a) (f' a)) :
    Mirrors s k (h >>= f) (h' >>= f') := .bind hh hf

theorem pure (s : CloudState) (a : α) :
    Mirrors s id (Pure.pure a : Handler α) (Pure.pure a) := rfl

theorem liftExcept_same (s : CloudState) (r : Except Fault α) :
    Mirrors s id (Handler.liftExcept r) (Handler.liftExcept r) :=
  of_exec (exec_liftExcept r s) (exec_liftExcept r _)

theorem look_same {f : CloudState → α} (h : f s.concealed = f s) :
    Mirrors s id (Handler.look f) (Handler.look f) :=
  of_exec (exec_look f s) (congrArg (Except.ok ·, s.concealed) h)

theorem atomically_same {f : CloudState → Except Fault α × CloudState}
    (h : f s.concealed = ((f s).1, (f s).2.concealed)) :
    Mirrors s id (atomically f) (atomically f) := of_exec rfl h

theorem lift {p : Program CloudState α}
    (h : p.run s.concealed = ((p.run s).1, (p.run s).2.concealed)) :
    Mirrors s id (ExceptT.lift p) (ExceptT.lift p) := by
  refine of_exec (exec_lift p s) ?_
  rw [exec_lift, h]

end Mirrors

end Handler

end CloudEmulation
